import ConfigSchema.Kind.Reader
import ConfigSchema.Proofs.Revalidation
import ConfigSchema.Schema.Printer
import ConfigSchema.Schema.TextReader
import ConfigSchema.Source.Load
import ConfigSchema.Proofs.Decoding
import ConfigSchema.Proofs.Declarations
import ConfigSchema.Proofs.Canonical
import ConfigSchema.Proofs.Names
import ConfigSchema.Proofs.Language
import ConfigSchema.Proofs.RoundTrip
import ConfigSchema.Proofs.Provenance
import ConfigSchema.Proofs.Loading
import ConfigSchema.Proofs.Reordering
import ConfigSchema.Proofs.WrittenDefaults
import ConfigSchema.Proofs.Extension
import ConfigSchema.Proofs.Conversion
import ConfigSchema.Proofs.Nesting
import ConfigSchema.Proofs.Relaxation
import ConfigSchema.Proofs.Duplicates
import ConfigSchema.Proofs.JsonForm
import ConfigSchema.Proofs.DeclaredPart
import ConfigSchema.Proofs.StrayLiterals
import ConfigSchema.Proofs.Views
import ConfigSchema.Proofs.Trace
import ConfigSchema.Proofs.IntegerBounds
import ConfigSchema.Proofs.Depth
