import ConfigSchema.Json.Printer
import ConfigSchema.Kind
import ConfigSchema.Pattern.Basic

/-! # What validation finds -/
namespace ConfigSchema

/-- What validation finds. Only the data is kept; `message` is the wording. -/
inductive Violation
  | missingSection (name : String)
  | missingProperty (path : String)
  | typeMismatch (path : String) (expected actual : ValueKind)
  | tooShort (path : String) (min : UInt64)
  | tooLong (path : String) (max : UInt64)
  | patternMismatch (path pattern : String)
  | invalidPattern (path pattern : String) (reason : Pattern.Error)
  | belowMinimum (path : String) (min : ExtendedDouble) (actual : Number)
  | aboveMaximum (path : String) (max : ExtendedDouble) (actual : Number)
  | notInEnum (path : String) (allowed : List String) (actual : String)
  | defaultNotInEnum (path value : String) (allowed : List String)
  | exampleNotInEnum (path value : String) (allowed : List String)
deriving DecidableEq

/-- A bound in a message: a plain decimal, without a point if it is whole. -/
def ExtendedDouble.boundText : ExtendedDouble → String
  | finite x => x.numeral .plain
  | infinite false => "inf"
  | infinite true => "-inf"
  | nan => "NaN"

namespace Violation

/-- The dotted path of the property, or the name of the section. -/
def path : Violation → String
  | missingSection name => name
  | missingProperty path => path
  | typeMismatch path _ _ => path
  | tooShort path _ => path
  | tooLong path _ => path
  | patternMismatch path _ => path
  | invalidPattern path _ _ => path
  | belowMinimum path _ _ => path
  | aboveMaximum path _ _ => path
  | notInEnum path _ _ => path
  | defaultNotInEnum path _ _ => path
  | exampleNotInEnum path _ _ => path

/-- Whether the schema is at fault and not the configuration (`is_authoring_error`). -/
def isAuthoringError : Violation → Bool
  | invalidPattern _ _ _ | defaultNotInEnum _ _ _ | exampleNotInEnum _ _ _ => true
  | _ => false

def literals (allowed : List String) : String := "[" ++ String.intercalate ", " allowed ++ "]"

def message : Violation → String
  | missingSection name => "Configuration section '" ++ name ++ "' is missing"
  | missingProperty path => "Required property '" ++ path ++ "' is missing"
  | typeMismatch path expected actual =>
    "Property '" ++ path ++ "' must be " ++ expected.withArticle ++ ", got " ++ actual.name
  | tooShort path min =>
    "Property '" ++ path ++ "' must be at least " ++ toString min.toNat ++ " characters long"
  | tooLong path max =>
    "Property '" ++ path ++ "' must be at most " ++ toString max.toNat ++ " characters long"
  | patternMismatch path pattern => "Property '" ++ path ++ "' does not match pattern " ++ pattern
  | invalidPattern path pattern reason =>
    "Property '" ++ path ++ "' declares an invalid pattern " ++ pattern ++ ": " ++ reason.message
  | belowMinimum path min actual =>
    "Property '" ++ path ++ "' must be >= " ++ min.boundText ++ ", got " ++ actual.text
  | aboveMaximum path max actual =>
    "Property '" ++ path ++ "' must be <= " ++ max.boundText ++ ", got " ++ actual.text
  | notInEnum path allowed actual =>
    "Property '" ++ path ++ "' must be one of " ++ literals allowed ++ ", got " ++ actual
  | defaultNotInEnum path value allowed =>
    "Default value '" ++ value ++ "' for '" ++ path ++ "' is not in enum " ++ literals allowed
  | exampleNotInEnum path value allowed =>
    "Example value '" ++ value ++ "' for '" ++ path ++ "' is not in enum " ++ literals allowed

/-- Several violations in one line, as a `ValidationResult` is displayed. -/
def summary (violations : List Violation) : String :=
  String.intercalate ", " (violations.map message)

end Violation

end ConfigSchema
