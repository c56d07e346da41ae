import ConfigSchema.Json.Basic
import ConfigSchema.Number.Numeral
import ConfigSchema.Text.Quoted

/-! # Decoding documents

Records are decoded from objects, member by member in their order, so the first member that does not
fit is the one reported. -/
namespace ConfigSchema

/-! ## Reasons -/

inductive Found
  | null
  | bool (value : Bool)
  | integer (value : Int)
  | double (value : Double)
  | string (value : String)
  | array
  | object
deriving DecidableEq, Repr

def Found.text : Found → String
  | null => "null"
  | bool true => "boolean `true`"
  | bool false => "boolean `false`"
  | integer value => "integer `" ++ toString value ++ "`"
  | double value => "floating point `" ++ value.numeral .json ++ "`"
  | string value => "string " ++ Text.quoted value
  | array => "sequence"
  | object => "map"

/-- What would have been right, as messages say it. -/
inductive Expected
  | string | boolean | number | object | array
  | length | bound | word16 | word64 | nothing
  | nameOrEntry | singleEntry
  | kindName | kindIndex (count : Nat)
  | record (name : String)
  | recordOf (name : String) (count : Nat)
  | property
  | fewerItems
deriving DecidableEq, Repr

/-- What a message says about what would have been right. -/
def Expected.text : Expected → String
  | string => "a string"
  | boolean => "a boolean"
  | number => "a JSON number"
  | object => "a map"
  | array => "a sequence"
  | length => "usize"
  | bound => "f64"
  | word16 => "u16"
  | word64 => "i64"
  | nothing => "unit"
  | nameOrEntry => "string or map"
  | singleEntry => "map with a single key"
  | kindName => "variant identifier"
  | kindIndex count => "variant index 0 <= i < " ++ toString count
  | record name => "struct " ++ name
  | recordOf name count => "struct " ++ name ++ " with " ++ toString count ++ " elements"
  | property => "internally tagged enum SchemaNode"
  | fewerItems => "fewer elements in array"

inductive DecodeError
  | wrongType (found : Found) (expected : Expected)
  | wrongValue (found : Found) (expected : Expected)
  | wrongLength (length : Nat) (expected : Expected)
  | unknownKind (name : String) (known : List String)
  | missingField (name : String)
  | duplicateField (name : String)
  | requiredWithDefault
  | emptyEnum
deriving DecidableEq, Repr

/-- Names between backticks, as alternatives. -/
def alternatives : List String → String
  | [] => "there are no variants"
  | [a] => "expected `" ++ a ++ "`"
  | [a, b] => "expected `" ++ a ++ "` or `" ++ b ++ "`"
  | names =>
    "expected one of " ++ String.intercalate ", " (names.map fun name => "`" ++ name ++ "`")

def DecodeError.message : DecodeError → String
  | wrongType found expected => "invalid type: " ++ found.text ++ ", expected " ++ expected.text
  | wrongValue found expected => "invalid value: " ++ found.text ++ ", expected " ++ expected.text
  | wrongLength length expected =>
    "invalid length " ++ toString length ++ ", expected " ++ expected.text
  | unknownKind name known => "unknown variant `" ++ name ++ "`, " ++ alternatives known
  | missingField name => "missing field `" ++ name ++ "`"
  | duplicateField name => "duplicate field `" ++ name ++ "`"
  | requiredWithDefault => "a property cannot be both required and carry a defaultValue"
  | emptyEnum => "enum property must declare at least one allowed value"

abbrev Decoded (α : Type) := Except DecodeError α

namespace Json

/-- How a document is described in a reason. -/
def found : Json → Found
  | null => .null
  | bool value => .bool value
  | number (.integer n) => .integer n.val
  | number (.double x) => .double x
  | string value => .string value
  | array _ => .array
  | object _ => .object

/-- The failure of a document that has the wrong kind. -/
def mistyped {α : Type} (document : Json) (expected : Expected) : Decoded α :=
  .error (.wrongType document.found expected)

/-! ## Single values -/

def toText : Json → Decoded String
  | string value => .ok value
  | other => other.mistyped .string

def toFlag : Json → Decoded Bool
  | bool value => .ok value
  | other => other.mistyped .boolean

def toNumber : Json → Decoded Number
  | number value => .ok value
  | other => other.mistyped .number

/-- The canonical members of an object. -/
def toMembers : Json → Decoded (Members Json)
  | object members => .ok (Members.sorted (canonicalMembers members))
  | other => other.mistyped .object

/-- A length: an integer that is not negative. Doubles are no lengths, even whole ones. -/
def toLength : Json → Decoded UInt64
  | number (.integer n) =>
    if n.val < 0 then .error (.wrongValue (.integer n.val) .length)
    else .ok (UInt64.ofNat n.val.toNat)
  | other => other.mistyped .length

def toWord16 : Json → Decoded UInt16
  | number (.integer n) =>
    if 0 ≤ n.val ∧ n.val < 0x10000 then .ok (UInt16.ofNat n.val.toNat)
    else .error (.wrongValue (.integer n.val) .word16)
  | other => other.mistyped .word16

def toWord64 : Json → Decoded Integer64
  | number (.integer n) =>
    if n.val < 0x8000000000000000 then .ok n else .error (.wrongValue (.integer n.val) .word64)
  | other => other.mistyped .word64

/-- A bound: any number, integers being rounded. -/
def toBound : Json → Decoded ExtendedDouble
  | number value => .ok (.finite value.toDouble)
  | other => other.mistyped .bound

def toList {α : Type} (item : Json → Decoded α) : Json → Decoded (List α)
  | array items => items.mapM item
  | other => other.mistyped .array

def toMap {α : Type} (value : Json → Decoded α) : Json → Decoded (Members α)
  | object members => members.mapM fun (name, entry) => do return (name, ← value entry)
  | other => other.mistyped .object

/-- Null stands for nothing. -/
def toOption {α : Type} (value : Json → Decoded α) : Json → Decoded (Option α)
  | null => .ok none
  | other => some <$> value other

/-! ## Records -/

/-- Decodes the members of an object that a record knows, in their order. Each may be given once;
members that the record does not know are passed over. -/
def decodeMembers {σ β : Type} (field : σ → String → β → Option (Decoded σ)) :
    (seen : List String) → σ → Members β → Decoded σ
  | _, record, [] => .ok record
  | seen, record, (name, value) :: rest =>
    match field record name value with
    | none => decodeMembers field seen record rest
    | some decoded =>
      if seen.contains name then .error (.duplicateField name)
      else
        match decoded with
        | .error reason => .error reason
        | .ok record => decodeMembers field (name :: seen) record rest

def require {α : Type} (name : String) : Option α → Decoded α
  | some value => .ok value
  | none => .error (.missingField name)

end Json

end ConfigSchema
