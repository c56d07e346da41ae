import ConfigSchema.Schema.Basic
import ConfigSchema.Violation

/-! # Validation (`check`)

Siblings are all checked, at every level and in the order of the schema; of a single value only the
first broken rule is reported. A present enum is also checked for its own default and examples,
whatever its value is. An absent property is wrong only if it is required: its default is trusted.
-/
namespace ConfigSchema

namespace Violation

/-- A value has the wrong kind (`mismatch`). -/
def ofKind (path : String) (expected : ValueKind) (value : Json) : Violation :=
  .typeMismatch path expected value.kind

end Violation

/-! ## Single values -/

/-- The first rule that a string breaks (`check_string`): its least length, its greatest length, its
pattern. Lengths count characters. -/
def StringRules.violation? (rules : StringRules) (path : String) (value : Json) :
    Option Violation :=
  match value with
  | .string text =>
    let tooShort := rules.minLength.filter fun min => text.length < min.toNat
    let tooLong := rules.maxLength.filter fun max => max.toNat < text.length
    match tooShort, tooLong, rules.pattern with
    | some min, _, _ => some (.tooShort path min)
    | none, some max, _ => some (.tooLong path max)
    | none, none, none => none
    | none, none, some source =>
      match Pattern.compile source with
      | .ok pattern => if pattern.isMatch text then none else some (.patternMismatch path source)
      | .error reason => some (.invalidPattern path source reason)
  | other => some (.ofKind path .string other)

/-- The bound that a number breaks (`check_number`). Numbers are compared as doubles. -/
def NumberRules.violation? (rules : NumberRules) (path : String) (value : Json) :
    Option Violation :=
  match value with
  | .number actual =>
    let double := ExtendedDouble.finite actual.toDouble
    let below := rules.min.filter fun min => double.lt min
    let above := rules.max.filter fun max => max.lt double
    match below, above with
    | some min, _ => some (.belowMinimum path min actual)
    | none, some max => some (.aboveMaximum path max actual)
    | none, none => none
  | other => some (.ofKind path .number other)

def booleanViolation? (path : String) (value : Json) : Option Violation :=
  match value with
  | .bool _ => none
  | other => some (.ofKind path .boolean other)

/-- A value in a message (`render`): strings bare, everything else as its text. -/
def Json.shown : Json → String
  | .string text => text
  | other => other.text

namespace EnumRules

/-- The enum branch of `validate_property_type`: only a string can be a literal. -/
def violation? (rules : EnumRules) (path : String) (value : Json) : Option Violation :=
  if (value.string?.any rules.allows) then none
  else some (.notInEnum path rules.allowed value.shown)

/-- What is wrong with an enum itself (`validate_enum_property`): a default outside its set, or else
the first such example. -/
def authoringViolation? (rules : EnumRules) (node : Declaration String) (path : String) :
    Option Violation :=
  match node.presence.default?.filter fun value => !rules.allows value with
  | some value => some (.defaultNotInEnum path value rules.allowed)
  | none =>
    (rules.examples.find? fun value => !rules.allows value).map fun value =>
      .exampleNotInEnum path value rules.allowed

end EnumRules

/-! ## Properties -/

/-- What `check_properties` adds for a property that is present: only enums have literals to check.
-/
def SchemaNode.authoringViolations (node : SchemaNode) (path : String) : List Violation :=
  match node with
  | .enum node rules => (rules.authoringViolation? node path).toList
  | .string _ _ | .number _ _ | .boolean _ _ | .object _ _ => []

mutual

/-- What is wrong with a value of a property (`validate_property_type`). An object is checked
property by property. -/
def SchemaNode.valueViolations (path : String) (value : Json) : SchemaNode → List Violation
  | .string _ rules => (rules.violation? path value).toList
  | .number _ rules => (rules.violation? path value).toList
  | .boolean _ _ => (booleanViolation? path value).toList
  | .enum _ rules => (rules.violation? path value).toList
  | .object _ properties =>
    match value with
    | .object members => membersViolations path members properties
    | other => [.ofKind path .object other]

/-- What is wrong with the declared members of an object (`check_properties`). -/
def membersViolations (parent : String) (members : Members Json) :
    List SchemaNode → List Violation
  | [] => []
  | node :: rest =>
    let path := parent ++ "." ++ node.name
    let own :=
      match members.get? node.name with
      | some value => node.valueViolations path value ++ node.authoringViolations path
      | none => if node.isRequired then [.missingProperty path] else []
    own ++ membersViolations parent members rest

end

/-! ## Sections -/

/-- What is wrong with a section (`check`). Null counts as absent, and only a section that declares
properties is looked into. -/
def SchemaNode.check (node : SchemaNode) (section' : Option Json) : List Violation :=
  match section'.filter fun value => !value.isNull with
  | none => if node.isRequired then [.missingSection node.name] else []
  | some value =>
    if node.properties.isEmpty then []
    else
      match value with
      | .object members => membersViolations node.name members node.properties
      | other => [.ofKind node.name .object other]

end ConfigSchema
