import ConfigSchema.Violation

/-! # Events

What validating, resolving and loading log while they run. An event is data; its level, its message
and its fields follow from it. -/
namespace ConfigSchema

inductive Level
  | debug | warn | error
deriving DecidableEq, Repr

def Level.name : Level → String
  | debug => "DEBUG"
  | warn => "WARN"
  | error => "ERROR"

inductive EventField
  | count (n : Nat)
  | text (value : String)
deriving DecidableEq, Repr

/-- What is logged: by `validate_schema` (`sectionValidated`), by `configure` (the next four), by
`load_config` (`pathChosen`) and by `read_config_file`. -/
inductive Event
  | sectionValidated (name : String) (violations : Nat)
  | validationFailed (violations : Nat)
  | violated (violation : Violation)
  | sectionFailed (name error : String)
  | resolved (sections : Nat)
  | pathChosen (path origin : String)
  | fileMissing (path : String)
  | fileUnusable (path reason : String)
deriving DecidableEq

namespace Event

def level : Event → Level
  | sectionValidated _ _ | resolved _ | pathChosen _ _ => .debug
  | fileMissing _ | fileUnusable _ _ => .warn
  | validationFailed _ | violated _ | sectionFailed _ _ => .error

def message : Event → String
  | sectionValidated _ _ => "validated configuration section"
  | validationFailed _ => "Configuration validation failed"
  | violated violation => "- " ++ violation.message
  | sectionFailed _ _ => "failed to resolve configuration section"
  | resolved _ => "configuration resolved"
  | pathChosen _ _ => "resolved configuration path"
  | fileMissing _ => "Config file not found"
  | fileUnusable _ _ => "Failed to parse config file"

def fields : Event → Members EventField
  | sectionValidated name violations => [("section", .text name), ("violations", .count violations)]
  | validationFailed violations => [("violations", .count violations)]
  | violated _ => []
  | sectionFailed name error => [("section", .text name), ("error", .text error)]
  | resolved sections => [("sections", .count sections)]
  | pathChosen path origin => [("path", .text path), ("origin", .text origin)]
  | fileMissing path => [("path", .text path)]
  | fileUnusable path reason => [("path", .text path), ("reason", .text reason)]

end Event

/-- A result together with the events on the way to it. -/
structure Traced (α : Type) where
  result : α
  events : List Event := []

namespace Traced

variable {α β : Type}

/-- Goes on from a result, after its events. -/
def bind (traced : Traced α) (next : α → Traced β) : Traced β :=
  let rest := next traced.result
  ⟨rest.result, traced.events ++ rest.events⟩

instance : Monad Traced where
  pure result := ⟨result, []⟩
  bind := bind

def emit (event : Event) : Traced Unit := ⟨(), [event]⟩

end Traced

end ConfigSchema
