namespace ConfigSchema.Yaml

/-- A part of a YAML text. Indentation has become explicit: blocks start and end with tokens of
their own, and so do keys. -/
inductive Token
  | version (major minor : Nat)
  | tagDirective (handle lead : String)
  | documentStart
  | documentEnd
  | blockSequenceStart
  | blockMappingStart
  | blockEnd
  | flowSequenceStart
  | flowSequenceEnd
  | flowMappingStart
  | flowMappingEnd
  | blockEntry
  | flowEntry
  | key
  | value
  | reference (name : String)
  | anchor (name : String)
  | tag (handle suffix : String)
  | scalar (text : String) (plain : Bool)
  | streamEnd
deriving DecidableEq, Repr

end ConfigSchema.Yaml
