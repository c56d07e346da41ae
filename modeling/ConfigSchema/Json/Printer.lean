import ConfigSchema.Json.Basic
import ConfigSchema.Number.Numeral

namespace ConfigSchema

namespace Json

def hexEscape (code : Nat) : String :=
  String.ofList [Nat.digitChar (code / 4096 % 16), Nat.digitChar (code / 256 % 16),
    Nat.digitChar (code / 16 % 16), Nat.digitChar (code % 16)]

/-- Only the quote, the backslash and the control characters below the blank are escaped. -/
def escapeChar (c : Char) : String :=
  if c = '"' then "\\\""
  else if c = '\\' then "\\\\"
  else if c = '\n' then "\\n"
  else if c = '\t' then "\\t"
  else if c = '\r' then "\\r"
  else if c.toNat = 8 then "\\b"
  else if c.toNat = 12 then "\\f"
  else if c.toNat < 32 then "\\u" ++ hexEscape c.toNat
  else c.toString

def quote (s : String) : String :=
  s.toList.foldl (fun done c => done ++ escapeChar c) "\"" ++ "\""

end Json

/-- Integers in digits; doubles by the shortest numeral that shows they are doubles. -/
def Number.text : Number → String
  | .integer n => toString n.val
  | .double x => x.numeral .json

namespace Json

mutual

/-- The text of a document, without blanks and with members in their order. -/
def text : Json → String
  | null => "null"
  | bool true => "true"
  | bool false => "false"
  | number value => value.text
  | string value => quote value
  | array items => "[" ++ textItems items ++ "]"
  | object members => "\x7b" ++ textMembers members ++ "\x7d"

def textItems : List Json → String
  | [] => ""
  | [item] => item.text
  | item :: rest => item.text ++ "," ++ textItems rest

def textMembers : List (String × Json) → String
  | [] => ""
  | [(name, value)] => quote name ++ ":" ++ value.text
  | (name, value) :: rest => quote name ++ ":" ++ value.text ++ "," ++ textMembers rest

end

end Json

end ConfigSchema
