import ConfigSchema.Text.Properties

namespace ConfigSchema.Text

def hex (code : Nat) : String := String.ofList (Nat.toDigits 16 code)

def quotedChar (c : Char) : String :=
  if c = '\x00' then "\\0"
  else if c = '\t' then "\\t"
  else if c = '\r' then "\\r"
  else if c = '\n' then "\\n"
  else if c = '"' then "\\\""
  else if c = '\\' then "\\\\"
  else if ' ' ≤ c && c ≤ '~' then c.toString
  else if extending.has c || (unprintable.has c && c ≠ ' ') then
    "\\u\x7b" ++ hex c.toNat ++ "\x7d"
  else c.toString

/-- A string as a message shows it: between quotes, with the quote, the backslash and the common
controls escaped by a letter, and every other character that would not show by its code. -/
def quoted (s : String) : String := "\"" ++ String.join (s.toList.map quotedChar) ++ "\""

end ConfigSchema.Text
