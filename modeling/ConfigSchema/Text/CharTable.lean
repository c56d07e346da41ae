import ConfigSchema.Text.CharSet

namespace ConfigSchema.Text

/-- A set of characters, written in lines, with all names that it goes by: in lower case, without
blanks, dashes and low lines. -/
structure CharTable where
  names : List String
  lines : List String

namespace CharTable

def chars (table : CharTable) : CharSet := .ofTable table.lines

def find? (tables : List CharTable) (name : String) : Option CharTable :=
  tables.find? fun table => table.names.contains name

end CharTable

end ConfigSchema.Text
