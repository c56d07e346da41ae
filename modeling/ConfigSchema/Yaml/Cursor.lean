/-! # Reading YAML texts

Every character that ends a line is a line break, and a carriage return joins a line feed behind it.
-/
namespace ConfigSchema.Yaml

/-- What is left of a text, and where the cursor stands in it. -/
structure Cursor where
  rest : List Char
  index : Nat := 0
  line : Nat := 0
  column : Nat := 0

/-! ## Classes of characters -/

def isBlank (c : Char) : Bool := c == ' ' || c == '\t'

def isBreak (c : Char) : Bool :=
  c == '\n' || c == '\r' || c == '\u0085' || c == '\u2028' || c == '\u2029'

def isGap (c : Option Char) : Bool := c.all fun c => isBlank c || isBreak c

def isLineEnd (c : Option Char) : Bool := c.all isBreak

def isWord (c : Char) : Bool := c.isAlphanum || c == '_' || c == '-'

/-- A character that may stand in a text at all. -/
def isAllowed (c : Char) : Bool :=
  let code := c.toNat
  code == 9 || code == 10 || code == 13 || (0x20 ≤ code && code ≤ 0x7E) || code == 0x85
    || (0xA0 ≤ code && code ≤ 0xFFFD) || 0x10000 ≤ code

/-! ## Steps -/

/-- A reader of YAML text: it moves a cursor and may fail. Why it fails is not told. -/
abbrev Scan := StateT Cursor Option

namespace Scan

def peekAt (n : Nat) : Scan (Option Char) := do return (← get).rest[n]?

def peek : Scan (Option Char) := peekAt 0

/-- Moves over one character of a line. -/
def skip : Scan Unit := modify fun cursor =>
  { cursor with rest := cursor.rest.drop 1, index := cursor.index + 1, column := cursor.column + 1 }

def skipMany : Nat → Scan Unit
  | 0 => return ()
  | n + 1 => do
    skip
    skipMany n

/-- Moves over a line break, if one is there, and gives what stands for it in a text. All breaks are
written as line feeds but the two separators, which stay. -/
def lineBreak : Scan (List Char) := do
  let cursor ← get
  let next (rest : List Char) (length : Nat) : Cursor :=
    { rest, index := cursor.index + length, line := cursor.line + 1, column := 0 }
  match cursor.rest with
  | '\r' :: '\n' :: rest =>
    set (next rest 2)
    return ['\n']
  | c :: rest =>
    if !isBreak c then return []
    set (next rest 1)
    return [if c == '\u2028' || c == '\u2029' then c else '\n']
  | [] => return []

def takeWhile (inClass : Char → Bool) : Scan (List Char) := do
  let run := (← get).rest.takeWhile inClass
  modify fun cursor => { cursor with
    rest := cursor.rest.drop run.length
    index := cursor.index + run.length
    column := cursor.column + run.length }
  return run

def skipBlanks : Scan Unit := do
  let _ ← takeWhile isBlank

/-- Moves to the end of the line over a comment, if one starts here. -/
def skipComment : Scan Unit := do
  if (← peek) == some '#' then
    let _ ← takeWhile fun c => !isBreak c

/-- Whether a mark between documents starts here: three dashes or three dots alone. -/
def atDocumentMark : Scan Bool := do
  let cursor ← get
  let mark := cursor.rest.take 3
  return cursor.column == 0 && (mark == ['-', '-', '-'] || mark == ['.', '.', '.'])
    && isGap cursor.rest[3]?

end Scan

end ConfigSchema.Yaml
