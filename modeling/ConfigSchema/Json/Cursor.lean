/-! # Reading positions

Lines are counted from one and end with a line feed; columns count the bytes between the start of
the line and the cursor, so that a fault found before a character is read is reported one byte
further on, and one found after it at the cursor itself. -/
namespace ConfigSchema

inductive SyntaxCause
  | endInValue | endInObject | endInArray | endInString
  | value | colon | commaOrBrace | commaOrBracket | word | key
  | trailingComma | trailingCharacters
  | number | range | escape | loneSurrogate | unpairedSurrogate | control
  | depth
deriving DecidableEq, Repr

def SyntaxCause.message : SyntaxCause → String
  | endInValue => "EOF while parsing a value"
  | endInObject => "EOF while parsing an object"
  | endInArray => "EOF while parsing a list"
  | endInString => "EOF while parsing a string"
  | value => "expected value"
  | colon => "expected `:`"
  | commaOrBrace => "expected `,` or `\x7d`"
  | commaOrBracket => "expected `,` or `]`"
  | word => "expected ident"
  | key => "key must be a string"
  | trailingComma => "trailing comma"
  | trailingCharacters => "trailing characters"
  | number => "invalid number"
  | range => "number out of range"
  | escape => "invalid escape"
  | loneSurrogate => "lone leading surrogate in hex escape"
  | unpairedSurrogate => "unexpected end of hex escape"
  | control => "control character (\\u0000-\\u001F) found while parsing a string"
  | depth => "recursion limit exceeded"

/-- A fault in a JSON text, and where it was noticed. -/
structure SyntaxError where
  cause : SyntaxCause
  line : Nat
  column : Nat
deriving DecidableEq, Repr

def SyntaxError.message (e : SyntaxError) : String :=
  e.cause.message ++ " at line " ++ toString e.line ++ " column " ++ toString e.column

/-- What is left of a text, and the position of its first character. -/
structure Cursor where
  rest : List Char
  line : Nat
  column : Nat

namespace Cursor

def start (text : String) : Cursor := ⟨text.toList, 1, 0⟩

def next (cursor : Cursor) : Cursor :=
  match cursor.rest with
  | [] => cursor
  | '\n' :: rest => ⟨rest, cursor.line + 1, 0⟩
  | c :: rest => ⟨rest, cursor.line, cursor.column + c.utf8Size⟩

/-- The cursor some bytes further on, and whether that many were left. A character that is cut
stays in front of the cursor. -/
def skipBytes (cursor : Cursor) : (bytes : Nat) → Cursor × Bool
  | bytes =>
    go cursor.rest cursor.line cursor.column bytes
where
  go : List Char → Nat → Nat → Nat → Cursor × Bool
    | rest, line, column, 0 => (⟨rest, line, column⟩, true)
    | [], line, column, _ + 1 => (⟨[], line, column⟩, false)
    | c :: rest, line, column, bytes + 1 =>
      if c = '\n' then go rest (line + 1) 0 bytes
      else if c.utf8Size ≤ bytes + 1 then
        go rest line (column + c.utf8Size) (bytes + 1 - c.utf8Size)
      else (⟨c :: rest, line, column + bytes + 1⟩, true)

def fault (cursor : Cursor) (cause : SyntaxCause) : SyntaxError :=
  ⟨cause, cursor.line, cursor.column⟩

/-- A fault one byte behind the cursor, unless the text ends here. -/
def faultAhead (cursor : Cursor) (cause : SyntaxCause) : SyntaxError :=
  match cursor.rest with
  | [] => cursor.fault cause
  | '\n' :: _ => ⟨cause, cursor.line + 1, 0⟩
  | _ :: _ => ⟨cause, cursor.line, cursor.column + 1⟩

end Cursor

/-- A reader of JSON text: it moves a cursor and may fail. -/
abbrev Scan := StateT Cursor (Except SyntaxError)

namespace Scan

def peek : Scan (Option Char) := do return (← get).rest.head?

def skip : Scan Unit := modify Cursor.next

def pop : Scan (Option Char) := do
  let c ← peek
  skip
  return c

def fail {α : Type} (cause : SyntaxCause) : Scan α := do throw ((← get).fault cause)

/-- Fails at the character in front of the cursor. -/
def failAhead {α : Type} (cause : SyntaxCause) : Scan α := do throw ((← get).faultAhead cause)

def isBlank (c : Char) : Bool := c == ' ' || c == '\n' || c == '\t' || c == '\r'

def skipWhile (inClass : Char → Bool) : Scan Unit := modify fun cursor =>
  (cursor.rest.takeWhile inClass).foldl (fun at' _ => at'.next) cursor

/-- Reads the longest run of characters of a class. -/
def takeWhile (inClass : Char → Bool) : Scan (List Char) := do
  let run := (← get).rest.takeWhile inClass
  skipWhile inClass
  return run

/-- Moves over blanks and looks at what follows. -/
def token : Scan (Option Char) := do
  skipWhile isBlank
  peek

end Scan

end ConfigSchema
