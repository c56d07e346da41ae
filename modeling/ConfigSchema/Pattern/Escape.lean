import ConfigSchema.Pattern.Cursor

namespace ConfigSchema.Pattern.Read

/-- A text split at the first place where another one stands in it. -/
def splitAt? (mark : List Char) : List Char → Option (List Char × List Char)
  | [] => none
  | c :: rest =>
    if mark.isPrefixOf (c :: rest) then some ([], (c :: rest).drop mark.length)
    else (splitAt? mark rest).map fun (before, behind) => (c :: before, behind)

/-- A property by the text between its braces, and whether its lack is meant. -/
def propertyOfText (text : List Char) : PropertyName × Bool :=
  let withValue (parts : List Char × List Char) : PropertyName :=
    .withValue (String.ofList parts.1) (String.ofList parts.2)
  match splitAt? ['!', '='] text with
  | some parts => (withValue parts, true)
  | none =>
    match splitAt? [':'] text <|> splitAt? ['='] text with
    | some parts => (withValue parts, false)
    | none => (.single (String.ofList text), false)

def property (negated : Bool) : Read Written := do
  if !(← next) then throw .escapeUnfinished
  if ← sees '{' then
    let _ ← next
    let text ← spacedRun (· ≠ '}')
    if ← atEnd then throw .escapeUnfinished
    skip
    let (name, lacks) := propertyOfText text
    return .property name (negated != lacks)
  match ← peek with
  | some c =>
    if c == '\\' then throw .unicodeClassInvalid
    let _ ← next
    return .property (.single c.toString) negated
  | none => throw .escapeUnfinished

/-- The boundary of a word, after its letter. A name in braces may say which; braces that start with
anything else are a repetition. -/
def wordBoundary : Read Place := do
  if !(← sees '{') then return .word .boundary
  let before ← get
  let inName (c : Char) : Bool := c.isAlpha || c == '-'
  if !(← next) then throw .wordBoundaryUnfinished
  if !(← peek).any inName then
    set before
    return .word .boundary
  let name ← spacedRun inName
  if !(← sees '}') then throw .wordBoundaryUnclosed
  skip
  match String.ofList name with
  | "start" => return .word .start
  | "end" => return .word .finish
  | "start-half" => return .word .startHalf
  | "end-half" => return .word .finishHalf
  | _ => throw .wordBoundaryUnrecognized

def letterEscape? : Char → Option Char
  | 'a' => some '\x07'
  | 'f' => some '\x0c'
  | 't' => some '\t'
  | 'n' => some '\n'
  | 'r' => some '\r'
  | 'v' => some '\x0b'
  | _ => none

/-- The classes that a letter stands for. A capital letter negates. -/
def letterClass? : Char → Option (LetterClass × Bool)
  | 'd' => some (.digit, false)
  | 's' => some (.space, false)
  | 'w' => some (.word, false)
  | 'D' => some (.digit, true)
  | 'S' => some (.space, true)
  | 'W' => some (.word, true)
  | _ => none

/-- The places that a character stands for after a backslash. -/
def placeEscape? : Char → Option Place
  | 'A' => some .textStart
  | 'z' => some .textEnd
  | 'B' => some (.word .noBoundary)
  | '<' => some (.word .start)
  | '>' => some (.word .finish)
  | _ => none

/-- An escape, from its backslash on. Any character of ASCII that is neither a letter nor a digit
stands for itself. -/
def escape : Read Written := do
  skip
  match ← peek with
  | none => throw .escapeUnfinished
  | some c =>
    if c.isDigit then throw .backreference
    else if c == 'x' then return .literal (← hexLiteral 2)
    else if c == 'u' then return .literal (← hexLiteral 4)
    else if c == 'U' then return .literal (← hexLiteral 8)
    else if c == 'p' then property false
    else if c == 'P' then property true
    else
      skip
      if c == 'b' then return .place (← wordBoundary)
      else if let some (kind, negated) := letterClass? c then return .letter kind negated
      else if let some char := letterEscape? c then return .literal { char }
      else if let some place := placeEscape? c then return .place place
      else if c.toNat < 0x80 && !c.isAlpha then return .literal { char := c }
      else throw .escapeUnrecognized

end ConfigSchema.Pattern.Read
