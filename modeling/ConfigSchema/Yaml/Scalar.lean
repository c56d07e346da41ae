import ConfigSchema.Yaml.Cursor

/-! # The texts of scalars

Inside plain and quoted scalars line breaks are folded: a single one counts as a space, and of
several the first is dropped. A literal block keeps its breaks, a folded one folds those between
lines that do not start with a blank. -/
namespace ConfigSchema.Yaml

/-! ## Folding -/

/-- The blank space between two parts of a scalar. -/
structure Gap where
  /-- Blanks in front of the first line break. -/
  blanks : List Char := []
  /-- The first line break; none if it was escaped. -/
  first : List Char := []
  /-- The line breaks after the first one. -/
  more : List Char := []
  /-- Whether the line has ended. -/
  broken : Bool := false

def Gap.text (gap : Gap) : List Char :=
  if !gap.broken then gap.blanks
  else if gap.first == ['\n'] then
    if gap.more.isEmpty then [' '] else gap.more
  else gap.first ++ gap.more

namespace Scan

/-- Reads a gap. A tab must not stand before the given column on a new line. -/
def gap (tabColumn : Nat) : (fuel : Nat) → Gap → Scan Gap
  | 0, gap => return gap
  | fuel + 1, found => do
    match ← peek with
    | none => return found
    | some c =>
      if isBlank c then
        if found.broken && c == '\t' && (← get).column < tabColumn then failure
        skip
        gap tabColumn fuel
          (if found.broken then found else { found with blanks := found.blanks ++ [c] })
      else if isBreak c then
        let read ← lineBreak
        gap tabColumn fuel <|
          if found.broken then { found with more := found.more ++ read }
          else { found with blanks := [], first := read, broken := true }
      else return found

/-! ## Plain scalars -/

/-- Whether a plain scalar ends at a character, given the one behind it. Inside brackets, a colon
must not stand before another indicator. -/
def endsPlain (inFlow : Bool) (c : Char) (next : Option Char) : Option Bool :=
  let indicator := next.any fun d => [',', '?', '[', ']', '{', '}'].contains d
  if inFlow && c == ':' && indicator then none
  else some ((c == ':' && isGap next) || (inFlow && [',', '[', ']', '{', '}'].contains c))

/-- The characters of a plain scalar up to the next gap, in reverse. -/
def plainWord (inFlow : Bool) : (fuel : Nat) → List Char → Scan (List Char)
  | 0, word => return word
  | fuel + 1, word => do
    match ← peek with
    | none => return word
    | some c =>
      if isBlank c || isBreak c then return word
      if ← endsPlain inFlow c (← peekAt 1) then return word
      skip
      plainWord inFlow fuel (c :: word)

/-- A plain scalar, in reverse, and whether a line ended behind it. -/
def plainParts (inFlow : Bool) (indent : Nat) : (fuel : Nat) → List Char → Gap →
    Scan (List Char × Bool)
  | 0, done, before => return (done, before.broken)
  | fuel + 1, done, before => do
    if (← atDocumentMark) || (← peek) == some '#' then return (done, before.broken)
    let word ← plainWord inFlow (← get).rest.length []
    let (done, before) :=
      if word.isEmpty then (done, before) else (word ++ before.text.reverse ++ done, {})
    let next ← peek
    if next.isNone || !isGap next then return (done, before.broken)
    let behind ← gap indent (← get).rest.length {}
    if !inFlow && (← get).column < indent then return (done, behind.broken)
    plainParts inFlow indent fuel done behind

/-- A plain scalar whose further lines stand at a column or beyond, and whether a line ended behind
it. -/
def plain (inFlow : Bool) (indent : Nat) : Scan (String × Bool) := do
  let (text, broken) ← plainParts inFlow indent ((← get).rest.length + 1) [] {}
  return (String.ofList text.reverse, broken)

/-! ## Quoted scalars -/

def hexValue? (c : Char) : Option Nat :=
  if c.isDigit then some (c.toNat - '0'.toNat)
  else if 'a' ≤ c && c ≤ 'f' then some (c.toNat - 'a'.toNat + 10)
  else if 'A' ≤ c && c ≤ 'F' then some (c.toNat - 'A'.toNat + 10)
  else none

def hexNumber (length : Nat) : Scan Nat := do
  let digits := (← get).rest.take length
  if digits.length < length then failure
  let values ← (digits.mapM hexValue? : Option (List Nat))
  skipMany length
  return values.foldl (fun n d => n * 16 + d) 0

def codeEscape (length : Nat) : Scan Char := do
  let code ← hexNumber length
  if (0xD800 ≤ code && code ≤ 0xDFFF) || code > 0x10FFFF then failure
  return Char.ofNat code

def letterEscape? : Char → Option Char
  | '0' => some '\x00'
  | 'a' => some '\x07'
  | 'b' => some '\x08'
  | 't' => some '\t'
  | '\t' => some '\t'
  | 'n' => some '\n'
  | 'v' => some '\x0b'
  | 'f' => some '\x0c'
  | 'r' => some '\r'
  | 'e' => some '\x1b'
  | ' ' => some ' '
  | '"' => some '"'
  | '/' => some '/'
  | '\\' => some '\\'
  | 'N' => some '\u0085'
  | '_' => some '\u00a0'
  | 'L' => some '\u2028'
  | 'P' => some '\u2029'
  | _ => none

/-- The character that an escape stands for, after the backslash. -/
def escape : Scan Char := do
  match ← peek with
  | none => failure
  | some c =>
    skip
    match c with
    | 'x' => codeEscape 2
    | 'u' => codeEscape 4
    | 'U' => codeEscape 8
    | c => (letterEscape? c : Option Char)

/-- The characters of a quoted scalar up to the next gap, in reverse, and whether that gap starts
with an escaped line break. -/
def quotedWord (quote : Char) : (fuel : Nat) → List Char → Scan (List Char × Bool)
  | 0, word => return (word, false)
  | fuel + 1, word => do
    match ← peek with
    | none => return (word, false)
    | some c =>
      if isBlank c || isBreak c then return (word, false)
      else if c == quote then
        if quote == '\'' && (← peekAt 1) == some '\'' then
          skipMany 2
          quotedWord quote fuel ('\'' :: word)
        else return (word, false)
      else if quote == '"' && c == '\\' then
        skip
        if (← peek).any isBreak then
          let _ ← lineBreak
          return (word, true)
        let c ← escape
        quotedWord quote fuel (c :: word)
      else
        skip
        quotedWord quote fuel (c :: word)

/-- A quoted scalar in reverse. -/
def quotedParts (quote : Char) : (fuel : Nat) → List Char → Scan (List Char)
  | 0, _ => failure
  | fuel + 1, done => do
    if (← atDocumentMark) || (← peek).isNone then failure
    let (word, escaped) ← quotedWord quote ((← get).rest.length + 1) []
    let done := word ++ done
    if (← peek) == some quote then return done
    let between ← gap 0 (← get).rest.length { broken := escaped }
    quotedParts quote fuel (between.text.reverse ++ done)

/-- A quoted scalar, from its opening quote on. -/
def quoted (quote : Char) : Scan String := do
  skip
  let text ← quotedParts quote ((← get).rest.length + 1) []
  skip
  return String.ofList text.reverse

/-! ## Blocks -/

/-- Which line breaks at the end of a block are kept. -/
inductive Chomping
  | strip | clip | keep
deriving DecidableEq

def chomping? : Scan (Option Chomping) := do
  match ← peek with
  | some '+' =>
    skip
    return some .keep
  | some '-' =>
    skip
    return some .strip
  | _ => return none

/-- How far a block says that it is indented. -/
def indentation? : Scan (Option Nat) := do
  match ← peek with
  | some c =>
    if !c.isDigit then return none
    if c == '0' then failure
    skip
    return some (c.toNat - '0'.toNat)
  | none => return none

/-- Reads the indentation of a line and the empty lines before it. While the indentation of the
block is not known, all spaces belong to it. -/
def blockBreaks (indent : Option Nat) : (fuel : Nat) → (widest : Nat) → List Char →
    Scan (Nat × List Char)
  | 0, widest, breaks => return (widest, breaks)
  | fuel + 1, widest, breaks => do
    let cursor ← get
    let spaces := (cursor.rest.takeWhile (· == ' ')).length
    skipMany (match indent with
      | some indent => min spaces (indent - cursor.column)
      | none => spaces)
    let column := (← get).column
    let widest := max widest column
    if (← peek) == some '\t' && indent.all (column < ·) then failure
    if (← peek).any isBreak then
      let read ← lineBreak
      blockBreaks indent fuel widest (breaks ++ read)
    else return (widest, breaks)

/-- The lines of a block in reverse, with the line break and the empty lines behind the last. -/
def blockLines (literal : Bool) (indent : Nat) : (fuel : Nat) →
    (done lastBreak breaks : List Char) → (blankBefore : Bool) →
    Scan (List Char × List Char × List Char)
  | 0, done, lastBreak, breaks, _ => return (done, lastBreak, breaks)
  | fuel + 1, done, lastBreak, breaks, blankBefore => do
    let next ← peek
    if (← get).column != indent || next.isNone then return (done, lastBreak, breaks)
    let blank := next.any isBlank
    let joined :=
      if !literal && lastBreak == ['\n'] && !blankBefore && !blank then
        if breaks.isEmpty then [' '] else breaks
      else lastBreak ++ breaks
    let line ← takeWhile fun c => !isBreak c
    let lastBreak ← lineBreak
    let (_, breaks) ← blockBreaks (some indent) ((← get).rest.length + 1) 0 []
    blockLines literal indent fuel (line.reverse ++ joined.reverse ++ done) lastBreak breaks blank

/-- A block, from its mark on, inside a block of the given indentation. -/
def block (literal : Bool) (parent : Int) : Scan String := do
  skip
  let mut chomping ← chomping?
  let increment ← indentation?
  if chomping.isNone then chomping ← chomping?
  skipBlanks
  skipComment
  if !isLineEnd (← peek) then failure
  let _ ← lineBreak
  let given := increment.map fun increment => parent.toNat + increment
  let (widest, breaks) ← blockBreaks given ((← get).rest.length + 1) 0 []
  let indent := given.getD (max widest (max (parent + 1).toNat 1))
  let (text, lastBreak, trailing) ←
    blockLines literal indent ((← get).rest.length + 1) [] [] breaks false
  let tail :=
    match chomping with
    | some .strip => []
    | none | some .clip => lastBreak
    | some .keep => lastBreak ++ trailing
  return String.ofList (text.reverse ++ tail)

end Scan

end ConfigSchema.Yaml
