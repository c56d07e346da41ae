import ConfigSchema.Pattern.Written
import ConfigSchema.Text.Properties

namespace ConfigSchema.Pattern

/-- What is left of a pattern's text, and what its beginning has set. -/
structure Reading where
  rest : List Char
  verbose : Bool := false
  /-- The names of groups. -/
  names : List String := []

abbrev Read := StateT Reading (Except Error)

namespace Read

/-! ## Steps -/

def peek : Read (Option Char) := do return (← get).rest.head?

def atEnd : Read Bool := do return (← get).rest.isEmpty

def sees (c : Char) : Read Bool := do return (← peek) == some c

def skip (n : Nat := 1) : Read Unit := modify fun reading =>
  { reading with rest := reading.rest.drop n }

def skipText (text : String) : Read Bool := do
  if text.toList.isPrefixOf (← get).rest then
    skip text.length
    return true
  return false

def withoutSpace (inComment : Bool) : List Char → List Char
  | [] => []
  | c :: rest =>
    if inComment then withoutSpace (c != '\n') rest
    else if Text.blanks.has c then withoutSpace false rest
    else if c == '#' then withoutSpace true rest
    else c :: rest

/-- Moves over blank space and comments in verbose parts. -/
def skipSpace : Read Unit := modify fun reading =>
  if reading.verbose then { reading with rest := withoutSpace false reading.rest } else reading

/-- Moves over a character and the blank space behind it, and tells whether more follows. -/
def next : Read Bool := do
  skip
  skipSpace
  return !(← atEnd)

/-- The first character of a text that is neither blank nor the mark of a comment. -/
def firstShown? (marked : Bool) : List Char → Option Char
  | [] => none
  | c :: rest =>
    if Text.blanks.has c then firstShown? marked rest
    else if !marked && c == '#' then firstShown? true rest
    else some c

/-- The character behind the one at hand. In verbose parts blank space and the mark of a comment are
passed over. -/
def peekBehind : Read (Option Char) := do
  let reading ← get
  let rest := reading.rest.drop 1
  return if reading.verbose then firstShown? false rest <|> rest.head? else rest.head?

def takeSpaced (inClass : Char → Bool) : (fuel : Nat) → Read (List Char)
  | 0 => return []
  | fuel + 1 => do
    match ← peek with
    | none => return []
    | some c =>
      if !inClass c then return []
      let _ ← next
      return c :: (← takeSpaced inClass fuel)

/-- Moves over a run of characters of a class, and blank space between them. -/
def spacedRun (inClass : Char → Bool) : Read (List Char) := do
  takeSpaced inClass (← get).rest.length

/-! ## Numbers -/

/-- A decimal number of 32 bits, with blank space around it. A fault of it is given back, for
another one may come before. -/
def decimal : Read (Except Error Nat) := do
  modify fun reading => { reading with rest := reading.rest.dropWhile Text.blanks.has }
  let digits ← spacedRun Char.isDigit
  let _ ← spacedRun Text.blanks.has
  let value := digits.foldl (fun n c => n * 10 + (c.toNat - '0'.toNat)) 0
  return if digits.isEmpty then .error .countNotDecimal
    else if value < 0x100000000 then .ok value
    else .error .decimalInvalid

def isHexDigit (c : Char) : Bool :=
  c.isDigit || ('a' ≤ c && c ≤ 'f') || ('A' ≤ c && c ≤ 'F')

def charOfHex (digits : List Char) : Read Char := do
  let code := CharSet.hexValue (digits.map Char.toUpper)
  if code.isValidChar then return Char.ofNat code
  throw .hexInvalid

def hexDigits : (count : Nat) → Read (List Char)
  | 0 => return []
  | count + 1 => do
    match ← peek with
    | none => throw .escapeUnfinished
    | some c =>
      if !isHexDigit c then throw .hexInvalidDigit
      let _ ← next
      return c :: (← hexDigits count)

/-- An escaped code, from the letter on that says how many digits it has. -/
def hexLiteral (digits : Nat) : Read Literal := do
  if !(← next) then throw .escapeUnfinished
  if ← sees '{' then
    let _ ← next
    let code ← spacedRun isHexDigit
    if ← atEnd then throw .escapeUnfinished
    if !(← sees '}') then throw .hexInvalidDigit
    let _ ← next
    if code.isEmpty then throw .hexEmpty
    return { char := ← charOfHex code }
  let code ← hexDigits digits
  return { char := ← charOfHex code, byte := digits == 2 }

end Read

end ConfigSchema.Pattern
