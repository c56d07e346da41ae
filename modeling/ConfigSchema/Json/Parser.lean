import ConfigSchema.Json.Basic
import ConfigSchema.Json.Cursor

/-! # Reading JSON texts

`Json.parse` keeps members in their order, with repeats, and reports the first fault of a text with
its position. `Scan.items` and `Scan.members` walk a container and leave it to the caller how its
elements are read. -/
namespace ConfigSchema

namespace Scan

/-! ## Words and numbers -/

def word : List Char → Scan Unit
  | [] => pure ()
  | c :: rest => do
    match ← peek with
    | none => fail .endInValue
    | some d =>
      if c ≠ d then failAhead .word
      skip
      word rest

/-- Takes digits into a number as long as it fits in 64 bits, and counts those that are left. -/
def takeDigits (n : Nat) : List Char → Nat × Nat
  | [] => (n, 0)
  | c :: rest =>
    let next := n * 10 + (c.toNat - '0'.toNat)
    if next < 0x10000000000000000 then takeDigits next rest else (n, rest.length + 1)

/-- The greatest exponent that is looked at. -/
def exponentLimit : Nat := 0x7FFFFFFF

/-- The digits of an exponent. A positive exponent beyond the limit is out of range as soon as it
is, unless the significand is zero; a negative one makes zero. -/
def exponentDigits (negative zero : Bool) : (fuel : Nat) → (exponent : Nat) → Scan Nat
  | 0, exponent => pure exponent
  | fuel + 1, exponent => do
    match ← peek with
    | some c =>
      if c.isDigit then
        skip
        let exponent := exponent * 10 + (c.toNat - '0'.toNat)
        if exponent > exponentLimit then
          if negative || zero then
            skipWhile Char.isDigit
            pure exponent
          else fail .range
        else exponentDigits negative zero fuel exponent
      else pure exponent
    | none => pure exponent

/-- An exponent after its mark. -/
def exponent (zero : Bool) : Scan Int := do
  skip
  let negative := (← peek) == some '-'
  if negative || (← peek) == some '+' then skip
  match ← peek with
  | none => fail .endInValue
  | some c =>
    if !c.isDigit then failAhead .number
    skip
    let n ← exponentDigits negative zero (← get).rest.length (c.toNat - '0'.toNat)
    return if negative then -n else n

def wholePart : Scan (List Char) := do
  match ← peek with
  | none => fail .endInValue
  | some c =>
    if !c.isDigit then failAhead .number
    skip
    if c ≠ '0' then return c :: (← takeWhile Char.isDigit)
    if (← peek).any Char.isDigit then failAhead .number
    return [c]

def fractionPart : Scan (Option (List Char)) := do
  if (← peek) ≠ some '.' then return none
  skip
  let digits ← takeWhile Char.isDigit
  if digits.isEmpty then
    if (← peek).isSome then failAhead .number else failAhead .endInValue
  return some digits

/-- A number after its sign. Only a numeral without fraction and exponent is an integer, if it
fits; a negative zero is a double. The digits that fit in 64 bits are rounded and then scaled, so a
double is not always the nearest one to the numeral. -/
def number (negative : Bool) : Scan Number := do
  let whole ← wholePart
  let fraction ← fractionPart
  let (kept, dropped) := takeDigits 0 whole
  let (significand, ignored) := takeDigits kept (fraction.getD [])
  let exponent ← do
    if (← peek) == some 'e' || (← peek) == some 'E' then
      some <$> exponent (significand == 0)
    else pure none
  if fraction.isNone && exponent.isNone && dropped == 0 && !(negative && kept == 0) then
    if let some n := Integer64.ofInt? (if negative then -kept else kept) then return .integer n
  let places : Int := (fraction.getD []).length - ignored
  match (Double.ofInt significand).scale? (exponent.getD 0 + dropped - places) with
  | some x => return .double { x with negative }
  | none => fail .range

/-! ## Strings -/

def hexValue? (c : Char) : Option Nat :=
  if c.isDigit then some (c.toNat - '0'.toNat)
  else if 'a' ≤ c && c ≤ 'f' then some (c.toNat - 'a'.toNat + 10)
  else if 'A' ≤ c && c ≤ 'F' then some (c.toNat - 'A'.toNat + 10)
  else none

/-- Four hexadecimal digits. -/
def hexCode : Scan Nat := do
  let cursor ← get
  let (after, whole) := cursor.skipBytes 4
  set after
  if !whole then fail .endInString
  match (cursor.rest.take 4).mapM hexValue? with
  | some digits => return digits.foldl (fun n d => n * 16 + d) 0
  | none => fail .escape

/-- One of the two characters that must open the second half of a surrogate pair. -/
def pairMark (c : Char) : Scan Unit := do
  match ← peek with
  | none => fail .endInString
  | some d =>
    if d ≠ c then failAhead .unpairedSurrogate
    skip

/-- A character by its code. A code of a pair must be followed by the other one. -/
def unicodeEscape : Scan Char := do
  let n ← hexCode
  if 0xDC00 ≤ n && n ≤ 0xDFFF then fail .loneSurrogate
  else if 0xD800 ≤ n && n ≤ 0xDBFF then
    pairMark '\\'
    pairMark 'u'
    let low ← hexCode
    if low < 0xDC00 || 0xDFFF < low then fail .loneSurrogate
    return Char.ofNat (0x10000 + (n - 0xD800) * 1024 + (low - 0xDC00))
  else return Char.ofNat n

/-- What the character after a backslash stands for. -/
def simpleEscape? : Char → Option Char
  | '"' => some '"'
  | '\\' => some '\\'
  | '/' => some '/'
  | 'b' => some (Char.ofNat 8)
  | 'f' => some (Char.ofNat 12)
  | 'n' => some '\n'
  | 'r' => some '\r'
  | 't' => some '\t'
  | _ => none

/-- The character that an escape stands for, after the backslash. -/
def escape : Scan Char := do
  match ← peek with
  | none => fail .endInString
  | some 'u' =>
    skip
    unicodeEscape
  | some c =>
    match simpleEscape? c with
    | none => failAhead .escape
    | some c =>
      skip
      return c

/-- The characters of a string up to its closing quote, in reverse. -/
def stringChars : (fuel : Nat) → List Char → Scan (List Char)
  | 0, _ => fail .endInString
  | fuel + 1, done => do
    match ← pop with
    | none => fail .endInString
    | some '"' => return done
    | some '\\' =>
      let c ← escape
      stringChars fuel (c :: done)
    | some c => if c.toNat < 32 then fail .control else stringChars fuel (c :: done)

def string : Scan String := do
  skip
  let chars ← stringChars ((← get).rest.length + 1) []
  return String.ofList chars.reverse

/-! ## Containers -/

def hasItem (first : Bool) : Scan Bool := do
  match ← token with
  | none => failAhead .endInArray
  | some ']' => return false
  | some c =>
    if first then return true
    else if c = ',' then
      skip
      match ← token with
      | none => failAhead .endInValue
      | some ']' => failAhead .trailingComma
      | some _ => return true
    else failAhead .commaOrBracket

def hasMember (first : Bool) : Scan Bool := do
  match ← token with
  | none => failAhead .endInObject
  | some '}' => return false
  | some c =>
    if first then
      if c = '"' then return true else failAhead .key
    else if c = ',' then
      skip
      match ← token with
      | none => failAhead .endInValue
      | some '"' => return true
      | some '}' => failAhead .trailingComma
      | some _ => failAhead .key
    else failAhead .commaOrBrace

def colon : Scan Unit := do
  match ← token with
  | none => failAhead .endInObject
  | some ':' => skip
  | some _ => failAhead .colon

/-- The end of an array of which every wanted item has been read. -/
def closeArray : Scan Unit := do
  match ← token with
  | none => failAhead .endInArray
  | some ']' => skip
  | some ',' =>
    skip
    match ← token with
    | some ']' => failAhead .trailingComma
    | _ => failAhead .trailingCharacters
  | some _ => failAhead .trailingCharacters

/-- The items of an array after its bracket, in order, up to and with the closing one. -/
def items {α : Type} (item : Scan α) : (fuel : Nat) → (first : Bool) → Scan (List α)
  | 0, _ => fail .endInArray
  | fuel + 1, first => do
    if ← hasItem first then
      let value ← item
      return value :: (← items item fuel false)
    else
      skip
      return []

/-- The members of an object after its brace, in order, up to and with the closing one. -/
def members {α : Type} (value : Scan α) : (fuel : Nat) → (first : Bool) → Scan (List (String × α))
  | 0, _ => fail .endInObject
  | fuel + 1, first => do
    if ← hasMember first then
      let name ← string
      colon
      let entry ← value
      return (name, entry) :: (← members value fuel false)
    else
      skip
      return []

/-! ## Documents -/

def depthLimit : Nat := 127

def leaf (first : Char) : Scan Json := do
  match first with
  | 'n' => skip; word "ull".toList; return .null
  | 't' => skip; word "rue".toList; return .bool true
  | 'f' => skip; word "alse".toList; return .bool false
  | '"' => return .string (← string)
  | '-' => skip; return .number (← number true)
  | c => if c.isDigit then return .number (← number false) else failAhead .value

/-- A value in which containers may nest to the given depth. -/
def document : (depth : Nat) → Scan Json
  | 0 => do
    match ← token with
    | none => failAhead .endInValue
    | some c => if c = '[' || c = '{' then failAhead .depth else leaf c
  | depth + 1 => do
    match ← token with
    | none => failAhead .endInValue
    | some '[' =>
      skip
      return .array (← items (document depth) ((← get).rest.length + 1) true)
    | some '{' =>
      skip
      return .object (← members (document depth) ((← get).rest.length + 1) true)
    | some c => leaf c

def finish : Scan Unit := do
  if (← token).isSome then failAhead .trailingCharacters

end Scan

namespace Json

/-- Reads a text into the document as written. -/
def parse (text : String) : Except SyntaxError Json :=
  (do
    let document ← Scan.document Scan.depthLimit
    Scan.finish
    return document : Scan Json).run' (Cursor.start text)

/-- Reads a text into the canonical document: of repeated members the last counts. -/
def ofText (text : String) : Except SyntaxError Json := canonical <$> parse text

end Json

end ConfigSchema
