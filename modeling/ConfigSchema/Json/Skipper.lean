import ConfigSchema.Json.Parser

/-! # Passing over values

A value that nobody asks for must still be well formed, but numbers may have any size, escapes may
name halves of surrogate pairs, and containers may nest to any depth. -/
namespace ConfigSchema.Scan

/-- A container that has been entered. -/
inductive Frame
  | array | object
deriving DecidableEq

def skipNumber : Scan Unit := do
  match ← peek with
  | some '0' =>
    skip
    if (← peek).any Char.isDigit then failAhead .number
  | some c => if c.isDigit then skipWhile Char.isDigit else failAhead .number
  | none => fail .number
  if (← peek) == some '.' then
    skip
    if !(← peek).any Char.isDigit then failAhead .number
    skipWhile Char.isDigit
  if (← peek) == some 'e' || (← peek) == some 'E' then
    skip
    if (← peek) == some '+' || (← peek) == some '-' then skip
    if !(← peek).any Char.isDigit then failAhead .number
    skipWhile Char.isDigit

def skipEscape : Scan Unit := do
  match ← peek with
  | none => fail .endInString
  | some 'u' =>
    skip
    let _ ← hexCode
  | some c => if (simpleEscape? c).isSome then skip else failAhead .escape

def skipChars : (fuel : Nat) → Scan Unit
  | 0 => fail .endInString
  | fuel + 1 => do
    match ← peek with
    | none => fail .endInString
    | some '"' => skip
    | some '\\' =>
      skip
      skipEscape
      skipChars fuel
    | some c =>
      if c.toNat < 32 then fail .control
      skip
      skipChars fuel

def skipString : Scan Unit := do
  skip
  skipChars ((← get).rest.length + 1)

/-- Leaves the containers that end here. Gives back those in which a further value must follow,
or nothing when the outermost one has been left. -/
def leave : (fuel : Nat) → (afterValue : Bool) → List Frame → Scan (Option (List Frame))
  | 0, _, _ => return none
  | _, _, [] => return none
  | fuel + 1, afterValue, frame :: outer => do
    match ← token, frame with
    | none, .array => failAhead .endInArray
    | none, .object => failAhead .endInObject
    | some ']', .array =>
      skip
      leave fuel true outer
    | some '}', .object =>
      skip
      leave fuel true outer
    | some c, _ =>
      if !afterValue then return some (frame :: outer)
      else if c = ',' then
        skip
        return some (frame :: outer)
      else if frame = .array then failAhead .commaOrBracket
      else failAhead .commaOrBrace

def skipName : Scan Unit := do
  match ← token with
  | none => failAhead .endInObject
  | some '"' => skipString
  | some _ => failAhead .key
  colon

/-- Passes over values until the containers that have been entered are left. -/
def skipValues : (fuel : Nat) → List Frame → Scan Unit
  | 0, _ => return ()
  | fuel + 1, frames => do
    let entered : Option Frame ← do
      match ← token with
      | none => failAhead .endInValue
      | some '[' =>
        skip
        pure (some Frame.array)
      | some '{' =>
        skip
        pure (some Frame.object)
      | some '"' =>
        skipString
        pure none
      | some '-' =>
        skip
        skipNumber
        pure none
      | some c =>
        if c.isDigit then skipNumber
        else
          let _ ← leaf c
        pure none
    let frames := entered.toList ++ frames
    match ← leave (frames.length + 1) entered.isNone frames with
    | none => return ()
    | some frames =>
      if frames.head? = some .object then skipName
      skipValues fuel frames

def skipValue : Scan Unit := do skipValues ((← get).rest.length + 1) []

end ConfigSchema.Scan
