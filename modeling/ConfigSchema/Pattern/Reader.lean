import ConfigSchema.Pattern.Bracket
import ConfigSchema.Text.BinaryProperty

/-! # Reading patterns

The first fault of a text, from left to right, is the one that is told; only nesting too deep is
told after all others. -/
namespace ConfigSchema.Pattern

namespace Read

/-! ## Groups -/

def flag? : Char → Option Flag
  | 'i' => some .anyCase
  | 'm' => some .multiLine
  | 's' => some .dotAll
  | 'U' => some .swapGreed
  | 'u' => some .unicode
  | 'R' => some .carriageReturn
  | 'x' => some .verbose
  | _ => none

/-- Flags up to a colon or a closing parenthesis. Those behind a dash are turned off. -/
def flagChanges : (fuel : Nat) → (negated : Bool) → FlagChanges → Read FlagChanges
  | 0, _, _ => throw .flagUnfinished
  | fuel + 1, negated, changes => do
    match ← peek with
    | none => throw .flagUnfinished
    | some c =>
      if c == ':' || c == ')' then return changes
      else if c == '-' then
        if negated then throw .flagRepeatedNegation
        skip
        if ← atEnd then throw .flagUnfinished
        if (← sees ':') || (← sees ')') then throw .flagDanglingNegation
        flagChanges fuel true changes
      else
        match flag? c with
        | none => throw .flagUnrecognized
        | some flag =>
          if (changes.state? flag).isSome then throw .flagDuplicate
          skip
          flagChanges fuel negated (changes ++ [(flag, !negated)])

def inGroupName (first : Bool) (c : Char) : Bool :=
  c == '_' || Text.alphabetic.has c
    || (!first && (c == '.' || c == '[' || c == ']' || Text.numeric.has c))

/-- The name of a group, up to and over its mark. No two groups share one. -/
def groupName : Read Unit := do
  let reading ← get
  let name := reading.rest.takeWhile (· ≠ '>')
  let valid :=
    match name with
    | [] => true
    | c :: rest => inGroupName true c && rest.all (inGroupName false)
  if !valid then throw .groupNameInvalid
  match reading.rest.drop name.length with
  | [] => throw .groupNameUnclosed
  | _ :: behind =>
    if name.isEmpty then throw .groupNameEmpty
    let name := String.ofList name
    if reading.names.contains name then throw .groupNameDuplicate
    set { reading with rest := behind, names := name :: reading.names }

inductive Opening
  | flags (changes : FlagChanges)
  | group (captured : Bool) (changes : FlagChanges)

def opening : Read Opening := do
  skip
  skipSpace
  let rest := (← get).rest
  if ["?=", "?!", "?<=", "?<!"].any fun text => text.toList.isPrefixOf rest then
    throw .lookAround
  if (← skipText "?P<") || (← skipText "?<") then
    groupName
    return .group true []
  if !(← skipText "?") then return .group true []
  if ← atEnd then throw .groupUnclosed
  let changes ← flagChanges ((← get).rest.length + 1) false []
  let closed ← sees ')'
  skip
  if !closed then return .group false changes
  if changes.isEmpty then throw .repetitionMissing
  return .flags changes

/-! ## Repetitions -/

/-- A sequence in reverse whose last part is repeated. Flags cannot be. -/
def repeated (parts : List Written) : Read (Written × List Written) :=
  match parts with
  | [] => throw .repetitionMissing
  | .empty :: _ => throw .repetitionMissing
  | .flags _ :: _ => throw .repetitionMissing
  | part :: before => return (part, before)

def skipLazy : Read Unit := do
  if ← sees '?' then skip

def counts : Read (Nat × Option Nat) := do
  if !(← next) then throw .countUnclosed
  let first ← decimal
  if ← atEnd then throw .countUnclosed
  let (least, most) ← do
    if ← sees ',' then
      if !(← next) then throw .countUnclosed
      let least ← (first : Except Error Nat)
      if ← sees '}' then pure (least, none)
      else
        let most ← (← decimal : Except Error Nat)
        pure (least, some most)
    else
      let least ← (first : Except Error Nat)
      pure (least, some least)
  if !(← sees '}') then throw .countUnclosed
  if ← next then skipLazy
  if most.any (· < least) then throw .countRangeInvalid
  return (least, most)

/-! ## Patterns -/

/-- The alternatives that end with a sequence. All are given in reverse. -/
def finish (bodies : List Written) (parts : List Written) : Written :=
  .ofAlternatives (.ofSequence parts.reverse :: bodies).reverse

/-- The rest of a group behind some alternatives and the parts of the last one, up to its closing
parenthesis or the end of the text. -/
def pattern : (fuel : Nat) → (bodies : List Written) → (parts : List Written) → Read Written
  | 0, _, _ => throw .groupUnclosed
  | fuel + 1, bodies, parts => do
    skipSpace
    let repeatedly (least : Nat) (most : Option Nat) : Read (List Written) := do
      let (part, before) ← repeated parts
      skip
      skipLazy
      return .repetition part least most :: before
    match ← peek with
    | none => return finish bodies parts
    | some ')' => return finish bodies parts
    | some '|' =>
      skip
      pattern fuel (.ofSequence parts.reverse :: bodies) []
    | some '(' =>
      match ← opening with
      | .flags changes =>
        modify fun reading =>
          { reading with verbose := (changes.state? .verbose).getD reading.verbose }
        pattern fuel bodies (.flags changes :: parts)
      | .group captured changes =>
        let outer := (← get).verbose
        modify fun reading => { reading with verbose := (changes.state? .verbose).getD outer }
        let body ← pattern fuel [] []
        if ← atEnd then throw .groupUnclosed
        modify fun reading => { reading with verbose := outer }
        skip
        pattern fuel bodies (.group captured changes body :: parts)
    | some '[' => pattern fuel bodies ((← bracketed) :: parts)
    | some '?' => pattern fuel bodies (← repeatedly 0 (some 1))
    | some '*' => pattern fuel bodies (← repeatedly 0 none)
    | some '+' => pattern fuel bodies (← repeatedly 1 none)
    | some '{' =>
      let (part, before) ← repeated parts
      let (least, most) ← counts
      pattern fuel bodies (.repetition part least most :: before)
    | some '\\' => pattern fuel bodies ((← escape) :: parts)
    | some c =>
      skip
      let part : Written :=
        match c with
        | '.' => .dot
        | '^' => .place .lineStart
        | '$' => .place .lineEnd
        | c => .literal { char := c }
      pattern fuel bodies (part :: parts)

end Read

def Written.ofText (text : String) : Except Error Written := do
  let chars := text.toList
  let (written, reading) ← StateT.run (Read.pattern (chars.length + 1) [] []) { rest := chars }
  if !reading.rest.isEmpty then throw .groupUnopened
  if nestLimit < written.depth then throw .nestedTooDeep
  return written

end ConfigSchema.Pattern
