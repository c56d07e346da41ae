import ConfigSchema.Pattern.Escape

/-! # Classes in brackets

A class lists characters, ranges and other classes. Operators combine all that stands on their left
with what stands up to the next operator or the end. -/
namespace ConfigSchema.Pattern.Read

def namedClass? : String → Option NamedClass
  | "alnum" => some .alnum
  | "alpha" => some .alpha
  | "ascii" => some .ascii
  | "blank" => some .blank
  | "cntrl" => some .cntrl
  | "digit" => some .digit
  | "graph" => some .graph
  | "lower" => some .lower
  | "print" => some .print
  | "punct" => some .punct
  | "space" => some .space
  | "upper" => some .upper
  | "word" => some .word
  | "xdigit" => some .xdigit
  | _ => none

def namedPart? : List Char → Option (ClassPart × List Char)
  | '[' :: ':' :: rest =>
    let negated := rest.head? == some '^'
    let rest := if negated then rest.drop 1 else rest
    let name := rest.takeWhile (· ≠ ':')
    match rest.drop name.length with
    | ':' :: ']' :: behind =>
      (namedClass? (String.ofList name)).map fun kind => (.named kind negated, behind)
    | _ => none
  | _ => none

def classItem : Read Written := do
  match ← peek with
  | some '\\' => escape
  | some c =>
    skip
    return .literal { char := c }
  | none => throw .classUnclosed

def partOfItem : Written → Read ClassPart
  | .literal literal => return .literal literal
  | .letter kind negated => return .letter kind negated
  | .property name negated => return .property name negated
  | _ => throw .classEscapeInvalid

def rangeEnd : Written → Read Literal
  | .literal literal => return literal
  | _ => throw .classRangeLiteral

/-- A range or a single item. A dash is no range before a bracket or another dash. -/
def classRange : Read ClassPart := do
  let item ← classItem
  skipSpace
  if ← atEnd then throw .classUnclosed
  let behind ← peekBehind
  if !(← sees '-') || behind == some ']' || behind == some '-' then
    partOfItem item
  else
    if !(← next) then throw .classUnclosed
    let last ← classItem
    let first ← rangeEnd item
    let last ← rangeEnd last
    if last.char < first.char then throw .classRangeInvalid
    return .range first last

/-- Dashes at the start of a class. -/
def leadingDashes : (fuel : Nat) → Read (List ClassPart)
  | 0 => return []
  | fuel + 1 => do
    if !(← sees '-') then return []
    if !(← next) then throw .classUnclosed
    return .literal { char := '-' } :: (← leadingDashes fuel)

/-- The start of a class, from its bracket on: whether it is negated, and the dashes or the closing
bracket that stand for themselves. -/
def classStart : Read (Bool × List ClassPart) := do
  if !(← next) then throw .classUnclosed
  let negated ← sees '^'
  if negated then
    if !(← next) then throw .classUnclosed
  let dashes ← leadingDashes (← get).rest.length
  if dashes.isEmpty && (← sees ']') then
    if !(← next) then throw .classUnclosed
    return (negated, [.literal { char := ']' }])
  return (negated, dashes)

def setOperator? : List Char → Option SetOperator
  | '&' :: '&' :: _ => some .intersection
  | '-' :: '-' :: _ => some .difference
  | '~' :: '~' :: _ => some .symmetricDifference
  | _ => none

/-- What stands left of an operator, combined with the parts behind it, which are given in reverse.
-/
def combine (left : Option (SetOperator × ClassPart)) (parts : List ClassPart) : ClassPart :=
  let right := ClassPart.ofList parts.reverse
  match left with
  | some (operator, left) => .combined operator left right
  | none => right

/-- The rest of a class, behind some parts, up to and over its closing bracket. Operators join from
left to right. -/
def classBody : (fuel : Nat) → (left : Option (SetOperator × ClassPart)) →
    (parts : List ClassPart) → Read ClassPart
  | 0, _, _ => throw .classUnclosed
  | fuel + 1, left, parts => do
    skipSpace
    let rest := (← get).rest
    if let some (part, behind) := namedPart? rest then
      modify fun reading => { reading with rest := behind }
      classBody fuel left (part :: parts)
    else if let some operator := setOperator? rest then
      skip 2
      classBody fuel (some (operator, combine left parts)) []
    else
      match rest with
      | [] => throw .classUnclosed
      | '[' :: _ =>
        let (negated, start) ← classStart
        let body ← classBody fuel none start.reverse
        classBody fuel left (.bracketed negated body :: parts)
      | ']' :: _ =>
        skip
        return combine left parts
      | _ =>
        let part ← classRange
        classBody fuel left (part :: parts)

def bracketed : Read Written := do
  let (negated, start) ← classStart
  let body ← classBody ((← get).rest.length + 1) none start.reverse
  return .bracketed negated body

end ConfigSchema.Pattern.Read
