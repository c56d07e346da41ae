import ConfigSchema.Pattern.Expr
import ConfigSchema.Pattern.Written
import ConfigSchema.Text.CaseFold
import ConfigSchema.Text.PropertyName
import ConfigSchema.Text.Properties

/-! # What written patterns mean

Flags hold from where they are written to the end of the group. Where classes are those of ASCII, a
class is a set of bytes, and it is refused if it has bytes that are no characters by themselves. -/
namespace ConfigSchema.Pattern

structure Flags where
  anyCase : Bool := false
  multiLine : Bool := false
  dotAll : Bool := false
  unicode : Bool := true
  carriageReturn : Bool := false

def Flags.change (flags : Flags) (changes : FlagChanges) : Flags where
  anyCase := (changes.state? .anyCase).getD flags.anyCase
  multiLine := (changes.state? .multiLine).getD flags.multiLine
  dotAll := (changes.state? .dotAll).getD flags.dotAll
  unicode := (changes.state? .unicode).getD flags.unicode
  carriageReturn := (changes.state? .carriageReturn).getD flags.carriageReturn

/-! ## Sets of characters -/

def asciiLetters : CharSet := .ofTable ["41-5A 61-7A"]

def asciiWord : CharSet := .ofTable ["30-39 41-5A 5F 61-7A"]

def NamedClass.chars : NamedClass → CharSet
  | .alnum => .ofTable ["30-39 41-5A 61-7A"]
  | .alpha => asciiLetters
  | .ascii => .ofTable ["0-7F"]
  | .blank => .ofTable ["9 20"]
  | .cntrl => .ofTable ["0-1F 7F"]
  | .digit => .ofTable ["30-39"]
  | .graph => .ofTable ["21-7E"]
  | .lower => .ofTable ["61-7A"]
  | .print => .ofTable ["20-7E"]
  | .punct => .ofTable ["21-2F 3A-40 5B-60 7B-7E"]
  | .space => .ofTable ["9-D 20"]
  | .upper => .ofTable ["41-5A"]
  | .word => asciiWord
  | .xdigit => .ofTable ["30-39 41-46 61-66"]

namespace Flags

/-- Adds what differs only in case, if case does not matter. -/
def fold (flags : Flags) (set : CharSet) : CharSet :=
  if !flags.anyCase then set
  else if flags.unicode then Text.foldClosure set
  else
    let letters := set.inter asciiLetters
    let shifted := letters.ranges.flatMap fun range =>
      [⟨range.first - 32, range.last - 32⟩, ⟨range.first + 32, range.last + 32⟩]
    set.union ((CharSet.ofRanges shifted).inter asciiLetters)

def negate (flags : Flags) (set : CharSet) : CharSet :=
  if flags.unicode then set.complement else set.complement.inter (.ofRange 0 0xFF)

/-- A set, negated or not. Sets of bytes must keep to ASCII. -/
def signed (flags : Flags) (negated : Bool) (set : CharSet) : Except Error CharSet :=
  let set := if negated then flags.negate set else set
  if !flags.unicode && set.ranges.any fun range => 0x7F < range.last then .error .invalidUtf8
  else .ok set

def letterClass (flags : Flags) (kind : LetterClass) : CharSet :=
  match kind, flags.unicode with
  | .digit, true => Text.digits
  | .digit, false => NamedClass.digit.chars
  | .space, true => Text.blanks
  | .space, false => NamedClass.space.chars
  | .word, true => Text.wordChars
  | .word, false => asciiWord

def propertyClass (flags : Flags) (name : PropertyName) : Except Error CharSet :=
  if !flags.unicode then .error .unicodeNotAllowed
  else
    let found :=
      match name with
      | .single name => Text.namedClass name
      | .withValue property value => Text.valueClass property value
    match found with
    | .ok set => .ok set
    | .error .noProperty => .error .propertyNotFound
    | .error .noValue => .error .propertyValueNotFound

/-- Checks that a literal is a character, not only a byte. -/
def literal (flags : Flags) (written : Literal) : Except Error Char :=
  if !flags.unicode && written.byte && 0x7F < written.char.toNat then .error .invalidUtf8
  else .ok written.char

def classLiteral (flags : Flags) (written : Literal) : Except Error Nat := do
  let c ← flags.literal written
  if !flags.unicode && 0x7F < c.toNat then throw .unicodeNotAllowed
  return c.toNat

end Flags

def SetOperator.apply : SetOperator → CharSet → CharSet → CharSet
  | .intersection => CharSet.inter
  | .difference => CharSet.diff
  | .symmetricDifference => CharSet.symmDiff

mutual

def ClassPart.chars (flags : Flags) : ClassPart → Except Error CharSet
  | .literal written => do
    let code ← flags.classLiteral written
    return .ofRange code code
  | .range first last => do
    let first ← flags.classLiteral first
    let last ← flags.classLiteral last
    return .ofRange first last
  | .letter kind negated => flags.signed negated (flags.letterClass kind)
  | .named kind negated => flags.signed negated (flags.fold kind.chars)
  | .property name negated => do
    let set ← flags.propertyClass name
    flags.signed negated (flags.fold set)
  | .bracketed negated body => do
    let set ← body.chars flags
    flags.signed negated (flags.fold set)
  | .union parts => ClassPart.unionChars flags parts
  | .combined operator left right => do
    let left ← left.chars flags
    let right ← right.chars flags
    return operator.apply (flags.fold left) (flags.fold right)

def ClassPart.unionChars (flags : Flags) : List ClassPart → Except Error CharSet
  | [] => return CharSet.empty
  | part :: parts => do
    let set ← part.chars flags
    let others ← ClassPart.unionChars flags parts
    return set.union others

end

/-! ## Patterns -/

/-- The sides of a place that is asked for. -/
def WordPlace.allowed : WordPlace → Bool → Bool → Bool
  | .boundary, before, behind => before != behind
  | .noBoundary, before, behind => before == behind
  | .start, before, behind => !before && behind
  | .finish, before, behind => before && !behind
  | .startHalf, before, _ => !before
  | .finishHalf, _, behind => !behind

def Flags.look (flags : Flags) : Place → Look
  | .lineStart => if flags.multiLine then .lineStart flags.carriageReturn else .textStart
  | .lineEnd => if flags.multiLine then .lineEnd flags.carriageReturn else .textEnd
  | .textStart => .textStart
  | .textEnd => .textEnd
  | .word place => .word (flags.letterClass .word) place.allowed

def Flags.dot (flags : Flags) : Except Error CharSet :=
  if !flags.unicode then .error .invalidUtf8
  else if flags.dotAll then .ok CharSet.all
  else .ok (CharSet.ofTable [if flags.carriageReturn then "A D" else "A"]).complement

mutual

/-- What a written pattern matches under flags, and the flags behind it. -/
def Written.meaning (flags : Flags) : Written → Except Error (Expr × Flags)
  | .empty => return (.empty, flags)
  | .flags changes => return (.empty, flags.change changes)
  | .literal written => do
    let c ← flags.literal written
    return (.one (flags.fold (.ofRange c.toNat c.toNat)), flags)
  | .dot => do return (.one (← flags.dot), flags)
  | .place asked => return (.look (flags.look asked), flags)
  | .letter kind negated => do
    return (.one (← flags.signed negated (flags.letterClass kind)), flags)
  | .property name negated => do
    let set ← flags.propertyClass name
    return (.one (← flags.signed negated (flags.fold set)), flags)
  | .bracketed negated body => do
    let set ← body.chars flags
    return (.one (← flags.signed negated (flags.fold set)), flags)
  | .repetition body least most => do
    let (body, behind) ← body.meaning flags
    return (Expr.repeated body least most, behind)
  | .group captured changes body => do
    let (body, _) ← body.meaning (flags.change changes)
    return (if captured then .group body else body, flags)
  | .alternatives bodies => do
    let (bodies, behind) ← Written.meanings flags bodies
    return (Expr.ofAlternatives bodies, behind)
  | .sequence parts => do
    let (parts, behind) ← Written.meanings flags parts
    return (Expr.ofSequence parts, behind)

/-- What some written patterns match, each under the flags behind the one before. -/
def Written.meanings (flags : Flags) : List Written → Except Error (List Expr × Flags)
  | [] => return ([], flags)
  | part :: parts => do
    let (first, behind) ← part.meaning flags
    let (others, behind) ← Written.meanings behind parts
    return (first :: others, behind)

end

end ConfigSchema.Pattern
