import ConfigSchema.Text.CharSet

/-! # What patterns match

An expression says which texts stand between two places of a text. Matching follows all places at
once; which of several matches would be found first does not matter. -/
namespace ConfigSchema.Pattern

structure Around where
  before : Option Char
  behind : Option Char

inductive Look
  | textStart
  | textEnd
  | lineStart (carriageReturn : Bool)
  | lineEnd (carriageReturn : Bool)
  /-- Two sides of a place, of which each is in a word or not. -/
  | word (chars : CharSet) (allowed : Bool → Bool → Bool)

/-- A carriage return and a line feed end a line together. -/
def Look.holds (around : Around) : Look → Bool
  | .textStart => around.before.isNone
  | .textEnd => around.behind.isNone
  | .lineStart carriageReturn =>
    around.before.isNone || around.before == some '\n'
      || (carriageReturn && around.before == some '\r' && around.behind != some '\n')
  | .lineEnd carriageReturn =>
    around.behind.isNone
      || (if carriageReturn then
            around.behind == some '\r'
              || (around.behind == some '\n' && around.before != some '\r')
          else around.behind == some '\n')
  | .word chars allowed => allowed (around.before.any chars.has) (around.behind.any chars.has)

/-- What a pattern matches. -/
inductive Expr
  | empty
  /-- One character of a set. -/
  | one (set : CharSet)
  | look (condition : Look)
  | seq (first second : Expr)
  | alt (left right : Expr)
  | times (body : Expr) (least : Nat) (most : Option Nat)
  | group (body : Expr)

namespace Expr

/-! ## Building expressions -/

/-- Whether an expression can only match the empty text. -/
def isEmptyOnly : Expr → Bool
  | .empty => true
  | .one _ => false
  | .look _ => true
  | .seq first second => first.isEmptyOnly && second.isEmptyOnly
  | .alt left right => left.isEmptyOnly && right.isEmptyOnly
  | .times body _ most => body.isEmptyOnly || most == some 0
  | .group body => body.isEmptyOnly

/-- A repetition. The empty text need not be repeated. -/
def repeated (body : Expr) (least : Nat) (most : Option Nat) : Expr :=
  let (least, most) :=
    if body.isEmptyOnly then (min least 1, some (min (most.getD 1) 1)) else (least, most)
  if most == some 0 then .empty
  else if least == 1 && most == some 1 then body
  else .times body least most

def ofSequence : List Expr → Expr
  | [] => .empty
  | .empty :: parts => ofSequence parts
  | part :: parts =>
    match ofSequence parts with
    | .empty => part
    | rest => .seq part rest

/-- One of two expressions. Of two sets of characters it is their union. -/
def either : Expr → Expr → Expr
  | .one a, .one b => .one (a.union b)
  | left, right => .alt left right

def ofAlternatives : List Expr → Expr
  | [] => .one CharSet.empty
  | [body] => body
  | body :: bodies => either body (ofAlternatives bodies)

/-! ## Matching -/

/-- What stands around each place of a text, from the first place on. -/
def places (before : Option Char) : List Char → List Around
  | [] => [⟨before, none⟩]
  | c :: rest => ⟨before, some c⟩ :: places (some c) rest

/-- Repeats a step until it changes nothing any more, but not more often than given. -/
def settle (step : List Bool → List Bool) : Nat → List Bool → List Bool
  | 0, marks => marks
  | n + 1, marks =>
    let reached := step marks
    if reached == marks then marks else settle step n reached

def bothMarks (a b : List Bool) : List Bool := List.zipWith (· || ·) a b

/-- The places where a match can end, given those where it may start. A text of so many characters
has no path of more rounds than that without a round that stays in place. -/
def reach (text : List Char) : Expr → List Bool → List Bool
  | .empty, marks => marks
  | .one set, marks => false :: List.zipWith (fun mark c => mark && set.has c) marks text
  | .look condition, marks =>
    List.zipWith (fun mark around => mark && condition.holds around) marks (places none text)
  | .seq first second, marks => reach text second (reach text first marks)
  | .alt left right, marks => bothMarks (reach text left marks) (reach text right marks)
  | .group body, marks => reach text body marks
  | .times body least most, marks =>
    let bound := text.length + 1
    let more := (most.map (· - least)).getD bound
    settle (fun marks => bothMarks marks (reach text body marks)) (min more bound)
      (settle (reach text body) (min least bound) marks)

def matchesIn (e : Expr) (text : List Char) : Bool :=
  (reach text e (List.replicate (text.length + 1) true)).any id

end Expr

end ConfigSchema.Pattern
