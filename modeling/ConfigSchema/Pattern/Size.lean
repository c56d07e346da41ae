import ConfigSchema.Pattern.Expr
import ConfigSchema.Pattern.Error

/-! # The size of a pattern's automaton

Two automata would read the bytes of a text, one forward and one backward. Each state takes 32
bytes, each further edge 4 and each edge with a range of bytes 8. The forward one has states for the
starts and ends of groups and shares the common ends of characters; the backward one shares their
first bytes alone. Nothing is built: counts of repetitions multiply. -/
namespace ConfigSchema.Pattern

structure ByteRange where
  first : Nat
  last : Nat
deriving DecidableEq, Repr

/-! ## Characters as bytes -/

def utf8 (code : Nat) : List Nat :=
  if code < 0x80 then [code]
  else if code < 0x800 then [0xC0 + code / 0x40, 0x80 + code % 0x40]
  else if code < 0x10000 then
    [0xE0 + code / 0x1000, 0x80 + code / 0x40 % 0x40, 0x80 + code % 0x40]
  else
    [0xF0 + code / 0x40000, 0x80 + code / 0x1000 % 0x40, 0x80 + code / 0x40 % 0x40,
      0x80 + code % 0x40]

/-- Where an interval of characters has to be split first, so that the bytes of its parts are
independent of one another: around surrogates, where the number of bytes changes, and at the edges
of blocks of 64, 4096 and 262144. -/
def splitPoint? (first last : Nat) : Option Nat :=
  let atLength := [0x80, 0x800, 0x10000].find? fun code => first < code && code ≤ last
  let atBlock := [0x40, 0x1000, 0x40000].findSome? fun block =>
    if first / block == last / block then none
    else if first % block != 0 then some ((first / block + 1) * block)
    else if last % block != block - 1 then some (last / block * block)
    else none
  atLength <|> if last < 0x80 then none else atBlock

/-- The bytes of the characters of an interval, as sequences of intervals of bytes. -/
def byteSequences : (fuel : Nat) → (first last : Nat) → List (List ByteRange)
  | 0, _, _ => []
  | fuel + 1, first, last =>
    if last < first then []
    else if first < 0xE000 && 0xD7FF < last then
      byteSequences fuel first 0xD7FF ++ byteSequences fuel 0xE000 last
    else
      match splitPoint? first last with
      | some code => byteSequences fuel first (code - 1) ++ byteSequences fuel code last
      | none => [List.zipWith ByteRange.mk (utf8 first) (utf8 last)]

/-- The bytes of the characters of a set. -/
def setSequences (set : CharSet) : List (List ByteRange) :=
  set.ranges.flatMap fun range => byteSequences 32 range.first range.last

/-! ## Automata of sets -/

def followers (sequences : List (List ByteRange)) : List (List (List ByteRange)) :=
  (sequences.splitBy fun a b => a.head? == b.head?).map fun group => group.map List.tail

/-- All that can follow any beginning of some sequences, themselves included. -/
def residuals : (length : Nat) → List (List ByteRange) → List (List (List ByteRange))
  | 0, _ => []
  | length + 1, sequences =>
    sequences :: ((followers sequences).filter (· ≠ [[]])).flatMap (residuals length)

/-- The size of a forward automaton: a state for each different way to go on, and one for the end.
-/
def forwardSetSize (sequences : List (List ByteRange)) : Nat :=
  ((residuals 4 sequences).eraseDups.map fun rest => 32 + 8 * (followers rest).length).foldl
    (· + ·) 32

def sharedLength : List ByteRange → List ByteRange → Nat
  | a :: as, b :: bs => if a = b then sharedLength as bs + 1 else 0
  | _, _ => 0

/-- How many different beginnings some sorted sequences have. -/
def beginnings (previous : List ByteRange) : List (List ByteRange) → Nat
  | [] => 0
  | sequence :: rest => sequence.length - sharedLength previous sequence + beginnings sequence rest

/-- The size of a backward automaton: a state for each beginning, and a branch to each sequence. -/
def backwardSetSize (sequences : List (List ByteRange)) : Nat :=
  2 * 32 + 32 * beginnings [] sequences + 4 * sequences.length

/-- The size of the automaton of a set. Sets of ASCII take one state with an edge for each
interval, and single characters one for each byte. -/
def setSize (backward : Bool) (set : CharSet) : Nat :=
  let last := (set.ranges.getLast?.map CharRange.last).getD 0
  match set.ranges with
  | [] => 32
  | ranges =>
    if ranges == [⟨last, last⟩] then 32 * (utf8 last).length
    else if last < 0x80 then 2 * 32 + 8 * ranges.length
    else if backward then backwardSetSize (setSequences set)
    else forwardSetSize (setSequences set)

/-! ## Automata of expressions -/

namespace Expr

/-- The least length of what an expression matches, unless it can match nothing at all. -/
def leastLength : Expr → Option Nat
  | .empty => some 0
  | .one set => if set.ranges.isEmpty then none else some 1
  | .look _ => some 0
  | .seq first second => do return (← first.leastLength) + (← second.leastLength)
  | .alt left right => do return min (← left.leastLength) (← right.leastLength)
  | .times body least _ => if least = 0 then some 0 else body.leastLength.map (least * ·)
  | .group body => body.leastLength

/-- The size of the automaton of an expression. Alternatives next to each other share a branch. -/
def automatonSize (backward : Bool) (inAlternatives : Bool := false) : Expr → Nat
  | .empty => 32
  | .one set => setSize backward set
  | .look _ => 32
  | .seq first second => automatonSize backward false first + automatonSize backward false second
  | .alt left right =>
    automatonSize backward true left + automatonSize backward true right
      + (if inAlternatives then 4 else 2 * 32 + 2 * 4)
  | .group body =>
    automatonSize backward false body + (if backward then 0 else 2 * 32)
  | .times body least most =>
    let size := automatonSize backward false body
    let branch := 32 + 2 * 4
    match least, most with
    | 0, some 1 => size + branch + 32
    | 0, none => if body.leastLength.any (0 < ·) then size + branch else size + 2 * branch + 32
    | least, none => least * size + branch
    | least, some most =>
      if least = most then least * size
      else (if least = 0 then 32 else least * size) + 32 + (most - least) * (size + branch)

/-- The size of both automata of a pattern, whichever is larger. Each also has states that look for
a start and one for the match, and the forward one is a group as a whole. -/
def size (e : Expr) : Nat :=
  max (e.automatonSize false + 208) (e.automatonSize true + 144)

end Expr

end ConfigSchema.Pattern
