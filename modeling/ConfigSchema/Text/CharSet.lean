/-! # Sets of characters

Tables are written as the intervals in hexadecimal, with blanks between them: `41-5A` for all code
points from the first to the last, `100~12E` for every other one. -/
namespace ConfigSchema

structure CharRange where
  first : Nat
  last : Nat
deriving DecidableEq, Repr

/-- Sorted intervals with gaps between them. -/
structure CharSet where
  ranges : List CharRange
deriving DecidableEq, Repr

namespace CharSet

def greatest : Nat := 0x10FFFF

def empty : CharSet := ⟨[]⟩

def all : CharSet := ⟨[⟨0, greatest⟩]⟩

def holds (code : Nat) : List CharRange → Bool
  | [] => false
  | range :: rest => range.first ≤ code && (code ≤ range.last || holds code rest)

def hasCode (set : CharSet) (code : Nat) : Bool := holds code set.ranges

def has (set : CharSet) (c : Char) : Bool := set.hasCode c.toNat

/-- Joins an interval to those before it, the nearest of them first. -/
def join (done : List CharRange) (range : CharRange) : List CharRange :=
  match done with
  | [] => [range]
  | last :: before =>
    if range.first ≤ last.last + 1 then ⟨last.first, max last.last range.last⟩ :: before
    else range :: last :: before

def ofRanges (ranges : List CharRange) : CharSet :=
  let sorted := ranges.mergeSort fun a b =>
    a.first < b.first || (a.first == b.first && a.last ≤ b.last)
  ⟨(sorted.foldl join []).reverse⟩

def ofRange (first last : Nat) : CharSet := ⟨[⟨first, last⟩]⟩

def union (a b : CharSet) : CharSet := ofRanges (a.ranges ++ b.ranges)

def unions (sets : List CharSet) : CharSet := ofRanges (sets.flatMap CharSet.ranges)

/-- The gaps before, between and after intervals, from a code point on. -/
def gaps (start : Nat) : List CharRange → List CharRange
  | [] => if start ≤ greatest then [⟨start, greatest⟩] else []
  | range :: rest =>
    if start < range.first then ⟨start, range.first - 1⟩ :: gaps (range.last + 1) rest
    else gaps (range.last + 1) rest

def complement (a : CharSet) : CharSet := ⟨gaps 0 a.ranges⟩

def inter (a b : CharSet) : CharSet := (a.complement.union b.complement).complement

def diff (a b : CharSet) : CharSet := a.inter b.complement

/-- What belongs to exactly one of two sets. -/
def symmDiff (a b : CharSet) : CharSet := (a.union b).diff (a.inter b)

def hexValue (digits : List Char) : Nat :=
  digits.foldl (fun n c => n * 16 + if c.isDigit then c.toNat - 48 else c.toNat - 55) 0

/-- The intervals of a word of a table. -/
def rangesOfWord (word : List Char) : List CharRange :=
  let start := word.takeWhile fun c => c ≠ '-' && c ≠ '~'
  let first := hexValue start
  match word.drop start.length with
  | [] => [⟨first, first⟩]
  | mark :: rest =>
    let last := hexValue rest
    if mark = '-' then [⟨first, last⟩]
    else (List.range ((last - first) / 2 + 1)).map fun n => ⟨first + 2 * n, first + 2 * n⟩

def words : (text : List Char) → (word : List Char) → List (List Char)
  | [], word => if word.isEmpty then [] else [word.reverse]
  | ' ' :: rest, word => if word.isEmpty then words rest [] else word.reverse :: words rest []
  | c :: rest, word => words rest (c :: word)

/-- A table of sorted intervals, in lines. -/
def ofTable (lines : List String) : CharSet :=
  ⟨lines.flatMap fun line => (words line.toList []).flatMap rangesOfWord⟩

end CharSet

end ConfigSchema
