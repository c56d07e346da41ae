import ConfigSchema.Members
import ConfigSchema.Number.Double

/-! # JSON documents

An object keeps its members as a list: in the order in which a text gives them, repeats included, or
in the canonical form, sorted by name and without repeats. -/
namespace ConfigSchema

abbrev Integer64.least : Int := -0x8000000000000000

/-- The first integer that does not fit in 64 bits without a sign. -/
abbrev Integer64.bound : Int := 0x10000000000000000

/-- An integer that fits in 64 bits, with or without a sign. -/
structure Integer64 where
  val : Int
  lower : Integer64.least ≤ val
  upper : val < Integer64.bound
deriving DecidableEq

namespace Integer64

/-- The integer, if it fits. -/
def ofInt? (n : Int) : Option Integer64 :=
  if h : least ≤ n ∧ n < bound then some ⟨n, h.1, h.2⟩ else none

theorem ofUInt64_lower (n : UInt64) : least ≤ (n.toNat : Int) := by
  unfold least
  omega

theorem ofUInt64_upper (n : UInt64) : (n.toNat : Int) < bound := by
  have := n.toNat_lt
  unfold bound
  omega

def ofUInt64 (n : UInt64) : Integer64 := ⟨n.toNat, ofUInt64_lower n, ofUInt64_upper n⟩

end Integer64

/-- A JSON number. An integer and a double are never the same document, not even `1` and `1.0`. -/
inductive Number
  | integer (n : Integer64)
  | double (x : Double)
deriving DecidableEq

/-- The number as a double; integers round to the nearest one. -/
def Number.toDouble : Number → Double
  | .integer n => .ofInt n.val
  | .double x => x

/-- A JSON document. -/
inductive Json
  | null
  | bool (value : Bool)
  | number (value : Number)
  | string (value : String)
  | array (items : List Json)
  | object (members : List (String × Json))

namespace Json

instance : Inhabited Json := ⟨null⟩

def members? : Json → Option (Members Json)
  | object members => some members
  | _ => none

def string? : Json → Option String
  | string value => some value
  | _ => none

def isNull : Json → Bool
  | null => true
  | _ => false

/-- The member of a name, in an object. -/
def member? (document : Json) (key : String) : Option Json :=
  document.members?.bind fun members => members.get? key

mutual

/-- The document with the members of every object sorted and the last of each name kept. -/
def canonical : Json → Json
  | array items => array (canonicalItems items)
  | object members => object (Members.sorted (canonicalMembers members))
  | leaf => leaf

def canonicalItems : List Json → List Json
  | [] => []
  | item :: rest => item.canonical :: canonicalItems rest

def canonicalMembers : List (String × Json) → List (String × Json)
  | [] => []
  | (name, value) :: rest => (name, value.canonical) :: canonicalMembers rest

end

def ofUInt64 (n : UInt64) : Json := number (.integer (.ofUInt64 n))

/-- A double as a document; there is no JSON form of the infinities, so these become null. -/
def ofExtendedDouble : ExtendedDouble → Json
  | .finite x => number (.double x)
  | .infinite _ | .nan => null

/-- An array of strings. -/
def strings (values : List String) : Json := array (values.map string)

end Json

end ConfigSchema
