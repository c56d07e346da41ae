import ConfigSchema.Number.Double
import ConfigSchema.Yaml.Basic
import ConfigSchema.Yaml.Node

/-! # Reading YAML texts

A plain scalar without a tag is understood by its text: null, a boolean, an integer, a double, or
else a string. A tag with an exclamation mark in front stays on the value, the tags of the core
types say how a scalar is to be understood, and any other tag makes it a string. Values nest at most
128 deep, the aliases of a text are followed at most a hundred times as often as the text has parts,
and no mapping may have two equal keys. -/
namespace ConfigSchema.Yaml

/-! ## Scalars -/

def digitsIn? (base : Nat) (digits : List Char) : Option Nat :=
  if digits.isEmpty then none
  else
    let extend (n : Nat) (c : Char) : Option Nat := do
      let d ← Scan.hexValue? c
      if d < base then some (n * base + d) else none
    digits.foldlM extend 0

def baseOf? : List Char → Option (Nat × List Char)
  | '0' :: 'x' :: digits => some (16, digits)
  | '0' :: 'o' :: digits => some (8, digits)
  | '0' :: 'b' :: digits => some (2, digits)
  | _ => none

/-- Whether a text is all digits but no number, because it starts with a zero. -/
def hasLeadingZero (text : List Char) : Bool :=
  let digits :=
    match text with
    | '-' :: rest => rest
    | '+' :: rest => rest
    | text => text
  digits.length > 1 && digits.head? == some '0' && digits.all Char.isDigit

/-- The integer that a text writes, of any size. A sign may stand in front, also of a base. -/
def integerOf? (text : List Char) : Option Int :=
  if hasLeadingZero text then none
  else
    let magnitude? (digits : List Char) : Option Nat :=
      match baseOf? digits with
      | some (base, digits) => digitsIn? base digits
      | none => digitsIn? 10 digits
    match text with
    | '-' :: digits => (magnitude? digits).map fun n => -(n : Int)
    | '+' :: digits => (magnitude? digits).map Int.ofNat
    | digits => (magnitude? digits).map Int.ofNat

/-- What becomes of a text that writes an integer: integers that fit in 64 bits are numbers, those
that only fit in 128 are refused, and beyond that the text is no integer. -/
inductive IntegerText
  | number (n : Integer64)
  | tooWide
  | other

def IntegerText.of (text : List Char) : IntegerText :=
  match integerOf? text with
  | none => .other
  | some n =>
    match Integer64.ofInt? n with
    | some n => .number n
    | none =>
      if -0x80000000000000000000000000000000 ≤ n ∧ n < 0x100000000000000000000000000000000 then
        .tooWide
      else .other

def decimalOf? (negative : Bool) (text : List Char) : Option Double := do
  let whole := text.takeWhile Char.isDigit
  let text := text.drop whole.length
  let (fraction, text) :=
    match text with
    | '.' :: rest => (rest.takeWhile Char.isDigit, rest.dropWhile Char.isDigit)
    | text => ([], text)
  let digits := whole ++ fraction
  let significand ← digitsIn? 10 digits
  let exponent : Int ←
    match text with
    | [] => some 0
    | 'e' :: rest | 'E' :: rest =>
      match rest with
      | '-' :: digits => (digitsIn? 10 digits).map fun n => -(n : Int)
      | '+' :: digits => (digitsIn? 10 digits).map Int.ofNat
      | digits => (digitsIn? 10 digits).map Int.ofNat
    | _ => none
  Double.ofDecimal? negative significand (exponent - fraction.length)

/-- The double that a text writes. Infinities and the value that is no number have texts of their
own; a numeral that is too great is no double. -/
def doubleOf? (text : String) : Option ExtendedDouble :=
  if [".inf", ".Inf", ".INF", "+.inf", "+.Inf", "+.INF"].contains text then some (.infinite false)
  else if ["-.inf", "-.Inf", "-.INF"].contains text then some (.infinite true)
  else if [".nan", ".NaN", ".NAN"].contains text then some .nan
  else
    match text.toList with
    | '-' :: rest => (decimalOf? true rest).map .finite
    | '+' :: rest => (decimalOf? false rest).map .finite
    | rest => (decimalOf? false rest).map .finite

def isNullText (text : String) : Bool := ["null", "Null", "NULL", "~"].contains text

def boolOf? (text : String) : Option Bool :=
  if ["true", "True", "TRUE"].contains text then some true
  else if ["false", "False", "FALSE"].contains text then some false
  else none

/-- The value of a plain scalar without a tag. -/
def plainValue? (text : String) : Option Yaml :=
  if text.isEmpty || isNullText text then some .null
  else
    match boolOf? text, IntegerText.of text.toList with
    | some value, _ => some (.bool value)
    | none, .number n => some (.number (.integer n))
    | none, .tooWide => none
    | none, .other =>
      if hasLeadingZero text.toList then some (.string text)
      else
        match doubleOf? text with
        | some x => some (.number (.double x))
        | none => some (.string text)

/-- A tag that stays on the value, without its exclamation mark. -/
def localTag? (tag : Option String) : Option String :=
  match tag.map String.toList with
  | some ['!'] => some "!"
  | some ('!' :: name) => some (String.ofList name)
  | _ => none

/-- The value of a scalar with a tag that does not stay on it. -/
def taggedScalar? (tag text : String) : Option Yaml :=
  match tag with
  | "tag:yaml.org,2002:bool" => (boolOf? text).map .bool
  | "tag:yaml.org,2002:int" =>
    match IntegerText.of text.toList with
    | .number n => some (.number (.integer n))
    | .tooWide | .other => none
  | "tag:yaml.org,2002:float" => (doubleOf? text).map fun x => .number (.double x)
  | "tag:yaml.org,2002:null" => if isNullText text then some .null else none
  | _ => some (.string text)

/-- The value of a scalar. A tag that has already been seen counts for nothing. -/
def scalarValue? (tag : Option String) (text : String) (plain : Bool) : Option Yaml :=
  match tag with
  | some tag => taggedScalar? tag text
  | none => if plain then plainValue? text else some (.string text)

/-! ## Equal keys -/

/-- Whether two numbers are the same key. Integers and doubles never are. -/
def sameNumber : YamlNumber → YamlNumber → Bool
  | .integer m, .integer n => m == n
  | .double .nan, .double .nan => true
  | .double (.infinite a), .double (.infinite b) => a == b
  | .double (.finite x), .double (.finite y) => x.eq y
  | _, _ => false

mutual

/-- Whether two values are the same key. The order of the entries of a mapping does not matter. -/
def same : Yaml → Yaml → Bool
  | .null, .null => true
  | .bool a, .bool b => a == b
  | .number a, .number b => sameNumber a b
  | .string a, .string b => a == b
  | .sequence a, .sequence b => sameItems a b
  | .mapping a, .mapping b => a.length == b.length && sameEntries a b
  | .tagged s a, .tagged t b => s == t && same a b
  | _, _ => false

def sameItems : List Yaml → List Yaml → Bool
  | [], [] => true
  | a :: as, b :: bs => same a b && sameItems as bs
  | _, _ => false

def sameEntries : List (Yaml × Yaml) → List (Yaml × Yaml) → Bool
  | [], _ => true
  | (key, value) :: rest, others =>
    others.any (fun other => same key other.1 && same value other.2) && sameEntries rest others

end

/-! ## Nodes -/

namespace Node

mutual

/-- How many parts a node has: one for a scalar or an alias, two around the parts of the others. -/
def size : Node → Nat
  | reference _ => 1
  | scalar _ _ _ => 1
  | sequence _ items => sizeItems items + 2
  | mapping _ entries => sizeEntries entries + 2

def sizeItems : List Node → Nat
  | [] => 0
  | item :: rest => item.size + sizeItems rest

def sizeEntries : List (Node × Node) → Nat
  | [] => 0
  | (key, value) :: rest => key.size + value.size + sizeEntries rest

end

def labelled (properties : Properties) (node : Node) : List (Nat × Node) :=
  (properties.anchor.map fun anchor => (anchor, node)).toList

mutual

/-- The anchored nodes in the order of the text. -/
def anchored : Node → List (Nat × Node)
  | reference _ => []
  | scalar properties text plain => labelled properties (scalar properties text plain)
  | sequence properties items =>
    labelled properties (sequence properties items) ++ anchoredItems items
  | mapping properties entries =>
    labelled properties (mapping properties entries) ++ anchoredEntries entries

def anchoredItems : List Node → List (Nat × Node)
  | [] => []
  | item :: rest => item.anchored ++ anchoredItems rest

def anchoredEntries : List (Node × Node) → List (Nat × Node)
  | [] => []
  | (key, value) :: rest => key.anchored ++ value.anchored ++ anchoredEntries rest

end

def depthLimit : Nat := 128

/-- Reads the entries of a mapping with readers of keys and values; no key may come twice. -/
def entries {α : Type} (key value : α → StateT Nat Option Yaml) :
    List (α × α) → List (Yaml × Yaml) → StateT Nat Option (List (Yaml × Yaml))
  | [], done => return done.reverse
  | (k, v) :: rest, done => do
    let k ← key k
    if done.any fun entry => same k entry.1 then failure
    let v ← value v
    entries key value rest ((k, v) :: done)

/-- The value of a node. `anchors` are the nodes that aliases lead to, and the state counts the
aliases that may still be followed. A container uses up one level of depth and an alias one step,
so `fuel` must be twice the depth. `seen` says that the tag of the node has been dealt with; the
keys of a mapping inherit that. -/
def value (anchors : List (Nat × Node)) :
    (fuel : Nat) → (depth : Nat) → (seen : Bool) → Node → StateT Nat Option Yaml
  | 0, _, _, _ => failure
  | fuel + 1, depth, seen, node => do
    let tagged (properties : Properties) (value : Option String → StateT Nat Option Yaml) :
        StateT Nat Option Yaml :=
      if seen then value none
      else
        match localTag? properties.tag with
        | some tag => .tagged tag <$> value none
        | none => value properties.tag
    match node with
    | reference anchor =>
      match ← get with
      | 0 => failure
      | steps + 1 =>
        set steps
        let target ← (anchors.lookup anchor : Option Node)
        target.value anchors fuel depth false
    | scalar properties text plain =>
      tagged properties fun tag => (scalarValue? tag text plain : Option Yaml)
    | sequence properties items =>
      if depth = 0 then failure
      tagged properties fun _ => .sequence <$> items.mapM (value anchors fuel (depth - 1) false)
    | mapping properties pairs =>
      if depth = 0 then failure
      let keySeen := seen || (localTag? properties.tag).isSome
      tagged properties fun _ => .mapping <$>
        entries (value anchors fuel (depth - 1) keySeen) (value anchors fuel (depth - 1) false)
          pairs []

end Node

/-- The value that a text holds. -/
def parse? (text : String) : Option Yaml := do
  let node ← Node.parse? text
  let fuel := 2 * Node.depthLimit + 2
  let jumps := 100 * node.size
  let (value, _) ← (node.value node.anchored.reverse fuel Node.depthLimit false).run jumps
  return value

end ConfigSchema.Yaml
