import ConfigSchema.Number.Shortest

namespace ConfigSchema

/-- Which numbers are written positionally and which in scientific notation, and how. The digits are
always the shortest that read back. -/
structure NumeralStyle where
  /-- Exponents of the first digit that are written positionally, from the first bound up to but
  not including the second. Without bounds every number is. -/
  positional : Option (Int × Int)
  /-- What follows a positional numeral without a fraction. -/
  whole : String
  /-- What stands before a positive exponent. -/
  plus : String

namespace NumeralStyle

/-- Plain decimals of any length; a whole number has no point. -/
def plain : NumeralStyle := ⟨none, "", ""⟩

/-- The style of JSON texts: a double always shows that it is one, and positive exponents carry
their sign. -/
def json : NumeralStyle := ⟨some (-5, 16), ".0", "+"⟩

/-- The style of YAML keys: as in JSON, but positive exponents stand bare. -/
def yaml : NumeralStyle := ⟨some (-5, 16), ".0", ""⟩

end NumeralStyle

namespace Decimal

def digitChar (d : Nat) : Char := Char.ofNat ('0'.toNat + d)

def digitText (digits : List Nat) : String := String.ofList (digits.map digitChar)

def zeros (n : Nat) : String := String.ofList (List.replicate n '0')

def positional (d : Decimal) (whole : String) : String :=
  let places := d.leading + 1
  if d.exponent ≥ 0 then digitText d.digits ++ zeros d.exponent.toNat ++ whole
  else if places > 0 then
    digitText (d.digits.take places.toNat) ++ "." ++ digitText (d.digits.drop places.toNat)
  else "0." ++ zeros (-places).toNat ++ digitText d.digits

/-- Scientific writing: one digit before the point. -/
def scientific (d : Decimal) (plus : String) : String :=
  let fraction := d.digits.drop 1
  digitText (d.digits.take 1)
    ++ (if fraction.isEmpty then "" else "." ++ digitText fraction)
    ++ "e" ++ (if d.leading < 0 then "-" else plus) ++ toString d.leading.natAbs

end Decimal

namespace Double

def numeral (style : NumeralStyle) (x : Double) : String :=
  let magnitude :=
    if x.isZero then "0" ++ style.whole
    else
      let d := x.shortest
      match style.positional with
      | none => d.positional style.whole
      | some (first, limit) =>
        if first ≤ d.leading && d.leading < limit then d.positional style.whole
        else d.scientific style.plus
  if x.negative then "-" ++ magnitude else magnitude

end Double

end ConfigSchema
