import AutomatonChart.Decimal.Shortest
import AutomatonChart.Json.Basic

/-! # Numbers in JSON

The text of a number, and the fraction that a significand and a power of ten denote. Fractions are
written with the fewest digits that identify them: positionally from 1e-5 up to 1e16 with at least
one digit after the point, and otherwise with a signed exponent.
-/
namespace AutomatonChart.Json.Number

def zeros (n : Nat) : List Char := List.replicate n '0'

def layout (d : Decimal) : List Char :=
  let ds := Nat.toDigits 10 d.digits
  let leading : Int := d.exponent + ds.length - 1
  if -5 ≤ leading ∧ leading < 16 then
    if 0 ≤ d.exponent then ds ++ zeros d.exponent.toNat ++ ['.', '0']
    else if 0 ≤ leading then
      let whole := leading.toNat + 1
      ds.take whole ++ '.' :: ds.drop whole
    else '0' :: '.' :: zeros (-leading - 1).toNat ++ ds
  else
    let sign := if leading < 0 then '-' else '+'
    let mantissa := match ds with
      | [] | [_] => ds
      | first :: rest => first :: '.' :: rest
    mantissa ++ 'e' :: sign :: Nat.toDigits 10 leading.natAbs

def fractionText (x : Float) : String :=
  let negative := UInt64.size / 2 ≤ x.toBits.toNat
  let body := if x == 0 then ['0', '.', '0'] else layout (Dyadic.ofFloat x).shortest
  String.ofList (if negative then '-' :: body else body)

def text : Number → String
  | .integer n => toString n
  | .fraction x => fractionText x

def tenPower (n : Nat) : Float := Float.ofScientific 1 false n

/-- Divides by ten `n` times, in steps of at most 1e308. -/
def shrink (x : Float) (n : Nat) : Float :=
  if n ≤ 308 then x / tenPower n
  else if x == 0 then x
  else shrink (x / tenPower 308) (n - 308)
termination_by n

/-- `significand * 10 ^ exponent`, if it is finite. The significand is rounded first and the power
applied to it afterwards. -/
def scaled? (significand : Nat) (exponent : Int) : Option Float :=
  let x := Float.ofScientific significand false 0
  if exponent < 0 then some (shrink x exponent.natAbs)
  else if 308 < exponent then if x == 0 then some x else none
  else
    let y := x * tenPower exponent.toNat
    if y.isInf then none else some y

end AutomatonChart.Json.Number
