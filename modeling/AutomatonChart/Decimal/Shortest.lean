/-! # Shortest decimals

The decimal with the fewest digits that reads back to a given binary fraction, and of those the
nearest. Grids of powers of ten are tried from coarse to fine; on each the two neighbours of the
value are tested against the interval of reals that round to it, in exact integer arithmetic.
-/
namespace AutomatonChart

/-- The positive number `significand * 2 ^ exponent`; `narrow` says that the gap to the number
below is half the gap to the one above. -/
structure Dyadic where
  significand : Nat
  exponent : Int
  narrow : Bool

structure Decimal where
  digits : Nat
  exponent : Int
deriving DecidableEq, Repr

namespace Dyadic

def ofFloat (x : Float) : Dyadic :=
  let bits := x.toBits.toNat
  let biased : Nat := bits / Nat.pow 2 52 % Nat.pow 2 11
  let fraction : Nat := bits % Nat.pow 2 52
  if biased = 0 then ⟨fraction, -1074, false⟩
  else ⟨Nat.pow 2 52 + fraction, (biased : Int) - 1075, fraction = 0 ∧ 1 < biased⟩

/-- Ends of the rounding interval, counted in quarters of a unit in the last place. -/
def lowEnd (v : Dyadic) : Nat := if v.narrow then 4 * v.significand - 1 else 4 * v.significand - 2

def highEnd (v : Dyadic) : Nat := 4 * v.significand + 2

/-- A quarter unit and a grid step `10 ^ grid` as natural numbers over one denominator. -/
def scales (v : Dyadic) (grid : Int) : Nat × Nat :=
  let quarter := v.exponent - 2
  (Nat.pow 2 quarter.toNat * Nat.pow 10 (-grid).toNat,
    Nat.pow 10 grid.toNat * Nat.pow 2 (-quarter).toNat)

/-- Whether `digits` grid steps round to the value; the ends count if the significand is even. -/
def admits (v : Dyadic) (grid : Int) (digits : Nat) : Bool :=
  let (unit, width) := v.scales grid
  if v.significand % 2 = 0 then
    v.lowEnd * unit ≤ digits * width && digits * width ≤ v.highEnd * unit
  else v.lowEnd * unit < digits * width && digits * width < v.highEnd * unit

/-- The better neighbour on a grid: the nearer one if both round to the value, the even one if
they are equally near. -/
def candidate? (v : Dyadic) (grid : Int) : Option Decimal :=
  let (unit, width) := v.scales grid
  let below := 4 * v.significand * unit / width
  let twice := 2 * (4 * v.significand * unit)
  let middle := (2 * below + 1) * width
  match v.admits grid below, v.admits grid (below + 1) with
  | true, true =>
    if twice < middle || (twice = middle && below % 2 = 0) then some ⟨below, grid⟩
    else some ⟨below + 1, grid⟩
  | true, false => some ⟨below, grid⟩
  | false, true => some ⟨below + 1, grid⟩
  | false, false => none

def coarsestGrid (v : Dyadic) : Int :=
  ((v.significand.log2 : Int) + v.exponent) * 30103 / 100000 + 2

/-- The value itself, written out; seventeen digits always suffice, so this is not reached. -/
def exact (v : Dyadic) : Decimal :=
  ⟨v.significand * Nat.pow 2 v.exponent.toNat * Nat.pow 5 (-v.exponent).toNat,
    -(-v.exponent).toNat⟩

def shortest (v : Dyadic) : Decimal :=
  ((List.range 21).findSome? fun (i : Nat) => v.candidate? (v.coarsestGrid - i)).getD v.exact

end Dyadic
end AutomatonChart
