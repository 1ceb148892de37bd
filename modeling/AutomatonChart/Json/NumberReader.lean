import AutomatonChart.Json.Cursor
import AutomatonChart.Json.Number

/-! # Reading numbers

An optional minus sign, digits without a leading zero, an optional fraction and an optional
exponent. Integers of 64 bits are kept exactly. Anything else is a fraction whose significand is
made of as many leading digits as fit 64 bits: further integer digits only raise the exponent,
further fraction digits are ignored.
-/
namespace AutomatonChart.Json.Number

/-- Appends digits to a number as long as it stays within the limit; also tells how many digits
were left over. -/
def accumulate (limit : Nat) : Nat → List Nat → Nat × Nat
  | n, [] => (n, 0)
  | n, d :: ds =>
    if n * 10 + d ≤ limit then accumulate limit (n * 10 + d) ds else (n, ds.length + 1)

def signed (negative : Bool) (x : Float) : Float := if negative then -x else x

def finish (negative : Bool) (significand : Nat) (exponent : Int) (stop : Cursor) :
    Except SyntaxError (Found Number) :=
  match scaled? significand exponent with
  | some x => .ok (.fraction (signed negative x), stop)
  | none => stop.fail .numberOutOfRange

/-- An exponent that does not fit 31 bits: too large unless it is negative or applies to zero. -/
def hugeExponent (negative down : Bool) (significand : Nat) (overflow stop : Cursor) :
    Except SyntaxError (Found Number) :=
  if significand ≠ 0 ∧ !down then overflow.fail .numberOutOfRange
  else .ok (.fraction (signed negative 0), stop)

def readExponent (negative : Bool) (significand : Nat) (shift : Int) (cur : Cursor) :
    Except SyntaxError (Found Number) :=
  let (down, first) := match cur.rest with
    | '+' :: _ => (false, cur.next)
    | '-' :: _ => (true, cur.next)
    | _ => (false, cur)
  match first.rest with
  | [] => first.fail .endInValue
  | c :: _ =>
    if c.isDigit then
      let (ds, stop) := first.digits
      match accumulate (UInt32.size / 2 - 1) 0 ds with
      | (e, 0) => finish negative significand (if down then shift - e else shift + e) stop
      | (_, left) =>
        let overflow := { first with
          position := first.position.advanceBytes (ds.length - left + 1) first.rest }
        hugeExponent negative down significand overflow stop
    else first.failAhead .invalidNumber

def isExponentMark (cur : Cursor) : Bool :=
  match cur.rest with
  | 'e' :: _ => true
  | 'E' :: _ => true
  | _ => false

def readFraction (negative : Bool) (significand dropped : Nat) (cur : Cursor) :
    Except SyntaxError (Found Number) :=
  match cur.digits with
  | ([], stop) => stop.failAhead (if stop.rest = [] then .endInValue else .invalidNumber)
  | (ds, stop) =>
    let (significand, left) := accumulate (UInt64.size - 1) significand ds
    let shift : Int := dropped - (ds.length - left)
    if isExponentMark stop then readExponent negative significand shift stop.next
    else finish negative significand shift stop

/-- A number without point and exponent: an integer if its 64 bits hold it. Minus zero is not an
integer. -/
def whole (negative : Bool) (significand dropped : Nat) (stop : Cursor) :
    Except SyntaxError (Found Number) :=
  if dropped ≠ 0 then finish negative significand dropped stop
  else if !negative then .ok (.integer significand, stop)
  else if 1 ≤ significand ∧ significand ≤ UInt64.size / 2 then .ok (.integer (-significand), stop)
  else finish negative significand 0 stop

def readUnsigned (negative : Bool) (cur : Cursor) : Except SyntaxError (Found Number) :=
  match cur.rest with
  | [] => cur.fail .endInValue
  | c :: _ =>
    if !c.isDigit then cur.failAhead .invalidNumber
    else
      let (ds, stop) := cur.digits
      if c = '0' ∧ 1 < ds.length then cur.next.failAhead .invalidNumber
      else
        let (significand, dropped) := accumulate (UInt64.size - 1) 0 ds
        match stop.rest with
        | '.' :: _ => readFraction negative significand dropped stop.next
        | _ =>
          if isExponentMark stop then readExponent negative significand dropped stop.next
          else whole negative significand dropped stop

end AutomatonChart.Json.Number
