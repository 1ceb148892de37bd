import AutomatonChart.Json.SyntaxError

/-! # Reading position

The characters still to be read and where they begin. A fault is reported either at the cursor or
one byte ahead of it, at the byte that was looked at but not taken.
-/
namespace AutomatonChart.Json

structure Cursor where
  rest : List Char
  position : Position := {}
deriving DecidableEq, Repr

abbrev Found (α : Type) := α × Cursor

namespace Cursor

def fail {α : Type} (cur : Cursor) (fault : Fault) : Except SyntaxError α :=
  .error ⟨fault, cur.position⟩

/-- Reports one byte further, or at the end if nothing is left. -/
def failAhead {α : Type} (cur : Cursor) (fault : Fault) : Except SyntaxError α :=
  match cur.rest with
  | [] => .error ⟨fault, cur.position⟩
  | c :: _ => .error ⟨fault, cur.position.bump c⟩

def next (cur : Cursor) : Cursor :=
  match cur.rest with
  | [] => cur
  | c :: rest => ⟨rest, cur.position.advance c⟩

def isBlank (c : Char) : Bool := c = ' ' || c = '\n' || c = '\t' || c = '\r'

def skipBlanksFrom : List Char → Position → Cursor
  | [], p => ⟨[], p⟩
  | c :: rest, p => if isBlank c then skipBlanksFrom rest (p.advance c) else ⟨c :: rest, p⟩

def skipBlanks (cur : Cursor) : Cursor := skipBlanksFrom cur.rest cur.position

def digitsFrom : List Char → Position → List Nat × Cursor
  | [], p => ([], ⟨[], p⟩)
  | c :: rest, p =>
    if c.isDigit then
      let (ds, stop) := digitsFrom rest (p.advance c)
      ((c.toNat - '0'.toNat) :: ds, stop)
    else ([], ⟨c :: rest, p⟩)

def digits (cur : Cursor) : List Nat × Cursor := digitsFrom cur.rest cur.position

end Cursor
end AutomatonChart.Json
