import AutomatonChart.Text.Utf8

/-! # Paths

A path is a sequence of bytes in which slashes separate names; it need not be valid text.
-/
namespace AutomatonChart

structure Path where
  bytes : Bytes
deriving DecidableEq, Repr

namespace Path

def slash : UInt8 := 0x2F
def here : Bytes := [0x2E]
def up : Bytes := [0x2E, 0x2E]

def ofText (s : String) : Path := ⟨Utf8.encode s⟩

def text (p : Path) : String := Utf8.decodeLossy p.bytes

/-- The stretches between slashes, empty ones included. -/
def pieces : Bytes → List Bytes
  | [] => [[]]
  | b :: rest =>
    if b = slash then [] :: pieces rest
    else match pieces rest with
      | [] => [[b]]
      | first :: others => (b :: first) :: others

def names (p : Path) : List Bytes := (pieces p.bytes).filter (· ≠ [])

def isAbsolute (p : Path) : Bool := p.bytes.head? = some slash

def endsInSlash (p : Path) : Bool := p.bytes.getLast? = some slash

/-- A file in a directory; no slash is put after an empty path or a second one after a slash. -/
def join (dir : Path) (name : String) : Path :=
  if dir.bytes = [] ∨ dir.endsInSlash then ⟨dir.bytes ++ Utf8.encode name⟩
  else ⟨dir.bytes ++ [slash] ++ Utf8.encode name⟩

/-- The names without those that stay where they are; one at the very front is kept. -/
def plainNames (p : Path) : List Bytes :=
  match p.names with
  | [] => []
  | first :: rest =>
    let rest := rest.filter (· ≠ here)
    if first = here ∧ p.isAbsolute then rest else first :: rest

def ofNames (absolute : Bool) (names : List Bytes) : Path :=
  ⟨(if absolute then [slash] else []) ++ [slash].intercalate names⟩

/-- The directories above a path, the nearest one first. -/
def parents (p : Path) : List Path :=
  let names := p.plainNames
  ((List.range names.length).reverse.map fun n => ofNames p.isAbsolute (names.take n)).filter
    fun q => q.bytes ≠ []

end Path
end AutomatonChart
