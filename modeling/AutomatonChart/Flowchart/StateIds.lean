import AutomatonChart.Collection.OrderedSet

/-! # State identifiers

Every distinct label gets the identifier `s0`, `s1`, … of its first occurrence, so labels never
appear as identifiers themselves.
-/
namespace AutomatonChart

structure StateId where
  index : Nat
deriving DecidableEq, Repr

def StateId.text (id : StateId) : String := "s" ++ toString id.index

structure StateIds where
  labels : OrderedSet String
deriving DecidableEq

namespace StateIds

/-- Identifiers in the order of the list; a repeated label keeps its first one. -/
def assign (states : List String) : StateIds := ⟨.ofList states⟩

def get? (ids : StateIds) (label : String) : Option StateId := (ids.labels.idxOf? label).map .mk

def pairs (ids : StateIds) : List (StateId × String) :=
  ids.labels.toList.zipIdx.map fun p => (⟨p.2⟩, p.1)

def size (ids : StateIds) : Nat := ids.labels.size

def isEmpty (ids : StateIds) : Bool := ids.labels.toList.isEmpty

theorem get?_eq_some {ids : StateIds} {label : String} {id : StateId} :
    ids.get? label = some id ↔ ids.labels.toList[id.index]? = some label := by
  unfold get?
  rw [Option.map_eq_some_iff]
  constructor
  · rintro ⟨i, hi, rfl⟩
    exact OrderedSet.idxOf?_eq_some.mp hi
  · intro h
    exact ⟨id.index, OrderedSet.idxOf?_eq_some.mpr h, rfl⟩

theorem get?_eq_none {ids : StateIds} {label : String} :
    ids.get? label = none ↔ label ∉ ids.labels := by
  simp [get?, OrderedSet.idxOf?_eq_none]

theorem get?_injective {ids : StateIds} {a b : String} {id : StateId}
    (ha : ids.get? a = some id) (hb : ids.get? b = some id) : a = b := by
  rw [get?_eq_some] at ha hb
  exact Option.some.inj (ha.symm.trans hb)

end StateIds
end AutomatonChart
