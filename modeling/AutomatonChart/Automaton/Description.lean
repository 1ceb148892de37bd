import AutomatonChart.Automaton.Key
import AutomatonChart.Collection.OrderedMap
import AutomatonChart.Collection.OrderedSet

/-! # Automaton descriptions

The states, accepting labels, start label and transitions of one automaton, as a document lists
them. References to states that are not declared are allowed; what draws the automaton drops
them.
-/
namespace AutomatonChart

structure Transition where
  source : String
  symbol : String
  target : String
deriving DecidableEq, Repr

/-- The states keep their repeats; the transitions are kept under their `source,symbol` keys. -/
structure Description where
  states : List String := []
  accepting : OrderedSet String := .empty
  start : Option String := none
  transitions : OrderedMap String String := .empty
deriving DecidableEq

namespace Description

instance : Inhabited Description := ⟨{}⟩

/-- The start label; an empty one counts as absent. -/
def startState (d : Description) : Option String := d.start.filter (· ≠ "")

def isAccepting (d : Description) (label : String) : Bool := decide (label ∈ d.accepting)

def declares (d : Description) (label : String) : Bool := d.states.contains label

def resolveEntry (d : Description) (entry : String × String) : Option Transition :=
  (Key.resolve d.declares entry.1).map fun p => ⟨p.1, p.2, entry.2⟩

/-- The transitions whose key has a comma, in document order. -/
def resolved (d : Description) : List Transition := d.transitions.entries.filterMap d.resolveEntry

theorem eq_of_resolveEntry {d : Description} {entry : String × String} {t : Transition}
    (h : d.resolveEntry entry = some t) : entry = (Key.join t.source t.symbol, t.target) := by
  obtain ⟨p, hp, rfl⟩ := Option.map_eq_some_iff.mp h
  exact Prod.ext (Key.join_of_resolve hp).symm rfl

end Description
end AutomatonChart
