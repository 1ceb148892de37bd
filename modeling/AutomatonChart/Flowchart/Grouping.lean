import AutomatonChart.Automaton.Description
import AutomatonChart.Flowchart.StateIds

/-! # Grouped transitions

Transitions that share both ends are collected under their pair of identifiers, pairs and symbols
in the order in which the document first shows them.
-/
namespace AutomatonChart

abbrev Endpoints := StateId × StateId

structure GroupedTransitions where
  groups : OrderedMap Endpoints (List String)
deriving DecidableEq

namespace GroupedTransitions

def empty : GroupedTransitions := ⟨.empty⟩

def add (g : GroupedTransitions) (ends : Endpoints) (symbol : String) : GroupedTransitions :=
  ⟨g.groups.upsert ends fun found => found.getD [] ++ [symbol]⟩

def endpoints? (ids : StateIds) (t : Transition) : Option Endpoints :=
  match ids.get? t.source, ids.get? t.target with
  | some source, some target => some (source, target)
  | _, _ => none

def collect (ids : StateIds) (g : GroupedTransitions) (t : Transition) : GroupedTransitions :=
  match endpoints? ids t with
  | some ends => g.add ends t.symbol
  | none => g

/-- Groups the transitions of which both ends have an identifier; the others are dropped. -/
def build (d : Description) (ids : StateIds) : GroupedTransitions :=
  d.resolved.foldl (collect ids) empty

def toList (g : GroupedTransitions) : List (Endpoints × List String) := g.groups.entries

def size (g : GroupedTransitions) : Nat := g.groups.size

def isEmpty (g : GroupedTransitions) : Bool := g.groups.entries.isEmpty

end GroupedTransitions
end AutomatonChart
