import AutomatonChart.Flowchart.Grouping

/-! # Flowcharts

What a drawing of an automaton shows (nodes, start marker, edges) and its text in the flowchart
language. Labels stand only inside quotation marks, where the mark itself is written as an entity.
-/
namespace AutomatonChart

def escapeLabel (label : String) : String :=
  String.ofList (label.toList.flatMap fun c => if c = '"' then "#quot;".toList else [c])

namespace Chart

structure Node where
  id : StateId
  label : String
  accepting : Bool
deriving DecidableEq, Repr

structure Edge where
  source : StateId
  target : StateId
  symbols : List String
deriving DecidableEq, Repr

def quoted (label : String) : String := "\"" ++ escapeLabel label ++ "\""

/-- An accepting state is drawn with a double circle. -/
def Node.line (n : Node) : String :=
  if n.accepting then "    " ++ n.id.text ++ "((" ++ quoted n.label ++ "))\n"
  else "    " ++ n.id.text ++ "(" ++ quoted n.label ++ ")\n"

def Edge.label (e : Edge) : String := String.intercalate "," e.symbols

def Edge.line (e : Edge) : String :=
  "    " ++ e.source.text ++ " -- " ++ quoted e.label ++ " --> " ++ e.target.text ++ "\n"

/-- An invisible node that points at the start state. -/
def startLines (start : StateId) : String :=
  "\n    style __start__ fill:none,stroke:none\n" ++
    "    __start__(( )) --> " ++ start.text ++ "\n\n"

end Chart

structure Chart where
  nodes : List Chart.Node
  start : Option StateId
  edges : List Chart.Edge
deriving DecidableEq, Repr

namespace Chart

/-- One node per distinct state, the start state if it is declared, and one edge per group. -/
def ofDescription (d : Description) : Chart :=
  let ids := StateIds.assign d.states
  { nodes := ids.pairs.map fun p => ⟨p.1, p.2, d.isAccepting p.2⟩
    start := d.startState.bind ids.get?
    edges := (GroupedTransitions.build d ids).toList.map fun g => ⟨g.1.1, g.1.2, g.2⟩ }

def header : String := "graph LR\n"

def text (c : Chart) : String :=
  header ++ String.join (c.nodes.map Node.line) ++ (c.start.map startLines).getD "" ++
    String.join (c.edges.map Edge.line)

end Chart

def Description.flowchart (d : Description) : String := (Chart.ofDescription d).text

end AutomatonChart
