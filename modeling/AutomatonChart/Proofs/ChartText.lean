import Mathlib.Data.List.Basic
import Mathlib.Data.Prod.Basic
import AutomatonChart.Flowchart.Chart

/-! # Reading a flowchart back

The text of a flowchart is a sequence of parts: node lines, at most one start marker, edge lines.
Inside quotation marks a part holds no further mark, so each part can be split off the front of any
longer text, whatever its label looks like. Hence the text determines what is drawn, up to the
escaping of labels.
-/
namespace AutomatonChart

theorem not_mem_escapeLabel (label : String) : '"' ∉ (escapeLabel label).toList := by
  rw [escapeLabel, String.toList_ofList, List.mem_flatMap]
  rintro ⟨c, -, hm⟩
  by_cases hc : c = '"'
  · rw [if_pos hc] at hm
    revert hm
    decide
  · rw [if_neg hc, List.mem_singleton] at hm
    exact hc hm.symm

namespace Chart

/-- Text that can stand between quotation marks, as it holds none itself. -/
@[ext] structure Inscription where
  text : String
  quoteFree : '"' ∉ text.toList

namespace Inscription

def ofLabel (label : String) : Inscription := ⟨escapeLabel label, not_mem_escapeLabel label⟩

def chars (i : Inscription) : List Char := i.text.toList

theorem chars_injective : Function.Injective chars := fun _ _ h =>
  Inscription.ext (String.toList_inj.mp h)

theorem text_injective : Function.Injective text := fun _ _ => Inscription.ext

end Inscription

def digits (id : StateId) : List Char := Nat.toDigits 10 id.index

theorem digits_injective : Function.Injective digits := by
  intro i j h
  have hindex : i.index = j.index := by
    calc
      i.index = Nat.ofDigitChars 10 (digits i) 0 := Nat.ofDigitChars_ten_toDigits.symm
      _ = Nat.ofDigitChars 10 (digits j) 0 := by rw [h]
      _ = j.index := Nat.ofDigitChars_ten_toDigits
  cases i
  cases j
  exact congrArg StateId.mk hindex

theorem append_cons_inj_of_class {p : Char → Bool} {xs ys r s : List Char} {c d : Char}
    (hx : ∀ x ∈ xs, p x = true) (hy : ∀ y ∈ ys, p y = true) (hc : p c = false) (hd : p d = false)
    (h : xs ++ c :: r = ys ++ d :: s) : xs = ys ∧ c = d ∧ r = s := by
  have htake := congrArg (List.takeWhile p) h
  rw [List.takeWhile_append_of_pos hx, List.takeWhile_append_of_pos hy,
    List.takeWhile_cons_of_neg (by simp [hc]), List.takeWhile_cons_of_neg (by simp [hd]),
    List.append_nil, List.append_nil] at htake
  subst htake
  exact ⟨rfl, List.cons.inj (List.append_cancel_left h)⟩

theorem digits_append_inj {i j : StateId} {r s : List Char} {c d : Char}
    (hc : c.isDigit = false) (hd : d.isDigit = false)
    (h : digits i ++ c :: r = digits j ++ d :: s) : i = j ∧ c = d ∧ r = s := by
  have hdigit (id : StateId) : ∀ x ∈ digits id, x.isDigit = true := fun x hx =>
    Nat.isDigit_of_mem_toDigits (by decide) (by decide) hx
  obtain ⟨hij, htail⟩ := append_cons_inj_of_class (hdigit i) (hdigit j) hc hd h
  exact ⟨digits_injective hij, htail⟩

theorem inscription_append_inj {x y : Inscription} {r s : List Char}
    (h : x.chars ++ '"' :: r = y.chars ++ '"' :: s) : x = y ∧ r = s := by
  have hinside (i : Inscription) : ∀ c ∈ i.chars, (c != '"') = true := by
    intro c hc
    rw [bne_iff_ne]
    rintro rfl
    exact i.quoteFree hc
  obtain ⟨hxy, -, htail⟩ :=
    append_cons_inj_of_class (hinside x) (hinside y) (by decide) (by decide) h
  exact ⟨Inscription.chars_injective hxy, htail⟩

def frame (label : Inscription) : Bool → List Char
  | false => '"' :: (label.chars ++ '"' :: [')', '\n'])
  | true => '(' :: '"' :: (label.chars ++ '"' :: [')', ')', '\n'])

theorem frame_append_inj {x y : Inscription} {a b : Bool} {r s : List Char}
    (h : frame x a ++ r = frame y b ++ s) : x = y ∧ a = b ∧ r = s := by
  cases a <;> cases b <;> simp only [frame, List.cons_append, List.append_assoc, List.cons.injEq,
    Char.reduceEq, true_and, false_and] at h
  all_goals
    obtain ⟨hxy, htail⟩ := inscription_append_inj h
    simp only [List.nil_append, List.cons.injEq, true_and] at htail
    exact ⟨hxy, rfl, htail⟩

def link (label : Inscription) (target : StateId) : List Char :=
  "-- \"".toList ++ (label.chars ++ '"' :: (" --> s".toList ++ (digits target ++ ['\n'])))

theorem link_append_inj {x y : Inscription} {t u : StateId} {r s : List Char}
    (h : link x t ++ r = link y u ++ s) : x = y ∧ t = u ∧ r = s := by
  simp only [link, List.append_assoc, List.cons_append] at h
  obtain ⟨hxy, hrest⟩ := inscription_append_inj (List.append_cancel_left h)
  obtain ⟨htu, -, htail⟩ := digits_append_inj rfl rfl (List.append_cancel_left hrest)
  exact ⟨hxy, htu, htail⟩

def lineStart : List Char := [' ', ' ', ' ', ' ', 's']

def startText : List Char :=
  ("\n    style __start__ fill:none,stroke:none\n" ++ "    __start__(( )) --> ").toList ++ ['s']

theorem lineStart_append_ne (r s : List Char) : lineStart ++ r ≠ startText ++ s := by
  have hline : lineStart = ' ' :: lineStart.tail := rfl
  have hstart : startText = '\n' :: startText.tail := rfl
  rw [hline, hstart]
  intro h
  exact absurd (List.cons.inj h).1 (by decide)

inductive Mark where
  | node (id : StateId) (label : Inscription) (accepting : Bool)
  | start (id : StateId)
  | edge (source target : StateId) (label : Inscription)

namespace Mark

def chars : Mark → List Char
  | .node id label accepting => lineStart ++ (digits id ++ '(' :: frame label accepting)
  | .start id => startText ++ (digits id ++ ['\n', '\n'])
  | .edge source target label => lineStart ++ (digits source ++ ' ' :: link label target)

/-- A part can be split off the front of any text that begins with it, in one way only. -/
theorem append_inj {m n : Mark} {r s : List Char} (h : m.chars ++ r = n.chars ++ s) :
    m = n ∧ r = s := by
  -- The first character tells a start marker, the one behind the digits a node from an edge.
  cases m <;> cases n <;> simp only [chars, List.append_assoc, List.cons_append] at h
  case node.node i x a j y b =>
    obtain ⟨rfl, -, hframe⟩ := digits_append_inj rfl rfl (List.append_cancel_left h)
    obtain ⟨rfl, rfl, htail⟩ := frame_append_inj hframe
    exact ⟨rfl, htail⟩
  case start.start i j =>
    obtain ⟨rfl, -, htail⟩ := digits_append_inj rfl rfl (List.append_cancel_left h)
    exact ⟨rfl, (List.cons.inj htail).2⟩
  case edge.edge i t x j u y =>
    obtain ⟨rfl, -, hlink⟩ := digits_append_inj rfl rfl (List.append_cancel_left h)
    obtain ⟨rfl, rfl, htail⟩ := link_append_inj hlink
    exact ⟨rfl, htail⟩
  case node.edge | edge.node =>
    exact absurd (digits_append_inj rfl rfl (List.append_cancel_left h)).2.1 (by decide)
  case node.start | edge.start => exact absurd h (lineStart_append_ne _ _)
  case start.node | start.edge => exact absurd h.symm (lineStart_append_ne _ _)

def Ends (r : List Char) : Prop := ∀ (m : Mark) (t : List Char), m.chars ++ t ≠ r

/-- A text is divided into parts in one way only, and ends where no further part begins. -/
theorem flatMap_append_inj {ms ns : List Mark} {r s : List Char} (hr : Ends r) (hs : Ends s)
    (h : ms.flatMap chars ++ r = ns.flatMap chars ++ s) : ms = ns ∧ r = s := by
  induction ms generalizing ns with
  | nil =>
    cases ns with
    | nil => exact ⟨rfl, h⟩
    | cons n ns =>
      rw [List.flatMap_cons, List.append_assoc] at h
      exact absurd h.symm (hr n _)
  | cons m ms ih =>
    cases ns with
    | nil =>
      rw [List.flatMap_cons, List.append_assoc] at h
      exact absurd h (hs m _)
    | cons n ns =>
      rw [List.flatMap_cons, List.flatMap_cons, List.append_assoc, List.append_assoc] at h
      obtain ⟨rfl, htail⟩ := append_inj h
      obtain ⟨rfl, hrs⟩ := ih htail
      exact ⟨rfl, hrs⟩

theorem ends_nil : Ends [] := by
  intro m t h
  cases m <;> simp [chars] at h

end Mark

/-- What a flowchart's text tells: labels as they are written, states by their place. -/
structure Sketch where
  states : List (Inscription × Bool)
  start : Option StateId
  edges : List (StateId × StateId × Inscription)

namespace Sketch

def marks (s : Sketch) : List Mark :=
  s.states.zipIdx.map (fun p => .node ⟨p.2⟩ p.1.1 p.1.2) ++
    (s.start.toList.map .start ++ s.edges.map fun e => .edge e.1 e.2.1 e.2.2)

def state? : Mark → Option (Inscription × Bool)
  | .node _ label accepting => some (label, accepting)
  | _ => none

def start? : Mark → Option StateId
  | .start id => some id
  | _ => none

def edge? : Mark → Option (StateId × StateId × Inscription)
  | .edge source target label => some (source, target, label)
  | _ => none

theorem marks_injective : Function.Injective marks := by
  have hstates (s : Sketch) : s.marks.filterMap state? = s.states := by
    simp [marks, List.filterMap_append, List.filterMap_map, Function.comp_def, state?]
  have hstart (s : Sketch) : (s.marks.filterMap start?).head? = s.start := by
    simp [marks, List.filterMap_append, List.filterMap_map, Function.comp_def, start?]
  have hedges (s : Sketch) : s.marks.filterMap edge? = s.edges := by
    simp [marks, List.filterMap_append, List.filterMap_map, Function.comp_def, edge?]
  intro s t h
  have hs := congrArg (List.filterMap state?) h
  have hi := congrArg (fun ms => (List.filterMap start? ms).head?) h
  have he := congrArg (List.filterMap edge?) h
  rw [hstates, hstates] at hs
  simp only [hstart] at hi
  rw [hedges, hedges] at he
  cases s
  cases t
  rw [Sketch.mk.injEq]
  exact ⟨hs, hi, he⟩

end Sketch

theorem toList_idText (id : StateId) : id.text.toList = 's' :: digits id := by
  simp [StateId.text, digits]

theorem toList_nodeLine (n : Node) :
    n.line.toList = (Mark.node n.id (.ofLabel n.label) n.accepting).chars := by
  cases ha : n.accepting <;>
    simp [Node.line, ha, quoted, toList_idText, Mark.chars, lineStart, frame, Inscription.chars,
      Inscription.ofLabel]

theorem toList_edgeLine (e : Edge) :
    e.line.toList = (Mark.edge e.source e.target (.ofLabel e.label)).chars := by
  simp [Edge.line, quoted, toList_idText, Mark.chars, lineStart, link, Inscription.chars,
    Inscription.ofLabel]

theorem toList_startLines (id : StateId) : (startLines id).toList = (Mark.start id).chars := by
  have hbreaks : "\n\n".toList = ['\n', '\n'] := rfl
  change _ = startText ++ (digits id ++ ['\n', '\n'])
  unfold startLines startText
  rw [String.toList_append, String.toList_append, toList_idText, hbreaks]
  simp only [List.append_assoc, List.cons_append, List.nil_append]

end Chart

namespace Description
open Chart

/-- The states in the order of their identifiers: the label as it is written, and the shape. -/
def shownStates (d : Description) : List (String × Bool) :=
  (StateIds.assign d.states).pairs.map fun p => (escapeLabel p.2, d.isAccepting p.2)

/-- The identifier that the start marker points at, if there is one. -/
def shownStart (d : Description) : Option StateId :=
  d.startState.bind (StateIds.assign d.states).get?

/-- The groups in order: both identifiers and the joined symbols as they are written. -/
def shownEdges (d : Description) : List (StateId × StateId × String) :=
  (GroupedTransitions.build d (.assign d.states)).toList.map fun g =>
    (g.1.1, g.1.2, escapeLabel (String.intercalate "," g.2))

def sketch (d : Description) : Sketch where
  states := (StateIds.assign d.states).pairs.map fun p => (.ofLabel p.2, d.isAccepting p.2)
  start := d.shownStart
  edges := (GroupedTransitions.build d (.assign d.states)).toList.map fun g =>
    (g.1.1, g.1.2, .ofLabel (String.intercalate "," g.2))

theorem sketch_eq_iff {a b : Description} :
    a.sketch = b.sketch ↔
      a.shownStates = b.shownStates ∧ a.shownStart = b.shownStart ∧
        a.shownEdges = b.shownEdges := by
  have hstates (d : Description) :
      d.shownStates = d.sketch.states.map (Prod.map Inscription.text id) := by
    simp [shownStates, sketch, Function.comp_def, Inscription.ofLabel]
  have hedges (d : Description) :
      d.shownEdges = d.sketch.edges.map (Prod.map id (Prod.map id Inscription.text)) := by
    simp [shownEdges, sketch, Function.comp_def, Inscription.ofLabel]
  have hs : Function.Injective (Prod.map Inscription.text (id : Bool → Bool)) :=
    Inscription.text_injective.prodMap Function.injective_id
  have he : Function.Injective
      (Prod.map (id : StateId → StateId) (Prod.map (id : StateId → StateId) Inscription.text)) :=
    Function.injective_id.prodMap (Function.injective_id.prodMap Inscription.text_injective)
  rw [hstates, hstates, hedges, hedges, (List.map_injective_iff.mpr hs).eq_iff,
    (List.map_injective_iff.mpr he).eq_iff]
  exact Sketch.mk.injEq .. ▸ Iff.rfl

theorem toList_flowchart (d : Description) :
    d.flowchart.toList = header.toList ++ d.sketch.marks.flatMap Mark.chars := by
  have hzip : d.sketch.states.zipIdx = (StateIds.assign d.states).labels.toList.zipIdx.map
      (Prod.map (fun label => (Inscription.ofLabel label, d.isAccepting label)) id) := by
    rw [← List.zipIdx_map]
    congr 1
    simp only [sketch, StateIds.pairs, List.map_map]
    conv_rhs => rw [← List.zipIdx_map_fst 0 (StateIds.assign d.states).labels.toList, List.map_map]
    rfl
  have hnodes : (ofDescription d).nodes.flatMap (fun n => n.line.toList) =
      (d.sketch.states.zipIdx.map fun p => .node ⟨p.2⟩ p.1.1 p.1.2).flatMap Mark.chars := by
    rw [hzip]
    simp [ofDescription, StateIds.pairs, List.flatMap_map, toList_nodeLine]
  have hedges : (ofDescription d).edges.flatMap (fun e => e.line.toList) =
      (d.sketch.edges.map fun e => .edge e.1 e.2.1 e.2.2).flatMap Mark.chars := by
    simp [ofDescription, sketch, List.flatMap_map, toList_edgeLine, Edge.label]
  have hstart : (((ofDescription d).start.map startLines).getD "").toList =
      (d.sketch.start.toList.map Mark.start).flatMap Mark.chars := by
    change ((d.shownStart.map startLines).getD "").toList = _
    cases h : d.shownStart <;> simp [sketch, h, toList_startLines]
  simp only [flowchart, text, Sketch.marks, String.toList_append, String.toList_join,
    List.flatMap_map, List.flatMap_append, List.append_assoc, hnodes, hedges, hstart]

theorem sketch_eq_of_append {a b : Description} {r s : List Char} (hr : Mark.Ends r)
    (hs : Mark.Ends s) (h : a.flowchart.toList ++ r = b.flowchart.toList ++ s) :
    a.sketch = b.sketch ∧ r = s := by
  rw [toList_flowchart, toList_flowchart, List.append_assoc, List.append_assoc] at h
  obtain ⟨hmarks, hrest⟩ := Mark.flatMap_append_inj hr hs (List.append_cancel_left h)
  exact ⟨Sketch.marks_injective hmarks, hrest⟩

/-- Two flowcharts have the same text just if they show the same states, the same start and the
same edges, so no label or symbol can pass for a part of the drawing. -/
theorem flowchart_eq_iff (a b : Description) :
    a.flowchart = b.flowchart ↔
      a.shownStates = b.shownStates ∧ a.shownStart = b.shownStart ∧
        a.shownEdges = b.shownEdges := by
  rw [← sketch_eq_iff]
  constructor
  · intro h
    have htext := congrArg String.toList h
    exact (sketch_eq_of_append Mark.ends_nil Mark.ends_nil (congrArg (· ++ []) htext)).1
  · intro h
    rw [← String.toList_inj, toList_flowchart, toList_flowchart, h]

/-- A label that looks like the end of its line and another line stays one label. -/
example : ({ states := ["a\")\n    s1(\"b"] } : Description).flowchart ≠
    ({ states := ["a", "b"] } : Description).flowchart := by decide

end Description
end AutomatonChart
