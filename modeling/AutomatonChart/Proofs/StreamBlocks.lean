import AutomatonChart.Delivery.Stream
import AutomatonChart.Proofs.ChartText
import AutomatonChart.Proofs.Submission

/-! # Taking a stream apart

A sink that never fails holds one block for each diagram, and nothing else. A block is a heading, a
flowchart and a line break. No label can pass for the end of a block: the only part of a flowchart
that begins with a line break goes on with a blank, but behind the break at the end of a block the
stream is over or the `%` of another heading follows. So the bytes tell which panes held a diagram,
and which one.
-/
namespace AutomatonChart

/-- No write and no flush of the sink fails, begun in a usable state, and `written` tells the bytes
that it took. -/
structure ByteSink.NeverFails {σ : Type} (sink : ByteSink (StateM σ)) (usable : σ → Prop)
    (written : σ → Bytes) : Prop where
  write : ∀ bytes s, usable s →
    ∃ s', sink.write bytes s = (.ok (), s') ∧ usable s' ∧ written s' = written s ++ bytes
  flush : ∀ s, usable s →
    ∃ s', sink.flush s = (.ok (), s') ∧ usable s' ∧ written s' = written s

/-- An output without a limit that is flushed without failure. -/
def Output.IsUnbounded (o : Output) : Prop := o.room = none ∧ o.flushFailure = none

theorem Output.neverFails : Output.sink.NeverFails Output.IsUnbounded Output.written where
  write := by
    rintro bytes ⟨written, room, flushFailure⟩ ⟨rfl, rfl⟩
    exact ⟨⟨written ++ bytes, none, none⟩, rfl, ⟨rfl, rfl⟩, rfl⟩
  flush := by
    rintro ⟨written, room, flushFailure⟩ ⟨rfl, rfl⟩
    exact ⟨⟨written, none, none⟩, rfl, ⟨rfl, rfl⟩, rfl⟩

namespace Stream
open Chart

section Sink
variable {σ : Type} {sink : ByteSink (StateM σ)} {usable : σ → Prop} {written : σ → Bytes}

theorem renderer_of_neverFails (hsink : sink.NeverFails usable written) (role : Role)
    (text : String) {s : σ} (hs : usable s) :
    ∃ s', renderer sink role text s = (.ok (), s') ∧ usable s' ∧
      written s' = written s ++ block role text := by
  obtain ⟨s₁, hwrite, hs₁, hwritten⟩ := hsink.write (block role text) s hs
  obtain ⟨s₂, hflush, hs₂, hflushed⟩ := hsink.flush s₁ hs₁
  refine ⟨s₂, ?_, hs₂, hflushed.trans hwritten⟩
  simp only [renderer, bind, StateT.bind, hwrite, hflush]
  rfl

theorem foldlM_renderPane_of_neverFails (hsink : sink.NeverFails usable written) (roles : List Role)
    (v : View) {s : σ} (hs : usable s) :
    ∃ s', roles.foldlM (View.renderPane (renderer sink)) v s = (v, s') ∧ usable s' ∧
      written s' = written s ++ (roles.filterMap v.diagram?).flatMap fun p => block p.1 p.2 := by
  induction roles generalizing s with
  | nil => exact ⟨s, rfl, hs, (List.append_nil _).symm⟩
  | cons role rest ih =>
    rw [List.foldlM_cons]
    change ∃ s', rest.foldlM (View.renderPane (renderer sink))
      (v.renderPane (renderer sink) role s).1 (v.renderPane (renderer sink) role s).2 = (v, s') ∧ _
    cases hd : v.diagram? role with
    | none =>
      rw [View.renderPane_of_no_diagram (renderer sink) hd, List.filterMap_cons_none hd]
      exact ih hs
    | some p =>
      obtain ⟨rfl, hp⟩ := View.diagram?_eq_some.mp hd
      obtain ⟨s₁, hcall, hs₁, hwritten⟩ := renderer_of_neverFails hsink p.1 p.2 hs
      obtain ⟨s₂, hrest, hs₂, hwritten'⟩ := ih hs₁
      have hkept : v.setPane p.1 ((renderer sink).call p.1 p.2 s).pane = v := by
        rw [Renderer.call, hcall]
        exact View.setPane_eq_self hp
      rw [View.renderPane_of_diagram (renderer sink) hp, hkept, hcall, List.filterMap_cons_some hd]
      refine ⟨s₂, hrest, hs₂, ?_⟩
      rw [hwritten', hwritten, List.flatMap_cons, List.append_assoc]

end Sink

def heading (role : Role) : List Char := ("%% " ++ role.name ++ "\n").toList

def blockChars (p : Role × String) : List Char := heading p.1 ++ (p.2.toList ++ ['\n'])

theorem heading_append_inj {role role' : Role} {r s : List Char}
    (h : heading role ++ r = heading role' ++ s) : role = role' ∧ r = s := by
  cases role <;> cases role'
  case original.original | minimized.minimized => exact ⟨rfl, List.append_cancel_left h⟩
  case original.minimized | minimized.original =>
    simp [heading, Role.name] at h

theorem flatMap_blockChars_begins (ps : List (Role × String)) :
    ps.flatMap blockChars = [] ∨ ∃ t, ps.flatMap blockChars = '%' :: t := by
  cases ps with
  | nil => exact .inl rfl
  | cons p ps =>
    right
    have hheading : heading p.1 = '%' :: (heading p.1).tail := by
      cases p.1 <;> rfl
    rw [List.flatMap_cons, blockChars, hheading]
    exact ⟨_, rfl⟩

/-- A flowchart does not go on with a line break that is the last character or stands before a
heading: the only part that begins with a line break goes on with a blank. -/
theorem ends_lineBreak {r : List Char} (hr : r = [] ∨ ∃ t, r = '%' :: t) :
    Mark.Ends ('\n' :: r) := by
  intro m t h
  have hline : lineStart = ' ' :: lineStart.tail := rfl
  have hstart : startText = '\n' :: ' ' :: startText.tail.tail := rfl
  cases m with
  | node id label accepting =>
    rw [Mark.chars, hline] at h
    exact absurd (List.cons.inj h).1 (by decide)
  | edge source target label =>
    rw [Mark.chars, hline] at h
    exact absurd (List.cons.inj h).1 (by decide)
  | start id =>
    rw [Mark.chars, hstart] at h
    have hrest := (List.cons.inj h).2
    rcases hr with rfl | ⟨u, rfl⟩
    · cases hrest
    · exact absurd (List.cons.inj hrest).1 (by decide)

/-- Blocks of flowcharts can be told from the text that they make up, whatever the labels are. -/
theorem flatMap_blockChars_inj {ps qs : List (Role × String)}
    (hp : ∀ p ∈ ps, ∃ d : Description, d.flowchart = p.2)
    (hq : ∀ q ∈ qs, ∃ d : Description, d.flowchart = q.2)
    (h : ps.flatMap blockChars = qs.flatMap blockChars) : ps = qs := by
  have hne : ∀ (p : Role × String) (rest : List Char), blockChars p ++ rest ≠ [] := by
    intro p rest h
    simp [blockChars] at h
  induction ps generalizing qs with
  | nil =>
    cases qs with
    | nil => rfl
    | cons q qs => exact absurd h.symm (hne q _)
  | cons p ps ih =>
    cases qs with
    | nil => exact absurd h (hne p _)
    | cons q qs =>
      obtain ⟨⟨a, ha⟩, hps⟩ := List.forall_mem_cons.mp hp
      obtain ⟨⟨b, hb⟩, hqs⟩ := List.forall_mem_cons.mp hq
      rw [List.flatMap_cons, List.flatMap_cons, blockChars, blockChars, ← ha, ← hb] at h
      simp only [List.append_assoc, List.singleton_append] at h
      obtain ⟨hrole, htext⟩ := heading_append_inj h
      obtain ⟨-, hrest⟩ := Description.sketch_eq_of_append
        (ends_lineBreak (flatMap_blockChars_begins ps))
        (ends_lineBreak (flatMap_blockChars_begins qs)) htext
      rw [hrest] at htext
      have hflowchart : p.2 = q.2 := by
        rw [← ha, ← hb]
        exact String.toList_inj.mp (List.append_cancel_right htext)
      rw [ih hps hqs (List.cons.inj hrest).2, Prod.ext hrole hflowchart]

theorem flatMap_block (ps : List (Role × String)) :
    ps.flatMap (fun p => block p.1 p.2) = Utf8.encode (String.ofList (ps.flatMap blockChars)) := by
  rw [Utf8.encode, String.toList_ofList, List.flatMap_assoc]
  congr 1
  funext p
  simp [block, Utf8.encode, blockChars, heading]

end Stream

namespace View

/-- Every diagram of the view is the flowchart of some description. -/
def ShowsFlowcharts (v : View) : Prop :=
  ∀ role text, v.pane role = .diagram text → ∃ d : Description, d.flowchart = text

theorem ShowsFlowcharts.of_mem {v : View} (h : v.ShowsFlowcharts) {p : Role × String}
    (hp : p ∈ Role.all.filterMap v.diagram?) : ∃ d : Description, d.flowchart = p.2 := by
  obtain ⟨role, -, hd⟩ := List.mem_filterMap.mp hp
  exact h role p.2 (diagram?_eq_some.mp hd).2

theorem pane_eq_diagram_iff {v : View} {role : Role} {text : String} :
    v.pane role = .diagram text ↔ (role, text) ∈ Role.all.filterMap v.diagram? := by
  rw [List.mem_filterMap]
  constructor
  · intro h
    exact ⟨role, role.mem_all, diagram?_eq_some.mpr ⟨rfl, h⟩⟩
  · rintro ⟨other, -, hd⟩
    obtain ⟨rfl, h⟩ := diagram?_eq_some.mp hd
    exact h

/-- Views of flowcharts that leave the same bytes on a sink that never fails hold diagrams in the
same panes, and the same ones. -/
theorem diagrams_told_by_stream {σ : Type} {sink : ByteSink (StateM σ)} {usable : σ → Prop}
    {written : σ → Bytes} (hsink : sink.NeverFails usable written) {v v' : View}
    (hv : v.ShowsFlowcharts) (hv' : v'.ShowsFlowcharts) {s : σ} (hs : usable s)
    (hsame : written (v.renderPanes (Stream.renderer sink) s).2 =
      written (v'.renderPanes (Stream.renderer sink) s).2) (role : Role) (text : String) :
    v.pane role = .diagram text ↔ v'.pane role = .diagram text := by
  obtain ⟨s₁, hrun, -, hwritten⟩ :=
    Stream.foldlM_renderPane_of_neverFails hsink Role.all v hs
  obtain ⟨s₂, hrun', -, hwritten'⟩ :=
    Stream.foldlM_renderPane_of_neverFails hsink Role.all v' hs
  rw [renderPanes, renderPanes, hrun, hrun', hwritten, hwritten', Stream.flatMap_block,
    Stream.flatMap_block] at hsame
  have hbytes := List.append_cancel_left hsame
  have hchars := congrArg Utf8.decodeLossy hbytes
  rw [Utf8.decodeLossy_encode, Utf8.decodeLossy_encode] at hchars
  have hdiagrams : Role.all.filterMap v.diagram? = Role.all.filterMap v'.diagram? :=
    Stream.flatMap_blockChars_inj (fun p => hv.of_mem) (fun p => hv'.of_mem)
      (String.ofList_injective hchars)
  rw [pane_eq_diagram_iff, pane_eq_diagram_iff, hdiagrams]

/-- One state, whose label looks like the heading and the beginning of a second diagram. -/
def forgedHeading : Description := { states := ["a\")\n\n%% minimized\ngraph LR\n"] }

def failedBeside : View :=
  { original := .diagram forgedHeading.flowchart, minimized := .failed "gone" }

def emptyBeside : View :=
  { original := .diagram forgedHeading.flowchart, log := some "done" }

theorem forgedHeading_told_by_stream :
    (failedBeside.renderPanes (Stream.renderer Output.sink) {}).2.written =
      (emptyBeside.renderPanes (Stream.renderer Output.sink) {}).2.written ∧
    ∀ role text, failedBeside.pane role = .diagram text ↔ emptyBeside.pane role = .diagram text := by
  have hfailed : failedBeside.ShowsFlowcharts := by
    intro role text h
    cases role <;> cases h
    exact ⟨forgedHeading, rfl⟩
  have hempty : emptyBeside.ShowsFlowcharts := by
    intro role text h
    cases role <;> cases h
    exact ⟨forgedHeading, rfl⟩
  have hsame : (failedBeside.renderPanes (Stream.renderer Output.sink) {}).2.written =
      (emptyBeside.renderPanes (Stream.renderer Output.sink) {}).2.written := rfl
  exact ⟨hsame, diagrams_told_by_stream Output.neverFails hfailed hempty ⟨rfl, rfl⟩ hsame⟩

end View
end AutomatonChart
