import AutomatonChart.Proofs.Attempts
import AutomatonChart.Proofs.Placement

/-! # Outputs that fill up

An output with a limit keeps the beginning of what it is given and refuses the rest. It makes no
difference in which pieces the bytes come or how few of them are taken at a time: rendering leaves
the first bytes of all blocks in a row, and a pane fails just if its block does not end within the
limit or cannot be flushed.
-/
namespace AutomatonChart

namespace Output
variable {o : Output} {bytes front rest : Bytes} {n k : Nat}

def taking (k : Nat) (bytes : Bytes) (o : Output) : Output :=
  { o with written := o.written ++ bytes.take k, room := o.room.map (· - k) }

theorem write_nil (o : Output) : o.write [] = (.ok (), o) := by
  obtain ⟨written, room, flushFailure⟩ := o
  cases room <;> simp [write]

theorem write_of_full (hroom : o.room = some 0) (hbytes : bytes ≠ []) :
    o.write bytes = (.error "failed to write whole buffer", o) := by
  obtain ⟨written, room, flushFailure⟩ := o
  obtain rfl : room = some 0 := hroom
  simp [write, hbytes]

/-- Taking a beginning first and writing the rest comes to the same as writing all. -/
theorem write_taking (hlen : k ≤ bytes.length) (hroom : ∀ n, o.room = some n → k ≤ n) :
    (o.taking k bytes).write (bytes.drop k) = o.write bytes := by
  obtain ⟨written, room, flushFailure⟩ := o
  cases room with
  | none => simp [write, taking]
  | some n =>
    have hk : k ≤ n := hroom n rfl
    have hbytes : bytes.take k ++ (bytes.drop k).take (n - k) = bytes.take n := by
      rw [← List.take_add, Nat.add_sub_cancel' hk]
    have hrest : n - k - (bytes.length - k) = n - bytes.length := by omega
    have hfits : bytes.length - k ≤ n - k ↔ bytes.length ≤ n := by omega
    simp only [write, taking, Option.map_some, List.length_drop, List.append_assoc, hbytes, hrest,
      hfits]

theorem write_append (front rest : Bytes) (o : Output) :
    o.write (front ++ rest) =
      match o.write front with
      | (.error reason, o) => (.error reason, o)
      | (.ok (), o) => o.write rest := by
  obtain ⟨written, room, flushFailure⟩ := o
  cases room with
  | none => simp [write]
  | some n =>
    by_cases hfront : front.length ≤ n
    · have hlen : (front ++ rest).length ≤ n ↔ rest.length ≤ n - front.length := by
        rw [List.length_append]
        omega
      have hleft : n - (front ++ rest).length = n - front.length - rest.length := by
        rw [List.length_append]
        omega
      have hkept : (front ++ rest).take n = front ++ rest.take (n - front.length) := by
        rw [List.take_append, List.take_of_length_le hfront]
      simp only [write, hfront, hlen, hleft, hkept, List.take_of_length_le, if_true,
        List.append_assoc]
    · have hlen : ¬(front ++ rest).length ≤ n := by
        rw [List.length_append]
        omega
      have hleft : n - (front ++ rest).length = n - front.length := by
        rw [List.length_append]
        omega
      have hkept : (front ++ rest).take n = front.take n :=
        List.take_append_of_le_length (by omega)
      simp only [write, hfront, hlen, hleft, hkept, if_false]

end Output

/-- How an output deals with bytes that it is offered: it takes a beginning of them that there is
room for, and at least one byte unless it is full. -/
structure Intake where
  count : Bytes → Output → Nat
  count_le : ∀ bytes o, count bytes o ≤ bytes.length
  le_room : ∀ bytes o n, o.room = some n → count bytes o ≤ n
  progress : ∀ bytes o, bytes ≠ [] → o.room ≠ some 0 → count bytes o ≠ 0

namespace Intake

def greedy : Intake where
  count bytes o := (o.room.map (min bytes.length)).getD bytes.length
  count_le bytes o := by
    cases o.room with
    | none => exact Nat.le_refl bytes.length
    | some n => exact Nat.min_le_left bytes.length n
  le_room bytes o n h := by
    rw [h]
    exact Nat.min_le_right bytes.length n
  progress bytes o hbytes hroom := by
    have hlen := List.length_pos_iff.mpr hbytes
    cases h : o.room with
    | none => exact Nat.ne_of_gt hlen
    | some n =>
      have hn : n ≠ 0 := fun hn => hroom (h.trans (congrArg some hn))
      simp only [Option.map_some, Option.getD_some]
      omega

instance : Inhabited Intake := ⟨greedy⟩

/-- Offers what is left of some bytes again and again, until all are taken or none is. -/
def writeAll (intake : Intake) (bytes : Bytes) (o : Output) : Except String Unit × Output :=
  if bytes = [] then (.ok (), o)
  else if intake.count bytes o = 0 then (.error "failed to write whole buffer", o)
  else intake.writeAll (bytes.drop (intake.count bytes o))
    (o.taking (intake.count bytes o) bytes)
termination_by bytes.length
decreasing_by
  have hlen := List.length_pos_iff.mpr ‹bytes ≠ []›
  simp only [List.length_drop]
  omega

variable (intake : Intake)

def sink : ByteSink (StateM Output) := ⟨intake.writeAll, Output.flush⟩

/-- However few bytes are taken at a time, in the end those that fit have been. -/
theorem writeAll_eq (bytes : Bytes) (o : Output) : intake.writeAll bytes o = o.write bytes := by
  fun_induction intake.writeAll bytes o with
  | case1 o => exact (Output.write_nil o).symm
  | case2 bytes o hbytes hcount =>
    have hroom : o.room = some 0 := by
      by_contra hroom
      exact intake.progress bytes o hbytes hroom hcount
    exact (Output.write_of_full hroom hbytes).symm
  | case3 bytes o hbytes hcount ih =>
    rw [ih]
    exact Output.write_taking (intake.count_le bytes o) (intake.le_room bytes o)

theorem sink_eq : intake.sink = Output.sink := by
  have hwrite : intake.writeAll = Output.write := by
    funext bytes o
    exact intake.writeAll_eq bytes o
  rw [sink, hwrite]
  rfl

end Intake

namespace ByteSink
variable {m : Type → Type} [Monad m]

def writeEach (sink : ByteSink m) : List Bytes → m (Except String Unit)
  | [] => pure (.ok ())
  | piece :: rest => do
    match ← sink.write piece with
    | .error reason => pure (.error reason)
    | .ok () => sink.writeEach rest

end ByteSink

theorem Output.writeEach_eq (pieces : List Bytes) (o : Output) :
    Output.sink.writeEach pieces o = o.write pieces.flatten := by
  induction pieces generalizing o with
  | nil => exact (Output.write_nil o).symm
  | cons piece rest ih =>
    rw [List.flatten_cons, Output.write_append]
    simp only [ByteSink.writeEach, bind, StateT.bind, Output.sink]
    rcases o.write piece with ⟨reason | ⟨⟩, o₁⟩
    · rfl
    · exact ih o₁

namespace Stream

def pieces (role : Role) (diagram : String) : List Bytes :=
  ["%% ", role.name, "\n", diagram, "\n"].map Utf8.encode

theorem flatten_pieces (role : Role) (diagram : String) :
    (pieces role diagram).flatten = block role diagram := by
  simp [pieces, block, Utf8.encode]

/-- Writes each block in its pieces. -/
def piecewise {m : Type → Type} [Monad m] (sink : ByteSink m) : Renderer m :=
  fun role diagram => do
    match ← sink.writeEach (pieces role diagram) with
    | .error reason => pure (.error (.stream reason))
    | .ok () =>
      match ← sink.flush with
      | .error reason => pure (.error (.stream reason))
      | .ok () => pure (.ok ())

/-- The pieces of a block may be written one after the other, and each of them bit by bit. -/
theorem piecewise_eq (intake : Intake) : piecewise intake.sink = renderer Output.sink := by
  rw [intake.sink_eq]
  funext role diagram o
  have hwrite := Output.writeEach_eq (pieces role diagram) o
  rw [flatten_pieces] at hwrite
  simp only [piecewise, renderer, bind, StateT.bind, hwrite]
  rfl

theorem block_ne_nil (role : Role) (diagram : String) : block role diagram ≠ [] := by
  rw [← flatten_pieces]
  simp [pieces, Utf8.encode]

/-- The blocks of some diagrams in a row. -/
def blocks (ps : List (Role × String)) : Bytes := ps.flatMap fun p => block p.1 p.2

theorem blocks_cons (p : Role × String) (ps : List (Role × String)) :
    blocks (p :: ps) = block p.1 p.2 ++ blocks ps := List.flatMap_cons

theorem blocks_append (front rest : List (Role × String)) :
    blocks (front ++ rest) = blocks front ++ blocks rest := List.flatMap_append

def outcome (n : Nat) (flushFailure : Option String) (bytes : Bytes) : Except DeliveryError Unit :=
  if n < bytes.length then .error (.stream "failed to write whole buffer")
  else match flushFailure with
    | none => .ok ()
    | some reason => .error (.stream reason)

section Limited
variable (before : Bytes) (n : Nat) (flushFailure : Option String)

theorem renderer_limited (role : Role) (diagram : String) :
    renderer Output.sink role diagram ⟨before, some n, flushFailure⟩ =
      (outcome n flushFailure (block role diagram),
        ⟨before ++ (block role diagram).take n, some (n - (block role diagram).length),
          flushFailure⟩) := by
  rw [renderer_eq]
  by_cases hfits : (block role diagram).length ≤ n
  · simp only [Output.write, outcome, if_pos hfits, if_neg (Nat.not_lt.mpr hfits)]
    cases flushFailure <;> rfl
  · simp only [Output.write, outcome, if_neg hfits, if_pos (Nat.lt_of_not_le hfits)]

theorem pane_call_limited (role : Role) (diagram : String) :
    ((renderer Output.sink).call role diagram ⟨before, some n, flushFailure⟩).pane =
      if n < (block role diagram).length then
        .failed "failed to write diagram: failed to write whole buffer"
      else match flushFailure with
        | none => .diagram diagram
        | some reason => .failed ("failed to write diagram: " ++ reason) := by
  rw [Renderer.call, renderer_limited]
  by_cases hlong : n < (block role diagram).length
  · simp only [outcome, if_pos hlong]
    rfl
  · simp only [outcome, if_neg hlong]
    cases flushFailure <;> rfl

theorem callAll_limited (ps : List (Role × String)) :
    ((renderer Output.sink).callAll ps ⟨before, some n, flushFailure⟩).2 =
      ⟨before ++ (blocks ps).take n, some (n - (blocks ps).length), flushFailure⟩ := by
  induction ps generalizing before n with
  | nil => simp [Renderer.callAll, blocks]
  | cons p rest ih =>
    simp only [Renderer.callAll, renderer_limited, ih, blocks_cons, List.take_append,
      List.length_append, List.append_assoc, Nat.sub_sub]

end Limited
end Stream

namespace View

/-- On an output that takes only so many more bytes, rendering leaves the first of them that the
blocks of all diagrams make up, in whatever pieces they are written. The pane of a diagram fails
because of the limit just if its block ends behind it, and all others fail if the output cannot be
flushed. What is not shown as failed stands on the output to the last byte. -/
theorem stream_of_limited_output (v : View) (intake : Intake) (before : Bytes) (n : Nat)
    (flushFailure : Option String) :
    let o : Output := ⟨before, some n, flushFailure⟩
    let run := v.renderPanes (Stream.renderer Output.sink) o
    let handed := Role.all.filterMap v.diagram?
    v.renderPanes (Stream.piecewise intake.sink) o = run ∧
      run.2.written = before ++ (Stream.blocks handed).take n ∧
      (∀ front p rest, handed = front ++ p :: rest →
        run.1.pane p.1 =
          if n < (Stream.blocks (front ++ [p])).length then
            .failed "failed to write diagram: failed to write whole buffer"
          else match flushFailure with
            | none => .diagram p.2
            | some reason => .failed ("failed to write diagram: " ++ reason)) ∧
      (∀ front p rest, handed = front ++ p :: rest → run.1.pane p.1 = .diagram p.2 →
        before ++ Stream.blocks (front ++ [p]) <+: run.2.written) ∧
      (∀ role, (∀ text, v.pane role ≠ .diagram text) → run.1.pane role = v.pane role) ∧
      run.1.submit = v.submit ∧ run.1.log = v.log ∧ run.1.notice = v.notice := by
  intro o run handed
  obtain ⟨hrendered, hcalls⟩ := renderPanes_rendered (Stream.renderer Output.sink) v o
  have hleft := Stream.callAll_limited before n flushFailure handed
  have hwritten : run.2.written = before ++ (Stream.blocks handed).take n := by
    rw [show run.2 = _ from (congrArg Prod.snd hcalls).symm.trans hleft]
  have hpane : ∀ front p rest, handed = front ++ p :: rest →
      run.1.pane p.1 =
        if n < (Stream.blocks (front ++ [p])).length then
          .failed "failed to write diagram: failed to write whole buffer"
        else match flushFailure with
          | none => .diagram p.2
          | some reason => .failed ("failed to write diagram: " ++ reason) := by
    intro front p rest hhanded
    have hmem := (Stream.renderer Output.sink).call_mem_callAll front rest p o
    rw [← hhanded, hcalls] at hmem
    have hcalled := hrendered.called _ hmem
    -- The call finds the room that the blocks before it have left.
    have hroom : n - (Stream.blocks front).length < (Stream.block p.1 p.2).length ↔
        n < (Stream.blocks (front ++ [p])).length := by
      have hblock := List.length_pos_iff.mpr (Stream.block_ne_nil p.1 p.2)
      have hstop : (Stream.blocks (front ++ [p])).length =
          (Stream.blocks front).length + (Stream.block p.1 p.2).length := by
        simp [Stream.blocks]
      omega
    rw [Stream.callAll_limited, Stream.pane_call_limited] at hcalled
    simp only [hroom] at hcalled
    exact hcalled
  refine ⟨by rw [Stream.piecewise_eq], hwritten, hpane, ?_, ?_, hrendered.submit, hrendered.log,
    hrendered.notice⟩
  · intro front p rest hhanded hdiagram
    have hfits : (Stream.blocks (front ++ [p])).length ≤ n := by
      by_contra hlong
      rw [hpane front p rest hhanded, if_pos (Nat.lt_of_not_le hlong)] at hdiagram
      cases hdiagram
    have hbegins : Stream.blocks (front ++ [p]) <+: Stream.blocks handed := by
      refine ⟨Stream.blocks rest, ?_⟩
      rw [← Stream.blocks_append, hhanded, List.append_assoc, List.singleton_append]
    rw [hwritten]
    exact (List.prefix_append_right_inj before).mpr (List.prefix_take_iff.mpr ⟨hbegins, hfits⟩)
  · intro role hnone
    apply hrendered.others
    intro c hc hrole
    exact hnone c.text (hrole ▸ hrendered.pane_of_handed hc)

/-- A limit inside the second heading: the first diagram stands in full, and the second is cut. -/
example :
    let v : View := { original := .diagram "é", minimized := .diagram "b" }
    let run := v.renderPanes (Stream.renderer Output.sink) { room := some 19 }
    run.1 = { v with minimized := .failed "failed to write diagram: failed to write whole buffer" } ∧
      run.2.written = Utf8.encode "%% original\né\n%% m" := by
  decide

end View
end AutomatonChart
