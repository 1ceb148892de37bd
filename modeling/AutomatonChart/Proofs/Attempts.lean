import AutomatonChart.Proofs.Rendering

/-! # Every diagram is tried

Rendering reads each pane off a view that the failures before may have changed. It still comes to
the same as handing over the diagrams of the view that it began with, one after the other: each
call is made in the state that the call before left behind, whatever came of that one, and its
outcome decides the pane that it was made for and nothing else.
-/
namespace AutomatonChart

namespace Renderer
variable {σ : Type} (renderer : Renderer (StateM σ))

/-- The calls for some diagrams in a row, and the state that the last one leaves behind. A call
that fails hands its state on like any other. -/
def callAll : List (Role × String) → σ → List Delivery × σ
  | [], s => ([], s)
  | p :: rest, s =>
    let (calls, last) := callAll rest (renderer p.1 p.2 s).2
    (renderer.call p.1 p.2 s :: calls, last)

theorem callAll_concat (ps : List (Role × String)) (p : Role × String) (s : σ) :
    renderer.callAll (ps ++ [p]) s =
      ((renderer.callAll ps s).1 ++ [renderer.call p.1 p.2 (renderer.callAll ps s).2],
        (renderer p.1 p.2 (renderer.callAll ps s).2).2) := by
  induction ps generalizing s with
  | nil => rfl
  | cons q rest ih => simp only [List.cons_append, callAll, ih]

theorem call_mem_callAll (front rest : List (Role × String)) (p : Role × String) (s : σ) :
    renderer.call p.1 p.2 (renderer.callAll front s).2 ∈
      (renderer.callAll (front ++ p :: rest) s).1 := by
  induction front generalizing s with
  | nil => exact List.mem_cons_self
  | cons q front ih => exact List.mem_cons_of_mem _ (ih (renderer q.1 q.2 s).2)

end Renderer

/-- The recorded calls are those for the recorded diagrams, made in a row from a state. -/
def Journal.Threaded {σ : Type} (j : Journal σ) (renderer : Renderer (StateM σ)) (s : σ) : Prop :=
  renderer.callAll (j.deliveries.map Delivery.handed) s = (j.deliveries, j.world)

namespace View

section Attempts
variable {σ : Type} (renderer : Renderer (StateM σ)) (v : View) (s : σ)

theorem renderPanes_threaded :
    (v.renderPanes renderer.recorded { world := s }).2.Threaded renderer s := by
  refine renderPanes_preserves (P := fun j => j.Threaded renderer s) ?_ v { world := s } rfl rfl
  intro role text j hj _
  change renderer.callAll ((j.deliveries ++ [renderer.call role text j.world]).map _) s = _
  rw [List.map_append, List.map_singleton, Renderer.callAll_concat, hj]
  rfl

theorem renderPanes_rendered :
    let calls := (v.renderPanes renderer.recorded { world := s }).2.deliveries
    Rendered Role.all v (v.renderPanes renderer s).1 calls ∧
      renderer.callAll (Role.all.filterMap v.diagram?) s =
        (calls, (v.renderPanes renderer s).2) := by
  obtain ⟨hview, hworld⟩ := renderPanes_erases renderer v { world := s }
  obtain ⟨v', calls, world, hrendered, hrun⟩ := renderPanes_recorded renderer v { world := s }
  have hthreaded := renderPanes_threaded renderer v s
  rw [hrun] at hview hworld hthreaded ⊢
  refine ⟨hview ▸ hrendered, ?_⟩
  rw [← hrendered.handed, ← hworld]
  exact hthreaded

/-- Whatever a renderer does with its state, every diagram of a view is handed over just once and
nothing else is, the original one first, and a failure does not keep the next call from being made
in the state that it left. A pane fails with the message of the error just if its call failed; the
other panes, the control, the log and the notice stay as they were. -/
theorem every_diagram_attempted :
    let run := v.renderPanes renderer.recorded { world := s }
    let v' := (v.renderPanes renderer s).1
    let calls := run.2.deliveries
    (run.1, run.2.world) = v.renderPanes renderer s ∧
      calls.map Delivery.handed = Role.all.filterMap v.diagram? ∧
      (calls, run.2.world) = renderer.callAll (Role.all.filterMap v.diagram?) s ∧
      (∀ c ∈ calls,
        (∀ message, v'.pane c.role = .failed message ↔
          ∃ e, c.outcome = .error e ∧ e.message = message) ∧
        (c.outcome = .ok () → v'.pane c.role = v.pane c.role)) ∧
      (∀ role, (∀ c ∈ calls, c.role ≠ role) → v'.pane role = v.pane role) ∧
      v'.submit = v.submit ∧ v'.log = v.log ∧ v'.notice = v.notice := by
  intro run v' calls
  obtain ⟨hview, hworld⟩ := renderPanes_erases renderer v { world := s }
  obtain ⟨hrendered, hcalls⟩ := renderPanes_rendered renderer v s
  refine ⟨Prod.ext hview hworld, hrendered.handed, ?_, ?_, hrendered.others, hrendered.submit,
    hrendered.log, hrendered.notice⟩
  · rw [hcalls, ← hworld]
  · intro c hc
    rw [hrendered.called c hc, hrendered.pane_of_handed hc]
    exact ⟨fun message => Delivery.pane_eq_failed, fun hok =>
      Delivery.pane_eq_diagram.mpr ⟨hok, rfl⟩⟩

end Attempts

example :
    let refusing : Renderer (StateM Nat) := fun role _ n =>
      (if role = .original then .error (.stream "full") else .ok (), n + 1)
    View.renderPanes refusing { original := .diagram "a", minimized := .diagram "b" } 0 =
      ({ original := .failed "failed to write diagram: full", minimized := .diagram "b" }, 2) :=
  rfl

end View
end AutomatonChart
