import AutomatonChart.Proofs.History

/-! # Refused submissions

A submission of nothing but blanks is refused with a notice. Nothing is sent for it, and it has no
say in the submit control or in the panes, so neither the view at hand nor any later one shows
there that it was made. But it takes the log away as every submission does, and the log stays
hidden until another reply brings one.
-/
namespace AutomatonChart

namespace Event
variable {α : Type} {verdict : Event → Option α} {front rest : List Event} {e : Event}

theorem latest_append_of_silent (before : α) (h : verdict e = none) :
    latest verdict before (front ++ e :: rest) = latest verdict before (front ++ rest) := by
  rw [latest, latest, List.filterMap_append, List.filterMap_cons_none h, List.filterMap_append]

theorem latest_append_of_later (before : α) (h : ∃ later ∈ rest, (verdict later).isSome) :
    latest verdict before (front ++ e :: rest) = latest verdict before (front ++ rest) := by
  obtain ⟨later, hm, hsome⟩ := h
  obtain ⟨a, ha⟩ := Option.isSome_iff_exists.mp hsome
  have hne : rest.filterMap verdict ≠ [] :=
    List.ne_nil_of_mem (List.mem_filterMap.mpr ⟨later, hm, ha⟩)
  have hlast (before : List Event) :
      ((before ++ rest).filterMap verdict).getLast? = (rest.filterMap verdict).getLast? := by
    rw [List.filterMap_append, List.getLast?_append_of_ne_nil _ hne]
  have hsplit : front ++ e :: rest = front ++ [e] ++ rest := by simp
  rw [latest, latest, hsplit, hlast, hlast]

theorem latest_append_of_decided (before : α) {a : α} (h : verdict e = some a)
    (hrest : ∀ later ∈ rest, verdict later = none) :
    latest verdict before (front ++ e :: rest) = a := by
  have hquiet : rest.filterMap verdict = [] := List.filterMap_eq_nil_iff.mpr hrest
  rw [latest, List.filterMap_append, List.filterMap_cons_some h, hquiet, List.getLast?_concat,
    Option.getD_some]

end Event

theorem SubmitControl.enabled_injective : Function.Injective enabled := by
  intro a b h
  cases a <;> cases b
  case ready.ready | pending.pending => rfl
  case ready.pending | pending.ready => cases h

namespace View
open Event

section Part
variable {α : Type} (part : View → α) {verdict : Event → Option α}
variable (hstep : ∀ (v : View) (e : Event), part (v.handle e).1 = (verdict e).getD (part v))
variable (v : View) (front rest : List Event) {e : Event}
include hstep

theorem run_append_of_silent (h : verdict e = none) :
    part (v.run (front ++ e :: rest)).1 = part (v.run (front ++ rest)).1 := by
  rw [latest_run part hstep, latest_run part hstep, latest_append_of_silent _ h]

theorem run_append_of_later (h : ∃ later ∈ rest, (verdict later).isSome) :
    part (v.run (front ++ e :: rest)).1 = part (v.run (front ++ rest)).1 := by
  rw [latest_run part hstep, latest_run part hstep, latest_append_of_later _ h]

theorem run_append_of_decided {a : α} (h : verdict e = some a)
    (hrest : ∀ later ∈ rest, verdict later = none) :
    part (v.run (front ++ e :: rest)).1 = a := by
  rw [latest_run part hstep, latest_append_of_decided _ h hrest]

end Part

theorem handle_of_blank {source : String} (h : Text.isBlank source = true) (v : View) :
    v.handle (.submitRequested source) =
      ({ v with log := none, notice := some .emptyInput }, none) := by
  simp [handle, submitRequested, h]

/-- Parts of a view in which a refused submission has no say are the same without it, in every
later view. -/
theorem run_without_refusal (events rest : List Event) {source : String}
    (h : Text.isBlank source = true) :
    let refused := View.run {} (events ++ .submitRequested source :: rest)
    let spared := View.run {} (events ++ rest)
    refused.2 = spared.2 ∧ refused.1.submit = spared.1.submit ∧
      ∀ role, refused.1.pane role = spared.1.pane role := by
  have hsubmission : (Event.submitRequested source).submission? = none := by
    simp [submission?, h]
  have hcontrol : (Event.submitRequested source).control? = none := by
    simp [control?, h]
  refine ⟨?_, ?_, fun role => ?_⟩
  · rw [effects_run, effects_run, List.filterMap_append, List.filterMap_append,
      List.filterMap_cons_none hsubmission]
  · have hsame := run_append_of_silent (fun v => (v.submit.enabled, v.submit.label))
      control_handle {} events rest hcontrol
    exact SubmitControl.enabled_injective (congrArg Prod.fst hsame)
  · exact run_append_of_silent (fun v => v.pane role) (fun v e => pane_handle v e role) {} events
      rest rfl

/-- A submission of blanks asks for no effect. Of the view it replaces the notice and takes away
the log, so nothing but the notice changes just if no log was shown. Whatever follows, the effects,
the control and the panes do not tell that it was made. Nor do the notice and the log from the next
event on that has a say in them, and until then no log is shown. -/
theorem refused_submission_frame (events : List Event) {source : String}
    (hblank : ∀ c ∈ source.toList, Text.isBlankChar c = true) :
    let v := (View.run {} events).1
    let next := v.handle (.submitRequested source)
    next = ({ v with log := none, notice := some .emptyInput }, none) ∧
      (next.1 = { v with notice := some .emptyInput } ↔ v.log = none) ∧
      ∀ rest : List Event,
        let refused := View.run {} (events ++ .submitRequested source :: rest)
        let spared := View.run {} (events ++ rest)
        refused.2 = spared.2 ∧ refused.1.submit = spared.1.submit ∧
          (∀ role, refused.1.pane role = spared.1.pane role) ∧
          ((∃ e ∈ rest, e.notice?.isSome) → refused.1.notice = spared.1.notice) ∧
          ((∃ e ∈ rest, e.log?.isSome) → refused.1.log = spared.1.log) ∧
          ((∀ e ∈ rest, e.log? = none) → refused.1.log = none) := by
  intro v next
  have hsource : Text.isBlank source = true := List.all_eq_true.mpr hblank
  have hnext : next = ({ v with log := none, notice := some .emptyInput }, none) :=
    handle_of_blank hsource v
  refine ⟨hnext, ?_, fun rest => ?_⟩
  · rw [hnext, View.mk.injEq]
    simp [eq_comm]
  · obtain ⟨heffects, hsubmit, hpanes⟩ := run_without_refusal events rest hsource
    exact ⟨heffects, hsubmit, hpanes, run_append_of_later notice notice_handle {} events rest,
      run_append_of_later log log_handle {} events rest,
      run_append_of_decided log log_handle {} events rest rfl⟩

def loggedFailure : List Event :=
  [.submitRequested "a", .replyReceived (.ok { original := .object [], log := some "done" }),
    .renderFailed .minimized "full"]

theorem loggedFailure_refused :
    let v := (View.run {} loggedFailure).1
    let spared := View.run {} (loggedFailure ++ [.submitRequested "b"])
    let refused :=
      View.run {} (loggedFailure ++ [.submitRequested "\u2003\n", .submitRequested "b"])
    v.handle (.submitRequested "\u2003\n") =
        ({ v with log := none, notice := some .emptyInput }, none) ∧
      (v.handle (.submitRequested "\u2003\n")).1 ≠ { v with notice := some .emptyInput } ∧
      refused.2 = spared.2 ∧ refused.1.submit = spared.1.submit ∧
      refused.1.notice = spared.1.notice ∧ refused.1.log = spared.1.log := by
  intro v spared refused
  have hblank : ∀ c ∈ "\u2003\n".toList, Text.isBlankChar c = true := List.all_eq_true.mp rfl
  obtain ⟨hnext, hsame, hrest⟩ := refused_submission_frame loggedFailure hblank
  obtain ⟨heffects, hsubmit, -, hnotice, hlog, -⟩ := hrest [.submitRequested "b"]
  have hshown : v.log ≠ none := by decide
  exact ⟨hnext, fun h => hshown (hsame.mp h), heffects, hsubmit, hnotice (by decide),
    hlog (by decide)⟩

/-- A log that was shown is gone when a submission is refused. -/
theorem refused_submission_hides_log :
    ¬∀ (events : List Event) (source : String), (∀ c ∈ source.toList, Text.isBlankChar c = true) →
      let v := (View.run {} events).1
      v.handle (.submitRequested source) = ({ v with notice := some .emptyInput }, none) := by
  intro h
  have hkept := h loggedFailure " " (List.all_eq_true.mp rfl)
  revert hkept
  decide

end View
end AutomatonChart
