import Mathlib.Data.List.Basic
import AutomatonChart.Session.Event

/-! # A view told by its events

Each part of a view is decided by the last event that has a say in it, whatever came before or in
between: a submission and a reply settle the submit control, a reply and a failed rendering settle
a pane. So a view is known from the events alone, without running through them, and the effects
are the submissions that were not blank.
-/
namespace AutomatonChart

namespace Event

def submission? : Event → Option String
  | .submitRequested source => if Text.isBlank source then none else some source
  | .replyReceived _ => none
  | .renderFailed .. => none

def control? : Event → Option (Bool × String)
  | .submitRequested source =>
    if Text.isBlank source then none else some (false, "Minimizing...")
  | .replyReceived _ => some (true, "Minimize")
  | .renderFailed .. => none

def log? : Event → Option (Option String)
  | .submitRequested _ => some none
  | .replyReceived (.ok reply) => some reply.log
  | .replyReceived (.error _) => none
  | .renderFailed .. => none

def pane? (role : Role) : Event → Option Pane
  | .submitRequested _ => none
  | .replyReceived (.ok reply) =>
    some (match Description.ofJson (reply.describing role) with
      | .ok d => .diagram d.flowchart
      | .error e => .failed e.message)
  | .replyReceived (.error _) => none
  | .renderFailed other message => if other = role then some (.failed message) else none

/-- The notice, or that there is nothing to be noticed. A service that cannot be reached and one
whose answer cannot be read are told apart from one that refuses. -/
def notice? : Event → Option (Option Notice)
  | .submitRequested source => some (if Text.isBlank source then some .emptyInput else none)
  | .replyReceived (.ok _) => some none
  | .replyReceived (.error (.unreachable url reason)) =>
    some (some (.unreachable (some url) reason))
  | .replyReceived (.error (.malformedReply detail)) =>
    some (some (.unreachable none ("malformed response: " ++ detail)))
  | .replyReceived (.error (.rejected _ detail)) => some (some (.service detail))
  | .replyReceived (.error (.configuration detail)) =>
    some (some (.service ("config parse failed: " ++ detail)))
  | .replyReceived (.error (.clientSetup detail)) =>
    some (some (.service ("HTTP client build failed: " ++ detail)))
  | .renderFailed .. => none

/-- The verdict of the last event that has one; without such an event, what held before. -/
def latest {α : Type} (verdict : Event → Option α) (before : α) (events : List Event) : α :=
  (events.filterMap verdict).getLast?.getD before

theorem latest_cons {α : Type} (verdict : Event → Option α) (before : α) (e : Event)
    (rest : List Event) :
    latest verdict before (e :: rest) = latest verdict ((verdict e).getD before) rest := by
  cases h : verdict e with
  | none => simp only [latest, List.filterMap_cons_none h, Option.getD_none]
  | some a =>
    rw [latest, latest, List.filterMap_cons_some h, List.getLast?_cons, Option.getD_some,
      Option.getD_some]

end Event

namespace View
open Event

section Step
variable (v : View) (e : Event)

theorem effect_handle : (v.handle e).2 = e.submission?.map Effect.submit := by
  cases e with
  | submitRequested source =>
    cases h : Text.isBlank source <;> simp [handle, submitRequested, submission?, h]
  | replyReceived result => rfl
  | renderFailed role message => rfl

theorem control_handle :
    ((v.handle e).1.submit.enabled, (v.handle e).1.submit.label) =
      e.control?.getD (v.submit.enabled, v.submit.label) := by
  cases e with
  | submitRequested source =>
    cases h : Text.isBlank source <;>
      simp [handle, submitRequested, control?, h, SubmitControl.enabled, SubmitControl.label]
  | replyReceived result => cases result <;> rfl
  | renderFailed role message => cases role <;> rfl

theorem log_handle : (v.handle e).1.log = e.log?.getD v.log := by
  cases e with
  | submitRequested source =>
    cases h : Text.isBlank source <;> simp [handle, submitRequested, log?, h]
  | replyReceived result => cases result <;> rfl
  | renderFailed role message => cases role <;> rfl

theorem pane_handle (role : Role) :
    (v.handle e).1.pane role = (e.pane? role).getD (v.pane role) := by
  cases e with
  | submitRequested source =>
    cases h : Text.isBlank source <;> cases role <;>
      simp [handle, submitRequested, pane?, pane, h]
  | replyReceived result => cases result <;> cases role <;> rfl
  | renderFailed other message => cases other <;> cases role <;> rfl

theorem notice_handle : (v.handle e).1.notice = e.notice?.getD v.notice := by
  cases e with
  | submitRequested source =>
    cases h : Text.isBlank source <;> simp [handle, submitRequested, notice?, h]
  | replyReceived result =>
    cases result with
    | ok reply => rfl
    | error error => cases error <;> rfl
  | renderFailed role message => cases role <;> rfl

end Step

/-- What every step leaves to the event that was handled, a run leaves to the last one. -/
theorem latest_run {α : Type} (part : View → α) {verdict : Event → Option α}
    (hstep : ∀ (v : View) (e : Event), part (v.handle e).1 = (verdict e).getD (part v)) (v : View)
    (events : List Event) : part (v.run events).1 = latest verdict (part v) events := by
  induction events generalizing v with
  | nil => rfl
  | cons e rest ih =>
    calc
      part (v.run (e :: rest)).1 = part ((v.handle e).1.run rest).1 := rfl
      _ = latest verdict (part (v.handle e).1) rest := ih _
      _ = latest verdict (part v) (e :: rest) := by rw [hstep, latest_cons]

theorem effects_run (v : View) (events : List Event) :
    (v.run events).2 = (events.filterMap submission?).map Effect.submit := by
  induction events generalizing v with
  | nil => rfl
  | cons e rest ih =>
    have hrun : (v.run (e :: rest)).2 = (v.handle e).2.toList ++ ((v.handle e).1.run rest).2 := rfl
    rw [hrun, ih, effect_handle]
    cases h : e.submission? with
    | none => simp [List.filterMap_cons_none h]
    | some source => simp [List.filterMap_cons_some h]

/-- A view and the effects on the way to it, told by the events in any order: each submission that
is not blank asks for an effect of its own, and every part of the view is what the last event that
has a say in it makes of it. -/
theorem run_told_by_events (events : List Event) :
    let v := (View.run {} events).1
    (View.run {} events).2 = (events.filterMap submission?).map Effect.submit ∧
      (v.submit.enabled, v.submit.label) = latest control? (true, "Minimize") events ∧
      v.notice = latest notice? none events ∧
      (∀ role, v.pane role = latest (pane? role) .empty events) ∧
      v.log = latest log? none events := by
  refine ⟨effects_run {} events, ?_, latest_run notice notice_handle {} events, ?_,
    latest_run log log_handle {} events⟩
  · exact latest_run (fun v => (v.submit.enabled, v.submit.label)) control_handle {} events
  · intro role
    have hpane := latest_run (fun v => v.pane role) (fun v e => pane_handle v e role) {} events
    cases role <;> exact hpane

/-- A late answer enables the control although another submission is still pending. -/
example :
    View.run {}
        [.submitRequested "a", .submitRequested "b", .replyReceived (.error (.rejected 400 "no")),
          .renderFailed .minimized "full"] =
      ({ minimized := .failed "full", notice := some (.service "no") },
        [.submit "a", .submit "b"]) := by
  decide

end View
end AutomatonChart
