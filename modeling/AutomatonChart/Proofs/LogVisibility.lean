import AutomatonChart.Proofs.Classification
import AutomatonChart.Proofs.History

/-! # When the log is shown

A submission hides the log, and only an accepted reply brings one back. A reply that was read from a
body never has an empty log, and while the control waits for an answer no log is shown. Every event
keeps this, however submissions, late answers and failed renderings overlap.
-/
namespace AutomatonChart

namespace Event

def reply? : Event → Option Reply
  | .replyReceived (.ok reply) => some reply
  | .replyReceived (.error _) => none
  | .submitRequested _ => none
  | .renderFailed .. => none

/-- If the event brings a reply, that was read from what the service sent. -/
def IsGenuine (e : Event) : Prop :=
  ∀ reply, e.reply? = some reply → ∃ status body, Reply.ofJson status body = .ok reply

def lastReply (events : List Event) : Option Reply := (events.filterMap reply?).getLast?

theorem lastReply_cons (e : Event) (rest : List Event) :
    lastReply (e :: rest) = (lastReply rest).or e.reply? := by
  cases h : e.reply? with
  | none => simp only [lastReply, List.filterMap_cons_none h, Option.or_none]
  | some reply =>
    rw [lastReply, lastReply, List.filterMap_cons_some h, List.getLast?_cons]
    cases (rest.filterMap reply?).getLast? <;> rfl

end Event

namespace View
open Event

/-- A log that is shown is a text of the last reply, and none is shown while the control waits. -/
structure LogAgrees (last : Option Reply) (v : View) : Prop where
  shown : ∀ log, v.log = some log → log ≠ "" ∧ ∃ reply, last = some reply ∧ reply.log = some log
  hidden : v.submit.enabled = false → v.log = none

variable {last : Option Reply} {v : View}

theorem LogAgrees.of_hidden (h : v.log = none) : LogAgrees last v where
  shown := by
    intro log hlog
    rw [h] at hlog
    cases hlog
  hidden := fun _ => h

theorem LogAgrees.handle (h : LogAgrees last v) {e : Event} (he : e.IsGenuine) :
    LogAgrees (e.reply?.or last) (v.handle e).1 := by
  have hlog := log_handle v e
  cases e with
  | submitRequested source => exact .of_hidden hlog
  | replyReceived result =>
    have hready : (v.handle (.replyReceived result)).1.submit.enabled = true := by
      cases result <;> rfl
    refine ⟨?_, ?_⟩
    · rw [hlog]
      cases result with
      | error e => exact h.shown
      | ok reply =>
        intro log hshown
        obtain ⟨status, body, hreply⟩ := he reply rfl
        obtain ⟨-, -, -, rfl⟩ := Reply.ofJson_eq_ok.mp hreply
        exact ⟨(Reply.logMember_eq_some.mp hshown).2, _, rfl, hshown⟩
    · intro hwaits
      rw [hready] at hwaits
      cases hwaits
  | renderFailed role message =>
    have hsubmit : (v.handle (.renderFailed role message)).1.submit = v.submit := by
      cases role <;> rfl
    refine ⟨?_, ?_⟩
    · rw [hlog]
      exact h.shown
    · rw [hlog, hsubmit]
      exact h.hidden

theorem LogAgrees.run (h : LogAgrees last v) {events : List Event}
    (hevents : ∀ e ∈ events, e.IsGenuine) :
    LogAgrees ((lastReply events).or last) (v.run events).1 := by
  induction events generalizing v last with
  | nil => exact h
  | cons e rest ih =>
    obtain ⟨he, hrest⟩ := List.forall_mem_cons.mp hevents
    rw [lastReply_cons, Option.or_assoc]
    exact ih (h.handle he) hrest

/-- After any events of which the replies were read from what the service sent, the log is hidden
or it is a text of the last reply that is not empty, and it is hidden while the control is disabled.
It is hidden by a submission only: what follows a reply besides submissions and further replies
leaves its log. -/
theorem log_of_last_reply (events : List Event) (hevents : ∀ e ∈ events, e.IsGenuine) :
    let v := (View.run {} events).1
    (v.log = none ∨ ∃ log reply, v.log = some log ∧ log ≠ "" ∧
      lastReply events = some reply ∧ reply.log = some log) ∧
    (v.submit.enabled = false → v.log = none) ∧
    ∀ front reply rest, events = front ++ .replyReceived (.ok reply) :: rest →
      (∀ e ∈ rest, e.log? = none) → v.log = reply.log := by
  intro v
  have hagrees : LogAgrees ((lastReply events).or none) v :=
    LogAgrees.run (.of_hidden rfl) hevents
  rw [Option.or_none] at hagrees
  refine ⟨?_, hagrees.hidden, ?_⟩
  · cases hlog : v.log with
    | none => exact .inl rfl
    | some log =>
      obtain ⟨hne, reply, hlast, hreply⟩ := hagrees.shown log hlog
      exact .inr ⟨log, reply, rfl, hne, hlast, hreply⟩
  · rintro front reply rest rfl hrest
    have hlatest : v.log = latest log? none (front ++ .replyReceived (.ok reply) :: rest) :=
      latest_run log log_handle {} _
    have hquiet : rest.filterMap log? = [] := List.filterMap_eq_nil_iff.mpr hrest
    have hverdict : (Event.replyReceived (.ok reply)).log? = some reply.log := rfl
    rw [hlatest, latest, List.filterMap_append, List.filterMap_cons_some hverdict, hquiet,
      List.getLast?_concat, Option.getD_some]

def logged : Reply := { log := some "done" }

/-- Two submissions that overlap; the second answer comes late and the drawing fails. -/
def overlapping : List Event :=
  [.submitRequested "a", .submitRequested "b", .replyReceived (.ok logged),
    .replyReceived (.error (.rejected 500 "late")), .renderFailed .original "full"]

theorem isGenuine_overlapping : ∀ e ∈ overlapping, e.IsGenuine := by
  intro e he reply hreply
  have hlogged : reply = logged := by
    simp only [overlapping, List.mem_cons, List.not_mem_nil, or_false] at he
    rcases he with rfl | rfl | rfl | rfl | rfl <;> cases hreply
    rfl
  rw [hlogged]
  exact ⟨200, .object [("log", .string "done")], rfl⟩

theorem log_of_overlapping :
    (View.run {} overlapping).1.log = some "done" ∧ lastReply overlapping = some logged := by
  obtain ⟨-, -, hlog⟩ := log_of_last_reply overlapping isGenuine_overlapping
  exact ⟨hlog [.submitRequested "a", .submitRequested "b"] logged _ rfl (by decide), rfl⟩

end View
end AutomatonChart
