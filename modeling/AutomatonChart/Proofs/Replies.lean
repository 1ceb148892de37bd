import Mathlib.Logic.Basic
import AutomatonChart.Service.Reply

/-! # Which replies are accepted

A body is accepted if its status tells success, it is an object and it spells the minimized
automaton in one way at most. What is read from it then does not depend on the status.
-/
namespace AutomatonChart.Reply

/-- The minimized automaton stands there under both of its names. -/
def IsAmbiguous (body : Json) : Prop :=
  (body.member? "minimized").isSome ∧ (body.member? "minimizado").isSome

instance (body : Json) : Decidable (IsAmbiguous body) := inferInstanceAs (Decidable (_ ∧ _))

theorem isSuccess_iff {status : Nat} : isSuccess status = true ↔ 200 ≤ status ∧ status ≤ 299 := by
  rw [isSuccess, Bool.and_eq_true, decide_eq_true_eq, decide_eq_true_eq]
  omega

def ofMembers (body : Json) : Reply where
  original := (body.member? "original").getD .null
  minimized := ((body.member? "minimized").or (body.member? "minimizado")).getD .null
  log := logMember body

theorem ofJson_of_not_ambiguous {status : Nat} {body : Json} (hs : 200 ≤ status ∧ status ≤ 299)
    (ho : body.isObject = true) (ha : ¬IsAmbiguous body) :
    ofJson status body = .ok (ofMembers body) := by
  have hmember : minimizedMember body = .ok (ofMembers body).minimized := by
    cases hm : body.member? "minimized" <;> cases hz : body.member? "minimizado" <;>
      simp_all [minimizedMember, ofMembers, IsAmbiguous]
  simp only [ofJson, isSuccess_iff.mpr hs, ho, hmember, Bool.not_true, Bool.false_eq_true, if_false]
  rfl

theorem ofJson_of_ambiguous {status : Nat} {body : Json} (hs : 200 ≤ status ∧ status ≤ 299)
    (ho : body.isObject = true) (ha : IsAmbiguous body) :
    ofJson status body =
      .error (.malformedReply (ShapeError.duplicateField "minimized").message) := by
  obtain ⟨m, hm⟩ := Option.isSome_iff_exists.mp ha.1
  obtain ⟨z, hz⟩ := Option.isSome_iff_exists.mp ha.2
  simp only [ofJson, isSuccess_iff.mpr hs, ho, minimizedMember, hm, hz, Bool.not_true,
    Bool.false_eq_true, if_false]
  rfl

theorem ofJson_eq_ok {status : Nat} {body : Json} {reply : Reply} :
    ofJson status body = .ok reply ↔ (200 ≤ status ∧ status ≤ 299) ∧ body.isObject = true ∧
      ¬IsAmbiguous body ∧ reply = ofMembers body := by
  constructor
  · intro h
    cases hs : isSuccess status with
    | false => simp [ofJson, hs] at h
    | true =>
      cases ho : body.isObject with
      | false => simp [ofJson, hs, ho] at h
      | true =>
        have hstatus := isSuccess_iff.mp hs
        by_cases ha : IsAmbiguous body
        · rw [ofJson_of_ambiguous hstatus ho ha] at h
          cases h
        · rw [ofJson_of_not_ambiguous hstatus ho ha] at h
          exact ⟨hstatus, rfl, ha, (Except.ok.inj h).symm⟩
  · rintro ⟨hs, ho, ha, rfl⟩
    exact ofJson_of_not_ambiguous hs ho ha

theorem ofBody_eq_ok {status : Nat} {text : String} {reply : Reply} :
    ofBody status text = .ok reply ↔
      ∃ body, Json.parse text = .ok body ∧ ofJson status body = .ok reply := by
  unfold ofBody
  cases Json.parse text <;> simp

end AutomatonChart.Reply
