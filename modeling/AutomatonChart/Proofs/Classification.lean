import AutomatonChart.Proofs.Replies
import AutomatonChart.Proofs.WellKeyed

/-! # How replies are sorted

What a reply amounts to is decided by its status and by a few members of its body. A body that is no
JSON is malformed under every status. Otherwise a failing status carries the body's `error` member,
and a status of success needs an object that names the minimized automaton at most once. The order
of the members and all others of them do not matter.
-/
namespace AutomatonChart

section Entries
variable {κ α : Type} [DecidableEq κ] {key : κ} {entries entries' : List (κ × α)}

theorem lookup_eq_some_iff_mem (h : (entries.map Prod.fst).Nodup) {value : α} :
    entries.lookup key = some value ↔ (key, value) ∈ entries := by
  induction entries with
  | nil => simp
  | cons e rest ih =>
    obtain ⟨k, a⟩ := e
    rw [List.map_cons, List.nodup_cons] at h
    obtain ⟨hk, hrest⟩ := h
    by_cases hkey : key = k
    · subst hkey
      have hnone : (key, value) ∉ rest := by
        intro hm
        exact hk (List.mem_map.mpr ⟨_, hm, rfl⟩)
      simp [List.lookup_cons_self, hnone, eq_comm]
    · have hb : (key == k) = false := beq_eq_false_iff_ne.mpr hkey
      simp [List.lookup_cons, hb, hkey, ih hrest]

theorem lookup_filter_key {p : κ → Bool} (hp : p key = true) :
    (entries.filter fun e => p e.1).lookup key = entries.lookup key := by
  induction entries with
  | nil => rfl
  | cons e rest ih =>
    obtain ⟨k, a⟩ := e
    rw [List.filter_cons, List.lookup_cons]
    by_cases hk : p k = true
    · rw [if_pos hk, List.lookup_cons, ih]
    · have hkey : (key == k) = false := by
        rw [beq_eq_false_iff_ne]
        rintro rfl
        exact hk hp
      rw [if_neg hk, hkey, ih]

theorem lookup_of_perm (h : (entries.map Prod.fst).Nodup) (hperm : entries.Perm entries') :
    entries.lookup key = entries'.lookup key := by
  have h' : (entries'.map Prod.fst).Nodup := (hperm.map Prod.fst).nodup_iff.mp h
  apply Option.ext
  intro value
  rw [lookup_eq_some_iff_mem h, lookup_eq_some_iff_mem h', hperm.mem_iff]

end Entries

namespace Json

theorem Number.layout_ne_nil (d : Decimal) : Number.layout d ≠ [] := by
  unfold Number.layout
  dsimp only
  split
  · split
    · simp
    · split <;> simp
  · simp

theorem Number.fractionText_ne_empty (x : Float) : Number.fractionText x ≠ "" := by
  have hbody : (if x == 0 then ['0', '.', '0'] else Number.layout (Dyadic.ofFloat x).shortest) ≠
      [] := by
    split
    · simp
    · exact Number.layout_ne_nil _
  intro h
  have hlist := congrArg String.toList h
  simp only [Number.fractionText, String.toList_ofList] at hlist
  split at hlist
  · exact absurd hlist (List.cons_ne_nil _ _)
  · exact hbody hlist

theorem Number.text_ne_empty (n : Number) : n.text ≠ "" := by
  cases n with
  | integer i =>
    simp only [Number.text, Int.toString_eq_repr, Int.repr_eq_if]
    split
    · exact Nat.repr_ne_empty
    · simp
  | fraction x => exact Number.fractionText_ne_empty x

theorem compact_ne_empty (v : Json) : v.compact ≠ "" := by
  cases v with
  | number n => rw [compact]; exact n.text_ne_empty
  | bool b => cases b <;> simp [compact]
  | _ => simp [compact, quote]

/-- True, a number, a list or an object. -/
def IsTelling (v : Json) : Prop :=
  v = .bool true ∨ (∃ n, v = .number n) ∨ (∃ vs, v = .array vs) ∨ ∃ ms, v = .object ms

/-- Null, false or the empty text. -/
def IsSilent (v : Json) : Prop := v = .null ∨ v = .bool false ∨ v = .string ""

end Json

namespace Reply
variable {status : Nat} {body v : Json}

theorem errorDetail_of_text {s : String} (h : body.member? "error" = some (.string s))
    (hs : s ≠ "") : errorDetail body = s := by
  simp [errorDetail, h, hs]

theorem errorDetail_of_telling (h : body.member? "error" = some v) (hv : v.IsTelling) :
    errorDetail body = v.compact := by
  rcases hv with rfl | ⟨n, rfl⟩ | ⟨vs, rfl⟩ | ⟨ms, rfl⟩ <;> simp only [errorDetail, h]

theorem errorDetail_of_silent (h : ∀ v, body.member? "error" = some v → v.IsSilent) :
    errorDetail body = "unknown error" := by
  unfold errorDetail
  cases hv : body.member? "error" with
  | none => rfl
  | some v => rcases h v hv with rfl | rfl | rfl <;> rfl

theorem errorDetail_ne_empty (body : Json) : errorDetail body ≠ "" := by
  have hunknown : unknownError ≠ "" := by decide
  unfold errorDetail
  split
  · exact hunknown
  · exact hunknown
  · exact hunknown
  · split
    · exact hunknown
    · rename_i s hs
      simpa using hs
  · exact Json.compact_ne_empty _

theorem logMember_eq_some {log : String} :
    logMember body = some log ↔ body.member? "log" = some (.string log) ∧ log ≠ "" := by
  unfold logMember
  cases hm : body.member? "log" with
  | none => simp
  | some v =>
    cases v with
    | string s =>
      simp only [Option.bind_some, Json.string?, Option.filter_eq_some_iff, Option.some.injEq,
        Json.string.injEq, Bool.not_eq_true', String.isEmpty_eq_false_iff]
    | _ => simp [Json.string?]

theorem ofJson_of_failure (hs : ¬(200 ≤ status ∧ status ≤ 299)) :
    ofJson status body = .error (.rejected status (errorDetail body)) := by
  have hfailure : isSuccess status = false := by
    rw [Bool.eq_false_iff]
    intro h
    exact hs (isSuccess_iff.mp h)
  simp only [ofJson, hfailure, Bool.not_false, if_true]

theorem ofJson_of_not_object (hs : 200 ≤ status ∧ status ≤ 299) (ho : body.isObject = false) :
    ofJson status body = .error (.malformedReply "expected a JSON object") := by
  simp only [ofJson, isSuccess_iff.mpr hs, ho, Bool.not_true, Bool.not_false, Bool.false_eq_true,
    if_false, if_true]

/-- The members that a body is read for. -/
def readNames (status : Nat) : List String :=
  if isSuccess status then ["original", "minimized", "minimizado", "log"] else ["error"]

theorem ofJson_congr {body' : Json} (ho : body.isObject = body'.isObject)
    (h : ∀ name ∈ readNames status, body.member? name = body'.member? name) :
    ofJson status body = ofJson status body' := by
  unfold readNames at h
  cases hs : isSuccess status with
  | false =>
    simp only [hs, Bool.false_eq_true, if_false, List.forall_mem_singleton] at h
    have hdetail : errorDetail body = errorDetail body' := by simp only [errorDetail, h]
    simp only [ofJson, hs, hdetail, Bool.not_false, if_true]
  | true =>
    simp only [hs, if_true, List.forall_mem_cons] at h
    obtain ⟨horiginal, hminimized, hminimizado, hlog, -⟩ := h
    have hmember : minimizedMember body = minimizedMember body' := by
      simp only [minimizedMember, hminimized, hminimizado]
    have hlogs : logMember body = logMember body' := by
      unfold logMember
      rw [hlog]
    simp only [ofJson, hs, ho, hmember, hlogs, horiginal, Bool.not_true, Bool.false_eq_true,
      if_false]

theorem ofBody_of_parse {text : String} (h : Json.parse text = .ok body) :
    ofBody status text = ofJson status body := by
  rw [ofBody, h]

/-- No reply is refused in any other way. -/
theorem ofBody_eq_error {text : String} {e : ServiceError} (h : ofBody status text = .error e) :
    (∃ detail, e = .malformedReply detail) ∨ ∃ detail, e = .rejected status detail := by
  cases hparse : Json.parse text with
  | error syntaxError =>
    rw [ofBody, hparse] at h
    exact .inl ⟨_, (Except.error.inj h).symm⟩
  | ok body =>
    rw [ofBody_of_parse hparse] at h
    by_cases hs : 200 ≤ status ∧ status ≤ 299
    · cases ho : body.isObject with
      | false =>
        rw [ofJson_of_not_object hs ho] at h
        exact .inl ⟨_, (Except.error.inj h).symm⟩
      | true =>
        by_cases ha : IsAmbiguous body
        · rw [ofJson_of_ambiguous hs ho ha] at h
          exact .inl ⟨_, (Except.error.inj h).symm⟩
        · rw [ofJson_of_not_ambiguous hs ho ha] at h
          cases h
    · rw [ofJson_of_failure hs] at h
      exact .inr ⟨_, (Except.error.inj h).symm⟩

theorem minimized_ofMembers (ha : ¬IsAmbiguous body)
    (h : body.member? "minimized" = some v ∨ body.member? "minimizado" = some v) :
    (ofMembers body).minimized = v := by
  rcases h with h | h
  · simp only [ofMembers, h, Option.some_or, Option.getD_some]
  · have hnone : body.member? "minimized" = none := by
      rw [← Option.not_isSome_iff_eq_none]
      intro hm
      exact ha ⟨hm, by rw [h, Option.isSome_some]⟩
    simp only [ofMembers, hnone, h, Option.none_or, Option.getD_some]

/-- Documents with the same members to read, in any order, make the same reply. -/
theorem ofBody_of_perm {text text' : String} {ms ms' : List (String × Json)}
    (hparse : Json.parse text = .ok (.object ms)) (hparse' : Json.parse text' = .ok (.object ms'))
    (hperm : (ms.filter fun m => m.1 ∈ readNames status).Perm
      (ms'.filter fun m => m.1 ∈ readNames status)) :
    ofBody status text = ofBody status text' := by
  rw [ofBody_of_parse hparse, ofBody_of_parse hparse']
  refine ofJson_congr rfl ?_
  intro name hname
  have hread : ∀ {ms : List (String × Json)},
      (ms.filter fun m => m.1 ∈ readNames status).lookup name = ms.lookup name :=
    lookup_filter_key (p := fun key => decide (key ∈ readNames status)) (decide_eq_true hname)
  have hkeys : ((ms.filter fun m => m.1 ∈ readNames status).map Prod.fst).Nodup :=
    (Json.parse_wellKeyed hparse).keys.sublist (List.filter_sublist.map Prod.fst)
  calc ms.lookup name
      = (ms.filter fun m => m.1 ∈ readNames status).lookup name := hread.symm
    _ = (ms'.filter fun m => m.1 ∈ readNames status).lookup name := lookup_of_perm hkeys hperm
    _ = ms'.lookup name := hread

/-- Every reply is sorted in one of these ways. A body that is no JSON is malformed. Under a failing
status the reply is a rejection, told by the `error` member: by its text if that is not empty, by
its JSON if it is telling, and as unknown if it is silent or missing, but never by nothing. Under a
status of success a body that is no object, or that spells the minimized automaton twice, is
malformed, and any other one is accepted with its members as they are and with its log if that is a
text that is not empty. Only the members that are read matter, in whatever order they stand. -/
theorem body_classified (status : Nat) (text : String) :
    (∀ e, Json.parse text = .error e →
      ofBody status text = .error (.malformedReply e.message)) ∧
    (∀ body, Json.parse text = .ok body → ¬(200 ≤ status ∧ status ≤ 299) →
      ∃ detail, ofBody status text = .error (.rejected status detail) ∧ detail ≠ "" ∧
        (∀ s, body.member? "error" = some (.string s) → s ≠ "" → detail = s) ∧
        (∀ v, body.member? "error" = some v → v.IsTelling → detail = v.compact) ∧
        ((∀ v, body.member? "error" = some v → v.IsSilent) → detail = "unknown error")) ∧
    (∀ body, Json.parse text = .ok body → 200 ≤ status ∧ status ≤ 299 →
      (body.isObject = false ∨ IsAmbiguous body →
        ∃ detail, ofBody status text = .error (.malformedReply detail)) ∧
      (body.isObject = true → ¬IsAmbiguous body → ∃ reply, ofBody status text = .ok reply ∧
        (∀ v, body.member? "original" = some v → reply.original = v) ∧
        (body.member? "original" = none → reply.original = .null) ∧
        (∀ v, body.member? "minimized" = some v ∨ body.member? "minimizado" = some v →
          reply.minimized = v) ∧
        (body.member? "minimized" = none → body.member? "minimizado" = none →
          reply.minimized = .null) ∧
        ∀ log, reply.log = some log ↔ body.member? "log" = some (.string log) ∧ log ≠ "")) ∧
    (∀ e, ofBody status text = .error e →
      (∃ detail, e = .malformedReply detail) ∨ ∃ detail, e = .rejected status detail) ∧
    ∀ (text' : String) (ms ms' : List (String × Json)), Json.parse text = .ok (.object ms) →
      Json.parse text' = .ok (.object ms') →
      (ms.filter fun m => m.1 ∈ readNames status).Perm
        (ms'.filter fun m => m.1 ∈ readNames status) →
      ofBody status text = ofBody status text' := by
  refine ⟨?_, ?_, ?_, ?_, ?_⟩
  · intro e he
    rw [ofBody, he]
  · intro body hparse hs
    rw [ofBody_of_parse hparse, ofJson_of_failure hs]
    refine ⟨errorDetail body, rfl, errorDetail_ne_empty body, ?_, ?_, ?_⟩
    · exact fun s => errorDetail_of_text
    · exact fun v => errorDetail_of_telling
    · exact errorDetail_of_silent
  · intro body hparse hs
    rw [ofBody_of_parse hparse]
    constructor
    · intro h
      cases ho : body.isObject with
      | false => exact ⟨_, ofJson_of_not_object hs ho⟩
      | true =>
        have ha : IsAmbiguous body := h.resolve_left (by simp [ho])
        exact ⟨_, ofJson_of_ambiguous hs ho ha⟩
    · intro ho ha
      refine ⟨ofMembers body, ofJson_of_not_ambiguous hs ho ha, ?_, ?_, ?_, ?_, ?_⟩
      · intro v hv
        simp only [ofMembers, hv, Option.getD_some]
      · intro hnone
        simp only [ofMembers, hnone, Option.getD_none]
      · exact fun v => minimized_ofMembers ha
      · intro hm hz
        simp only [ofMembers, hm, hz, Option.none_or, Option.getD_none]
      · exact fun log => logMember_eq_some
  · exact fun e => ofBody_eq_error
  · exact fun text' ms ms' => ofBody_of_perm

end Reply
end AutomatonChart
