import Mathlib.Data.List.Nodup
import AutomatonChart.Json.Reader

/-! # Documents without repeated keys

In a well-keyed document no object, at any depth, has two members with one key. Every document that
is read from a text is well-keyed, as a member whose key is there already replaces the earlier one.
Which document a text holds is settled by a test.
-/
namespace AutomatonChart

theorem except_bind_eq_ok {ε α β : Type} {x : Except ε α} {f : α → Except ε β} {b : β} :
    x >>= f = .ok b ↔ ∃ a, x = .ok a ∧ f a = .ok b := by
  cases x with
  | error e => exact ⟨nofun, nofun⟩
  | ok a => exact ⟨fun h => ⟨a, rfl, h⟩, fun ⟨_, ha, h⟩ => Except.ok.inj ha ▸ h⟩

theorem mem_upsertEntry {κ α : Type} [DecidableEq κ] {key : κ} {value : α} {e : κ × α}
    {entries : List (κ × α)} (h : e ∈ upsertEntry key (fun _ => value) entries) :
    e = (key, value) ∨ e ∈ entries := by
  induction entries with
  | nil => exact .inl (List.mem_singleton.mp h)
  | cons first rest ih =>
    rw [upsertEntry] at h
    split at h
    · exact (List.mem_cons.mp h).imp_right (List.mem_cons_of_mem first)
    · rcases List.mem_cons.mp h with rfl | h
      · exact .inr List.mem_cons_self
      · exact (ih h).imp_right (List.mem_cons_of_mem first)

namespace Json

/-- No object in the document repeats a key. -/
inductive WellKeyed : Json → Prop
  | null : WellKeyed .null
  | bool (b : Bool) : WellKeyed (.bool b)
  | number (n : Json.Number) : WellKeyed (.number n)
  | string (s : String) : WellKeyed (.string s)
  | array {items : List Json} (h : ∀ v ∈ items, WellKeyed v) : WellKeyed (.array items)
  | object {ms : List (String × Json)} (hkeys : (ms.map Prod.fst).Nodup)
      (h : ∀ m ∈ ms, WellKeyed m.2) : WellKeyed (.object ms)

namespace WellKeyed

theorem keys {ms : List (String × Json)} (h : WellKeyed (.object ms)) :
    (ms.map Prod.fst).Nodup := by
  cases h
  assumption

theorem member {ms : List (String × Json)} (h : WellKeyed (.object ms)) {m : String × Json}
    (hm : m ∈ ms) : m.2.WellKeyed := by
  cases h with
  | object _ hms => exact hms m hm

theorem upsert {ms : List (String × Json)} (h : WellKeyed (.object ms)) {m : String × Json}
    (hm : m.2.WellKeyed) : WellKeyed (.object (upsertEntry m.1 (fun _ => m.2) ms)) := by
  refine .object (nodup_keys_upsertEntry m.1 _ h.keys) ?_
  intro e he
  rcases mem_upsertEntry he with rfl | he
  · exact hm
  · exact h.member he

end WellKeyed

theorem failAhead_ne_ok {α : Type} {cur : Cursor} {fault : Fault} {found : α} :
    cur.failAhead fault ≠ .ok found := by
  unfold Cursor.failAhead
  cases cur.rest <;> exact nofun

section Reader
variable {item : Cursor → Except SyntaxError (Found Json)} {fuel : Nat} {cur stop : Cursor}

/-- A list ends, or another item is read. -/
theorem readItems_step {done items : List Json}
    (h : readItems item (fuel + 1) done cur = .ok (items, stop)) :
    items = done.reverse ∨ ∃ (v : Json) (here behind : Cursor), item here = .ok (v, behind) ∧
      readItems item fuel (v :: done) behind = .ok (items, stop) := by
  simp only [readItems] at h
  split at h
  · exact absurd h failAhead_ne_ok
  · exact .inl (Prod.mk.inj (Except.ok.inj h)).1.symm
  · split at h
    case h_3.isTrue hempty =>
      obtain ⟨⟨v, behind⟩, hv, hrest⟩ := except_bind_eq_ok.mp h
      rw [List.isEmpty_iff.mp hempty]
      exact .inr ⟨v, _, behind, hv, hrest⟩
    case h_3.isFalse =>
      split at h
      · split at h
        · exact absurd h failAhead_ne_ok
        · exact absurd h failAhead_ne_ok
        · obtain ⟨⟨v, behind⟩, hv, hrest⟩ := except_bind_eq_ok.mp h
          exact .inr ⟨v, _, behind, hv, hrest⟩
      · exact absurd h failAhead_ne_ok

theorem readMember_step {m : String × Json} (h : readMember item cur = .ok (m, stop)) :
    ∃ here, item here = .ok (m.2, stop) := by
  obtain ⟨⟨key, behind⟩, -, hrest⟩ := except_bind_eq_ok.mp h
  dsimp only at hrest
  split at hrest
  · exact absurd hrest failAhead_ne_ok
  · obtain ⟨⟨v, behind⟩, hv, hm⟩ := except_bind_eq_ok.mp hrest
    cases hm
    exact ⟨_, hv⟩
  · exact absurd hrest failAhead_ne_ok

theorem readMembers_step {done ms : List (String × Json)}
    (h : readMembers item (fuel + 1) done cur = .ok (ms, stop)) :
    ms = done ∨ ∃ (m : String × Json) (here behind : Cursor), item here = .ok (m.2, behind) ∧
      readMembers item fuel (upsertEntry m.1 (fun _ => m.2) done) behind = .ok (ms, stop) := by
  simp only [readMembers] at h
  split at h
  · exact absurd h failAhead_ne_ok
  · exact .inl (Prod.mk.inj (Except.ok.inj h)).1.symm
  · split at h
    case h_3.isTrue hempty =>
      split at h
      · obtain ⟨⟨m, behind⟩, hm, hrest⟩ := except_bind_eq_ok.mp h
        obtain ⟨here, hv⟩ := readMember_step hm
        rw [List.isEmpty_iff.mp hempty]
        exact .inr ⟨m, here, behind, hv, hrest⟩
      · exact absurd h failAhead_ne_ok
    case h_3.isFalse =>
      split at h
      · split at h
        · exact absurd h failAhead_ne_ok
        · obtain ⟨⟨m, behind⟩, hm, hrest⟩ := except_bind_eq_ok.mp h
          obtain ⟨here, hv⟩ := readMember_step hm
          exact .inr ⟨m, here, behind, hv, hrest⟩
        · exact absurd h failAhead_ne_ok
        · exact absurd h failAhead_ne_ok
      · exact absurd h failAhead_ne_ok

def ReadsWellKeyed (item : Cursor → Except SyntaxError (Found Json)) : Prop :=
  ∀ {cur stop v}, item cur = .ok (v, stop) → v.WellKeyed

variable (hitem : ReadsWellKeyed item)
include hitem

theorem readItems_wellKeyed {done items : List Json} (hdone : ∀ v ∈ done, v.WellKeyed)
    (h : readItems item fuel done cur = .ok (items, stop)) : ∀ v ∈ items, v.WellKeyed := by
  induction fuel generalizing done cur with
  | zero => exact absurd h failAhead_ne_ok
  | succ fuel ih =>
    rcases readItems_step h with rfl | ⟨v, here, behind, hv, hrest⟩
    · exact fun v hv => hdone v (List.mem_reverse.mp hv)
    · exact ih (List.forall_mem_cons.mpr ⟨hitem hv, hdone⟩) hrest

theorem readMembers_wellKeyed {done ms : List (String × Json)} (hdone : WellKeyed (.object done))
    (h : readMembers item fuel done cur = .ok (ms, stop)) : WellKeyed (.object ms) := by
  -- On the fuel: what has been read so far is well-keyed wherever the reader stands.
  induction fuel generalizing done cur with
  | zero => exact absurd h failAhead_ne_ok
  | succ fuel ih =>
    rcases readMembers_step h with rfl | ⟨m, here, behind, hv, hrest⟩
    · exact hdone
    · exact ih (hdone.upsert (hitem hv)) hrest

end Reader

theorem readWord_ok {α : Type} {value found : α} {word : List Char} {cur stop : Cursor}
    (h : readWord value word cur = .ok (found, stop)) : found = value := by
  induction word generalizing cur with
  | nil => exact (Prod.mk.inj (Except.ok.inj h)).1.symm
  | cons c cs ih =>
    rw [readWord] at h
    split at h
    · cases h
    · split at h
      · exact ih h
      · exact absurd h failAhead_ne_ok

theorem readValueWith_wellKeyed {nested : Option (Cursor → Except SyntaxError (Found Json))}
    (hnested : ∀ item, nested = some item → ReadsWellKeyed item) :
    ReadsWellKeyed (readValueWith nested) := by
  intro cur stop v h
  unfold readValueWith at h
  split at h
  case h_1 => exact absurd h failAhead_ne_ok
  case h_2 => exact readWord_ok h ▸ .null
  case h_3 => exact readWord_ok h ▸ .bool true
  case h_4 => exact readWord_ok h ▸ .bool false
  case h_5 =>
    obtain ⟨⟨s, behind⟩, -, hs⟩ := except_bind_eq_ok.mp h
    cases hs
    exact .string s
  case h_6 =>
    obtain ⟨⟨n, behind⟩, -, hn⟩ := except_bind_eq_ok.mp h
    cases hn
    exact .number n
  case h_7 =>
    split at h
    · exact absurd h failAhead_ne_ok
    · rename_i item
      obtain ⟨⟨items, behind⟩, hitems, hv⟩ := except_bind_eq_ok.mp h
      cases hv
      exact .array (readItems_wellKeyed (hnested item rfl) (by simp) hitems)
  case h_8 =>
    split at h
    · exact absurd h failAhead_ne_ok
    · rename_i item
      obtain ⟨⟨ms, behind⟩, hms, hv⟩ := except_bind_eq_ok.mp h
      cases hv
      have hempty : WellKeyed (.object []) := .object List.nodup_nil nofun
      exact readMembers_wellKeyed (hnested item rfl) hempty hms
  case h_9 =>
    split at h
    · obtain ⟨⟨n, behind⟩, -, hn⟩ := except_bind_eq_ok.mp h
      cases hn
      exact .number n
    · exact absurd h failAhead_ne_ok

theorem readValue_wellKeyed (depth : Nat) : ReadsWellKeyed (readValue depth) := by
  induction depth with
  | zero =>
    refine readValueWith_wellKeyed fun item h => ?_
    cases h
  | succ depth ih =>
    refine readValueWith_wellKeyed fun item h => ?_
    exact Option.some.inj h ▸ ih

/-- No text makes a document with a repeated key. -/
theorem parse_wellKeyed {text : String} {v : Json} (h : parse text = .ok v) : v.WellKeyed := by
  obtain ⟨⟨found, stop⟩, hfound, hv⟩ := except_bind_eq_ok.mp h
  dsimp only at hv
  split at hv
  · exact Except.ok.inj hv ▸ readValue_wellKeyed depthLimit hfound
  · exact absurd hv failAhead_ne_ok

section Same

mutual

/-- Whether two values are seen to be the same. No fraction is seen to be the same as any. -/
def same : Json → Json → Bool
  | .null, .null => true
  | .bool a, .bool b => a == b
  | .number (.integer a), .number (.integer b) => a == b
  | .string a, .string b => a == b
  | .array vs, .array ws => sameItems vs ws
  | .object ms, .object ns => sameMembers ms ns
  | _, _ => false

def sameItems : List Json → List Json → Bool
  | [], [] => true
  | v :: vs, w :: ws => same v w && sameItems vs ws
  | _, _ => false

def sameMembers : List (String × Json) → List (String × Json) → Bool
  | [], [] => true
  | (k, v) :: ms, (l, w) :: ns => k == l && same v w && sameMembers ms ns
  | _, _ => false

end

mutual

theorem eq_of_same : ∀ {v w : Json}, same v w = true → v = w
  | .null, .null, _ => rfl
  | .bool a, .bool b, h => by rw [eq_of_beq h]
  | .number (.integer a), .number (.integer b), h => by rw [eq_of_beq h]
  | .string a, .string b, h => by rw [eq_of_beq h]
  | .array vs, .array ws, h => by rw [eq_of_sameItems h]
  | .object ms, .object ns, h => by rw [eq_of_sameMembers h]

theorem eq_of_sameItems : ∀ {vs ws : List Json}, sameItems vs ws = true → vs = ws
  | [], [], _ => rfl
  | v :: vs, w :: ws, h => by
    obtain ⟨hv, hvs⟩ := (Bool.and_eq_true _ _).mp h
    rw [eq_of_same hv, eq_of_sameItems hvs]

theorem eq_of_sameMembers :
    ∀ {ms ns : List (String × Json)}, sameMembers ms ns = true → ms = ns
  | [], [], _ => rfl
  | (k, v) :: ms, (l, w) :: ns, h => by
    obtain ⟨hkv, hms⟩ := (Bool.and_eq_true _ _).mp h
    obtain ⟨hk, hv⟩ := (Bool.and_eq_true _ _).mp hkv
    rw [eq_of_beq hk, eq_of_same hv, eq_of_sameMembers hms]

end

def holds (text : String) (v : Json) : Bool :=
  match parse text with
  | .ok found => same found v
  | .error _ => false

theorem parse_of_holds {text : String} {v : Json} (h : holds text v = true) :
    parse text = .ok v := by
  unfold holds at h
  cases hfound : parse text with
  | ok found =>
    rw [hfound] at h
    rw [eq_of_same h]
  | error e =>
    rw [hfound] at h
    cases h

end Same
end Json
end AutomatonChart
