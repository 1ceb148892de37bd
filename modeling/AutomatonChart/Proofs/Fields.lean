import Mathlib.Data.List.Pairwise
import Mathlib.Logic.Function.Basic
import AutomatonChart.Automaton.Decoding
import AutomatonChart.Proofs.WellKeyed

/-! # What the fields of a description are read from

The members of an object are read one after the other, but what comes of them depends only on the
value that each field has under the one or the other of its spellings. An object is a description
unless a field has two values or stands in the wrong container.
-/
namespace AutomatonChart

section Outcomes
variable {ε ε' α β : Type} {x : Except ε α}

theorem except_map_eq_ok {f : α → β} {b : β} : x.map f = .ok b ↔ ∃ a, x = .ok a ∧ b = f a := by
  cases x <;> simp [Except.map, eq_comm]

theorem except_mapError_eq_ok {f : ε → ε'} {a : α} : x.mapError f = .ok a ↔ x = .ok a := by
  cases x <;> simp [Except.mapError]

theorem except_mapError_eq_error {f : ε → ε'} {e : ε'} :
    x.mapError f = .error e ↔ ∃ s, x = .error s ∧ e = f s := by
  cases x <;> simp [Except.mapError, eq_comm]

end Outcomes

namespace Json

def items : Json → List Json
  | .array vs => vs
  | _ => []

def strings (v : Json) : List String := v.items.filterMap string?

/-- The members of which the value is a string. -/
def stringMembers (v : Json) : List (String × String) :=
  v.members.filterMap fun m => m.2.string?.map (m.1, ·)

end Json

namespace Field

theorem ofKey?_eq_some {key : String} {f : Field} :
    ofKey? key = some f ↔ key = f.name ∨ key = f.otherName := by
  constructor
  · intro h
    simpa using List.find?_some h
  · rintro (rfl | rfl) <;> cases f <;> decide

/-- The values that a field may have. -/
def Takes : Field → Json → Prop
  | .states, v | .accepting, v => v = .null ∨ ∃ vs, v = .array vs
  | .start, _ => True
  | .transitions, v => v = .null ∨ ∃ ms, v = .object ms

end Field

namespace Decoding

theorem labels_eq_ok {v : Json} {found : List String} :
    labels v = .ok found ↔ (v = .null ∨ ∃ vs, v = .array vs) ∧ found = v.strings := by
  cases v <;> simp [labels, Json.strings, Json.items, eq_comm]

theorem targets_eq_ok {v : Json} {found : List (String × String)} :
    targets v = .ok found ↔ (v = .null ∨ ∃ ms, v = .object ms) ∧ found = v.stringMembers := by
  cases v <;> simp [targets, Json.stringMembers, Json.members, eq_comm]

namespace Draft

/-- The draft in which the fields have these values; a field without one has not been met. -/
def ofValues (value? : Field → Option Json) : Draft where
  states := (value? .states).map Json.strings
  accepting := (value? .accepting).map fun v => .ofList v.strings
  start := (value? .start).map Json.string?
  transitions := (value? .transitions).map fun v => .ofList v.stringMembers

theorem empty_eq_ofValues : ({} : Draft) = .ofValues fun _ => none := rfl

variable {value? : Field → Option Json} {d : Draft}

theorem holds_ofValues {f : Field} : (ofValues value?).holds f = (value? f).isSome := by
  cases f <;> simp [holds, ofValues]

theorem set_ofValues {f : Field} {v : Json} :
    (ofValues value?).set f v = .ok d ↔
      f.Takes v ∧ d = ofValues (Function.update value? f (some v)) := by
  cases f with
  | states => simp [set, except_map_eq_ok, labels_eq_ok, Field.Takes, ofValues, and_assoc]
  | accepting => simp [set, except_map_eq_ok, labels_eq_ok, Field.Takes, ofValues, and_assoc]
  | start => simp [set, Field.Takes, ofValues, eq_comm]
  | transitions => simp [set, except_map_eq_ok, targets_eq_ok, Field.Takes, ofValues, and_assoc]

theorem member_of_unknown {m : String × Json} (h : Field.ofKey? m.1 = none) :
    d.member m = .ok d := by
  rw [member, h]

theorem member_ofValues {m : String × Json} {f : Field} (h : Field.ofKey? m.1 = some f) :
    (ofValues value?).member m = .ok d ↔
      value? f = none ∧ f.Takes m.2 ∧ d = ofValues (Function.update value? f (some m.2)) := by
  simp only [member, h, holds_ofValues]
  cases hv : value? f with
  | none =>
    simp only [Option.isSome_none, Bool.false_eq_true, if_false, true_and]
    exact set_ofValues
  | some v => simp

end Draft

def fieldsNamed (ms : List (String × Json)) : List Field := ms.filterMap fun m => Field.ofKey? m.1

def firstValue? (ms : List (String × Json)) (f : Field) : Option Json :=
  (ms.find? fun m => Field.ofKey? m.1 = some f).map Prod.snd

theorem firstValue?_eq_none {ms : List (String × Json)} {f : Field} :
    firstValue? ms f = none ↔ f ∉ fieldsNamed ms := by
  simp [firstValue?, fieldsNamed]

section Cons
variable {m : String × Json} {rest : List (String × Json)}

theorem firstValue?_cons_of_unknown (h : Field.ofKey? m.1 = none) :
    firstValue? (m :: rest) = firstValue? rest := by
  funext f
  rw [firstValue?, List.find?_cons_of_neg (by simp [h])]
  rfl

theorem firstValue?_cons {f : Field} (h : Field.ofKey? m.1 = some f) :
    firstValue? (m :: rest) = Function.update (firstValue? rest) f (some m.2) := by
  funext g
  by_cases hg : g = f
  · subst hg
    rw [Function.update_self, firstValue?, List.find?_cons_of_pos (by simp [h])]
    rfl
  · rw [Function.update_of_ne hg, firstValue?, List.find?_cons_of_neg (by simp [h, Ne.symm hg])]
    rfl

end Cons

theorem or_update {value? later : Field → Option Json} {f : Field} {v : Json}
    (hnone : value? f = none) (hfresh : later f = none) :
    (fun g => (value? g).or (Function.update later f (some v) g)) =
      fun g => (Function.update value? f (some v) g).or (later g) := by
  funext g
  by_cases hg : g = f
  · subst hg
    simp [hnone, hfresh]
  · simp [Function.update_of_ne hg]

theorem update_some_eq_none {value? : Field → Option Json} {f g : Field} {v : Json} :
    Function.update value? f (some v) g = none ↔ g ≠ f ∧ value? g = none := by
  by_cases hg : g = f
  · subst hg
    simp
  · simp [hg]

theorem forall_update_some_iff {later : Field → Option Json} {f : Field} {v : Json}
    {P : Field → Json → Prop} (hfresh : later f = none) :
    (∀ g w, Function.update later f (some v) g = some w → P g w) ↔
      P f v ∧ ∀ g w, later g = some w → P g w := by
  constructor
  · intro h
    refine ⟨h f v (Function.update_self ..), fun g w hw => h g w ?_⟩
    have hg : g ≠ f := by
      rintro rfl
      rw [hfresh] at hw
      cases hw
    rw [Function.update_of_ne hg, hw]
  · rintro ⟨hf, hlater⟩ g w hw
    by_cases hg : g = f
    · subst hg
      rw [Function.update_self, Option.some.injEq] at hw
      exact hw ▸ hf
    · rw [Function.update_of_ne hg] at hw
      exact hlater g w hw

/-- Members are taken just if each field is named once at most, had no value before and takes the
one that it is given. The draft then has the values that it had and those of the members. -/
theorem foldlM_member_ofValues {ms : List (String × Json)} {value? : Field → Option Json}
    {d : Draft} : ms.foldlM Draft.member (.ofValues value?) = .ok d ↔
      (fieldsNamed ms).Nodup ∧
        (∀ f v, firstValue? ms f = some v → value? f = none ∧ f.Takes v) ∧
        d = .ofValues fun f => (value? f).or (firstValue? ms f) := by
  -- On the members, for any values met before: each member adds its own to them.
  induction ms generalizing value? with
  | nil => simp [fieldsNamed, firstValue?, pure, Except.pure, eq_comm]
  | cons m rest ih =>
    rw [List.foldlM_cons, except_bind_eq_ok]
    cases hm : Field.ofKey? m.1 with
    | none =>
      have hnamed : fieldsNamed (m :: rest) = fieldsNamed rest := List.filterMap_cons_none hm
      rw [Draft.member_of_unknown hm, firstValue?_cons_of_unknown hm, hnamed, ← ih]
      simp
    | some f =>
      have hnamed : fieldsNamed (m :: rest) = f :: fieldsNamed rest := List.filterMap_cons_some hm
      simp only [Draft.member_ofValues hm]
      rw [firstValue?_cons hm, hnamed, List.nodup_cons, ← firstValue?_eq_none]
      constructor
      · rintro ⟨_, ⟨hnone, htakes, rfl⟩, hrest⟩
        obtain ⟨hnodup, hall, rfl⟩ := ih.mp hrest
        have hfresh : firstValue? rest f = none := by
          rw [Option.eq_none_iff_forall_ne_some]
          exact fun v hv => (update_some_eq_none.mp (hall f v hv).1).1 rfl
        have hlater (g : Field) (v : Json) (hv : firstValue? rest g = some v) :
            value? g = none ∧ g.Takes v :=
          (hall g v hv).imp_left fun hmet => (update_some_eq_none.mp hmet).2
        exact ⟨⟨hfresh, hnodup⟩, (forall_update_some_iff hfresh).mpr ⟨⟨hnone, htakes⟩, hlater⟩,
          by rw [or_update hnone hfresh]⟩
      · rintro ⟨⟨hfresh, hnodup⟩, hall, rfl⟩
        obtain ⟨⟨hnone, htakes⟩, hlater⟩ := (forall_update_some_iff hfresh).mp hall
        refine ⟨_, ⟨hnone, htakes, rfl⟩, ih.mpr ⟨hnodup, ?_, by rw [or_update hnone hfresh]⟩⟩
        intro g v hv
        have hg : g ≠ f := by
          rintro rfl
          rw [hfresh] at hv
          cases hv
        exact (hlater g v hv).imp_left fun hvalue => update_some_eq_none.mpr ⟨hg, hvalue⟩

end Decoding

namespace Description

def ofValues (value : Field → Json) : Description where
  states := (value .states).strings
  accepting := .ofList (value .accepting).strings
  start := (value .start).string?
  transitions := .ofList (value .transitions).stringMembers

end Description

namespace Decoding
variable {ms : List (String × Json)}

theorem description_ofValues (value? : Field → Option Json) :
    (Draft.ofValues value?).description = .ofValues fun f => (value? f).getD .null := by
  simp only [Draft.description, Draft.ofValues, Description.ofValues, Description.mk.injEq]
  refine ⟨?_, ?_, ?_, ?_⟩
  · cases value? .states <;> rfl
  · cases value? .accepting <;> rfl
  · cases value? .start <;> rfl
  · cases value? .transitions <;> rfl

theorem ofMembers_eq_ok {d : Description} :
    ofMembers ms = .ok d ↔ (fieldsNamed ms).Nodup ∧
      (∀ f v, firstValue? ms f = some v → f.Takes v) ∧
      d = .ofValues fun f => (firstValue? ms f).getD .null := by
  simp only [ofMembers, except_map_eq_ok, Draft.empty_eq_ofValues, foldlM_member_ofValues, true_and,
    Option.none_or]
  constructor
  · rintro ⟨_, ⟨hnodup, htakes, rfl⟩, rfl⟩
    exact ⟨hnodup, htakes, description_ofValues _⟩
  · rintro ⟨hnodup, htakes, rfl⟩
    exact ⟨_, ⟨hnodup, htakes, rfl⟩, (description_ofValues _).symm⟩

end Decoding

namespace Field

/-- The object has a member for the field under both of its spellings. -/
def Doubled (f : Field) (v : Json) : Prop :=
  (v.member? f.name).isSome ∧ (v.member? f.otherName).isSome

instance (f : Field) (v : Json) : Decidable (f.Doubled v) := inferInstanceAs (Decidable (_ ∧ _))

/-- What the object has for the field under the one or the other spelling, or null. -/
def valueIn (f : Field) (v : Json) : Json :=
  ((v.member? f.name).or (v.member? f.otherName)).getD .null

theorem name_ne_otherName (f : Field) : f.name ≠ f.otherName := by cases f <;> decide

variable {ms : List (String × Json)} {f : Field}

theorem isSome_member?_iff {key : String} :
    ((Json.object ms).member? key).isSome ↔ ∃ m ∈ ms, m.1 = key := by
  rw [Json.member?, Json.members, List.lookup_isSome_iff]
  simp only [beq_iff_eq, eq_comm (a := key)]

/-- Of distinct members, no two name one field just if no field is there under both spellings. -/
theorem nodup_fieldsNamed_iff (hkeys : (ms.map Prod.fst).Nodup) :
    (Decoding.fieldsNamed ms).Nodup ↔ ∀ f : Field, ¬f.Doubled (.object ms) := by
  rw [Decoding.fieldsNamed, List.Nodup, List.pairwise_filterMap]
  constructor
  · rintro hnamed f ⟨hname, hother⟩
    obtain ⟨m, hm, hmf⟩ := isSome_member?_iff.mp hname
    obtain ⟨n, hn, hnf⟩ := isSome_member?_iff.mp hother
    have hne : m ≠ n := by
      rintro rfl
      exact f.name_ne_otherName (hmf.symm.trans hnf)
    have hsymm : Std.Symm fun m n : String × Json =>
        ∀ g, ofKey? m.1 = some g → ∀ k, ofKey? n.1 = some k → g ≠ k :=
      ⟨fun a b h g hg k hk => (h k hk g hg).symm⟩
    have hdistinct := hnamed.forall hm hn hne
    exact hdistinct f (ofKey?_eq_some.mpr (.inl hmf)) f (ofKey?_eq_some.mpr (.inr hnf)) rfl
  · intro hdoubled
    apply (List.pairwise_map.mp hkeys).imp_of_mem
    rintro m n hm hn hne f hmf g hng rfl
    rcases ofKey?_eq_some.mp hmf with hm' | hm' <;> rcases ofKey?_eq_some.mp hng with hn' | hn'
    · exact hne (hm'.trans hn'.symm)
    · exact hdoubled f ⟨isSome_member?_iff.mpr ⟨m, hm, hm'⟩, isSome_member?_iff.mpr ⟨n, hn, hn'⟩⟩
    · exact hdoubled f ⟨isSome_member?_iff.mpr ⟨n, hn, hn'⟩, isSome_member?_iff.mpr ⟨m, hm, hm'⟩⟩
    · exact hne (hm'.trans hn'.symm)

theorem firstValue?_eq_or (h : ¬f.Doubled (.object ms)) :
    Decoding.firstValue? ms f =
      ((Json.object ms).member? f.name).or ((Json.object ms).member? f.otherName) := by
  simp only [Doubled, Json.member?, Json.members] at h ⊢
  induction ms with
  | nil => rfl
  | cons m rest ih =>
    obtain ⟨key, v⟩ := m
    by_cases hname : key = f.name
    · rw [Decoding.firstValue?_cons (ofKey?_eq_some.mpr (.inl hname)), Function.update_self, hname,
        List.lookup_cons_self, Option.some_or]
    have hskip : (f.name == key) = false := beq_eq_false_iff_ne.mpr (Ne.symm hname)
    simp only [List.lookup_cons, hskip] at h ⊢
    by_cases hother : key = f.otherName
    · have hnone : rest.lookup f.name = none := by
        cases hl : rest.lookup f.name with
        | none => rfl
        | some w => simp [hl, hother] at h
      rw [Decoding.firstValue?_cons (ofKey?_eq_some.mpr (.inr hother)), Function.update_self]
      simp [hnone, hother]
    · have hskip' : (f.otherName == key) = false := beq_eq_false_iff_ne.mpr (Ne.symm hother)
      have hne : ofKey? key ≠ some f := fun hk => (ofKey?_eq_some.mp hk).elim hname hother
      simp only [hskip'] at h ⊢
      rw [Decoding.firstValue?, List.find?_cons_of_neg (by simp [hne])]
      exact ih h

theorem takes_null (f : Field) : f.Takes .null := by
  cases f with
  | start => trivial
  | _ => exact .inl rfl

theorem ofMembers_eq_ok {d : Description} (hkeys : (ms.map Prod.fst).Nodup) :
    Decoding.ofMembers ms = .ok d ↔
      (∀ f : Field, ¬f.Doubled (.object ms) ∧ f.Takes (f.valueIn (.object ms))) ∧
        d = .ofValues fun f => f.valueIn (.object ms) := by
  have hvalue (hdoubled : ∀ f : Field, ¬f.Doubled (.object ms)) (f : Field) :
      (Decoding.firstValue? ms f).getD .null = f.valueIn (.object ms) := by
    rw [firstValue?_eq_or (hdoubled f)]
    rfl
  rw [Decoding.ofMembers_eq_ok, nodup_fieldsNamed_iff hkeys]
  constructor
  · rintro ⟨hdoubled, htakes, rfl⟩
    refine ⟨fun f => ⟨hdoubled f, ?_⟩, by simp only [hvalue hdoubled]⟩
    rw [← hvalue hdoubled f]
    cases hv : Decoding.firstValue? ms f with
    | none => exact takes_null f
    | some v => exact htakes f v hv
  · rintro ⟨hall, rfl⟩
    have hdoubled : ∀ f : Field, ¬f.Doubled (.object ms) := fun f => (hall f).1
    refine ⟨hdoubled, fun f v hv => ?_, by simp only [hvalue hdoubled]⟩
    have htakes := (hall f).2
    rwa [← hvalue hdoubled f, hv] at htakes

end Field

namespace Json

theorem WellKeyed.valueIn {v : Json} (h : v.WellKeyed) (f : Field) : (f.valueIn v).WellKeyed := by
  have hmember {key : String} {w : Json} (hw : v.member? key = some w) : w.WellKeyed := by
    cases v with
    | object ms =>
      obtain ⟨front, back, hms, -⟩ := List.lookup_eq_some_iff.mp hw
      exact h.member (hms ▸ List.mem_append_right front List.mem_cons_self)
    | _ => cases hw
  unfold Field.valueIn
  cases hv : (v.member? f.name).or (v.member? f.otherName) with
  | none => exact .null
  | some w =>
    rcases Option.or_eq_some_iff.mp hv with hw | ⟨-, hw⟩
    · exact hmember hw
    · exact hmember hw

theorem WellKeyed.nodup_stringMembers {v : Json} (h : v.WellKeyed) :
    (v.stringMembers.map Prod.fst).Nodup := by
  cases v with
  | object ms =>
    rw [stringMembers, List.Nodup, List.pairwise_map, List.pairwise_filterMap]
    apply (List.pairwise_map.mp h.keys).imp
    intro m n hne a ha b hb
    obtain ⟨_, -, rfl⟩ := Option.map_eq_some_iff.mp ha
    obtain ⟨_, -, rfl⟩ := Option.map_eq_some_iff.mp hb
    exact hne
  | _ => exact List.nodup_nil

end Json

namespace Description

/-- An object, like those that texts are read to, is a description unless some field stands there
under both of its spellings or in the wrong container. Its states are the strings of their list, its
accepting labels the same without repeats, its start the value that stands there if that is a
string, and its transitions the members with a string, all in the order of the document. -/
theorem ofJson_object_told_by_fields {ms : List (String × Json)}
    (h : (Json.object ms).WellKeyed) :
    let v := Json.object ms
    ((∃ d, ofJson v = .ok d) ↔ ∀ f : Field, ¬f.Doubled v ∧ f.Takes (f.valueIn v)) ∧
      (∀ d, ofJson v = .ok d →
        d.states = (Field.states.valueIn v).strings ∧
        d.accepting.toList = (Field.accepting.valueIn v).strings.eraseDups ∧
        d.start = (Field.start.valueIn v).string? ∧
        d.transitions.entries = (Field.transitions.valueIn v).stringMembers) ∧
      ∀ e, ofJson v = .error e → ∃ s, e = .shape s := by
  intro v
  have hread : ∀ d, ofJson v = .ok d ↔ (∀ f : Field, ¬f.Doubled v ∧ f.Takes (f.valueIn v)) ∧
      d = .ofValues fun f => f.valueIn v := by
    intro d
    exact except_mapError_eq_ok.trans (Field.ofMembers_eq_ok h.keys)
  refine ⟨?_, ?_, ?_⟩
  · simp only [hread, exists_and_left, exists_eq, and_true]
  · intro d hd
    obtain ⟨-, rfl⟩ := (hread d).mp hd
    refine ⟨rfl, OrderedSet.toList_ofList _, rfl, ?_⟩
    exact OrderedMap.entries_ofList (h.valueIn .transitions).nodup_stringMembers
  · intro e he
    obtain ⟨s, -, hs⟩ := except_mapError_eq_error.mp he
    exact ⟨s, hs⟩

/-- Both spellings, a member of no field, repeats, an empty start and values that are no strings. -/
def mixedExample : List (String × Json) :=
  [("finais", .array [.string "b", .string "a", .null, .string "b"]), ("note", .array []),
    ("states", .array [.string "a", .bool true, .string "b", .string "a"]), ("start", .string ""),
    ("transicoes", .object [("a,x", .string "b"), ("a,y", .null), ("b,x", .string "a")])]

theorem wellKeyed_mixedExample : (Json.object mixedExample).WellKeyed := by
  refine .object (by decide) ?_
  simp [mixedExample, Json.WellKeyed.null, Json.WellKeyed.bool, Json.WellKeyed.string,
    Json.WellKeyed.array, Json.WellKeyed.object]

theorem mixedExample_read : ∃ d, ofJson (.object mixedExample) = .ok d ∧
    d.states = ["a", "b", "a"] ∧ d.accepting.toList = ["b", "a"] ∧ d.start = some "" ∧
    d.transitions.entries = [("a,x", "b"), ("b,x", "a")] := by
  obtain ⟨haccepted, hfields, -⟩ := ofJson_object_told_by_fields wellKeyed_mixedExample
  have hvalues : ∀ f : Field, ¬f.Doubled (.object mixedExample) ∧
      f.Takes (f.valueIn (.object mixedExample)) := by
    intro f
    cases f with
    | states => exact ⟨by decide, .inr ⟨_, rfl⟩⟩
    | accepting => exact ⟨by decide, .inr ⟨_, rfl⟩⟩
    | start => exact ⟨by decide, trivial⟩
    | transitions => exact ⟨by decide, .inr ⟨_, rfl⟩⟩
  obtain ⟨d, hd⟩ := haccepted.mpr hvalues
  obtain ⟨hstates, haccepting, hstart, htransitions⟩ := hfields d hd
  exact ⟨d, hd, hstates, haccepting, hstart, htransitions⟩

end Description
end AutomatonChart
