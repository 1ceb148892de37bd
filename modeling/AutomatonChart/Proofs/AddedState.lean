import AutomatonChart.Proofs.Cleaning

/-! # One more state

A state that is added at the end takes the next identifier and leaves the others theirs. Keys are
cut with a view to the declared labels, so a new label might take a key from its source. A label
without a comma does not: where it stands before the last comma of a key, there is no other comma,
so no other source could have been found. What was drawn is still drawn, and all that comes besides
touches the new state.
-/
namespace AutomatonChart

namespace Key

theorem cutFirst_append {c : Char} {front : List Char} (h : c ∉ front) (rest : List Char) :
    cutFirst c (front ++ c :: rest) = some (front, rest) := by
  induction front with
  | nil => simp [cutFirst]
  | cons x front ih =>
    simp only [List.mem_cons, not_or] at h
    rw [List.cons_append, cutFirst, if_neg (Ne.symm h.1), ih h.2]
    rfl

section Resolution
variable {key : String} {first last cut : String × String}

theorem head?_cuts_of_getLast? (hl : (cuts key).getLast? = some last)
    (hcomma : ',' ∉ last.1.toList) : (cuts key).head? = some last := by
  have hkey : key.toList = last.1.toList ++ ',' :: last.2.toList := by
    rw [← mem_cuts.mp (List.mem_of_getLast? hl)]
    simp [join]
  rw [← splitFirst_eq_head?, splitFirst, hkey, cutFirst_append hcomma]
  simp [texts]

theorem resolve_eq_some_of_known {known : String → Bool} (hl : (cuts key).getLast? = some last)
    (hf : (cuts key).head? = some first) (hk : known cut.1 = true) :
    resolve known key = some cut ↔ last = cut ∨ known last.1 = false ∧ first = cut := by
  have hne : ∀ other : String × String, known other.1 = false → other ≠ cut := by
    rintro other hother rfl
    rw [hk] at hother
    cases hother
  cases hkl : known last.1 with
  | true => simp [resolve_of_known_last hl hkl]
  | false =>
    cases hkf : known first.1 with
    | true => simp [resolve_of_known_first hl hkl hf hkf, hne last hkl]
    | false => simp [resolve_of_unknown hl hkl hf hkf, hne last hkl, hne first hkf]

/-- When a label without a comma becomes known too, no key is taken from those known before and
none is given to them. -/
theorem resolve_of_added {known known' : String → Bool} {label : String}
    (hknown : ∀ other, known' other = true ↔ known other = true ∨ other = label)
    (hcomma : ',' ∉ label.toList) (hcut : known cut.1 = true) :
    resolve known' key = some cut ↔ resolve known key = some cut := by
  cases hf : (cuts key).head? with
  | none =>
    have hsplit : split key = none := by
      rw [split_eq_getLast?, List.head?_eq_none_iff.mp hf]
      rfl
    simp only [resolve, hsplit]
  | some first =>
    obtain ⟨last, hl⟩ := exists_getLast?_cuts (List.mem_of_head? hf)
    rw [resolve_eq_some_of_known hl hf hcut,
      resolve_eq_some_of_known hl hf ((hknown cut.1).mpr (.inl hcut))]
    constructor
    · rintro (hlast | ⟨hunknown, hfirst⟩)
      · exact .inl hlast
      · have hbefore : known last.1 = false := by
          rw [← Bool.not_eq_true] at hunknown ⊢
          exact fun hk => hunknown ((hknown last.1).mpr (.inl hk))
        exact .inr ⟨hbefore, hfirst⟩
    · rintro (hlast | ⟨hunknown, hfirst⟩)
      · exact .inl hlast
      · by_cases hlabel : last.1 = label
        · -- No comma stands before the last one here, so the known source ends there too.
          have honly : first = last :=
            Option.some.inj (hf.symm.trans (head?_cuts_of_getLast? hl (hlabel ▸ hcomma)))
          exact .inl (honly.symm.trans hfirst)
        · have hstill : known' last.1 = false := by
            rw [← Bool.not_eq_true] at hunknown ⊢
            exact fun hk => ((hknown last.1).mp hk).elim hunknown hlabel
          exact .inr ⟨hstill, hfirst⟩

end Resolution
end Key

namespace StateIds
variable {states : List String} {label : String} (hnew : label ∉ states)
include hnew

theorem labels_assign_concat :
    (assign (states ++ [label])).labels.toList = (assign states).labels.toList ++ [label] := by
  have hn : label ∉ OrderedSet.ofList states := fun h => hnew (OrderedSet.mem_ofList.mp h)
  change (OrderedSet.ofList (states ++ [label])).toList = _
  rw [OrderedSet.ofList_concat, OrderedSet.toList_insert, if_neg hn]
  rfl

theorem get?_assign_concat_self :
    (assign (states ++ [label])).get? label = some ⟨(assign states).size⟩ := by
  rw [get?_eq_some, labels_assign_concat hnew]
  exact List.getElem?_concat_length

theorem get?_assign_eq_some_iff {other : String} {id : StateId} :
    (assign states).get? other = some id ↔
      (assign (states ++ [label])).get? other = some id ∧ id ≠ ⟨(assign states).size⟩ := by
  obtain ⟨i⟩ := id
  rw [get?_eq_some, get?_eq_some, labels_assign_concat hnew, Ne, StateId.mk.injEq]
  change _ ↔ _ ∧ i ≠ (assign states).labels.toList.length
  constructor
  · intro h
    have hlt := (List.getElem?_eq_some_iff.mp h).1
    exact ⟨(List.getElem?_append_left hlt).trans h, Nat.ne_of_lt hlt⟩
  · rintro ⟨h, hne⟩
    have hle : i < ((assign states).labels.toList ++ [label]).length :=
      (List.getElem?_eq_some_iff.mp h).1
    rw [List.length_append, List.length_singleton] at hle
    have hlt : i < (assign states).labels.toList.length := by omega
    exact (List.getElem?_append_left hlt).symm.trans h

theorem get?_assign_concat_of_ne {other : String} (hne : other ≠ label) :
    (assign (states ++ [label])).get? other = (assign states).get? other := by
  apply Option.ext
  intro id
  rw [get?_assign_eq_some_iff hnew, iff_self_and]
  rintro h rfl
  exact hne (get?_injective h (get?_assign_concat_self hnew))

theorem pairs_assign_concat :
    (assign (states ++ [label])).pairs =
      (assign states).pairs ++ [(⟨(assign states).size⟩, label)] := by
  simp [pairs, labels_assign_concat hnew, List.zipIdx_append, size, OrderedSet.size]

end StateIds

namespace Description
open GroupedTransitions

/-- The description with one more state, behind the others. -/
def withState (d : Description) (label : String) : Description :=
  { d with states := d.states ++ [label] }

section Added
variable {d : Description} {label : String}

theorem declares_withState (other : String) :
    (d.withState label).declares other = true ↔ d.declares other = true ∨ other = label := by
  rw [declares_iff, declares_iff, withState, List.mem_append, List.mem_singleton]

theorem drawnAs?_eq_some {entry : String × String} {p : Endpoints × String} :
    d.drawnAs? entry = some p ↔ ∃ cut, Key.resolve d.declares entry.1 = some cut ∧
      cut.2 = p.2 ∧ (StateIds.assign d.states).get? cut.1 = some p.1.1 ∧
        (StateIds.assign d.states).get? entry.2 = some p.1.2 := by
  simp only [drawnAs?, resolveEntry, Option.bind_map, Option.bind_eq_some_iff,
    Function.comp_apply, place?_eq_some]

variable (hnew : label ∉ d.states) (hcomma : ',' ∉ label.toList)
include hnew hcomma

/-- What an entry is drawn as stays, and an entry that is drawn only now touches the new state. -/
theorem drawnAs?_eq_filter_withState (entry : String × String) :
    d.drawnAs? entry = ((d.withState label).drawnAs? entry).filter fun p =>
      p.1.1 ≠ ⟨(StateIds.assign d.states).size⟩ ∧ p.1.2 ≠ ⟨(StateIds.assign d.states).size⟩ := by
  apply Option.ext
  intro p
  have hresolve {cut : String × String}
      (hcut : (StateIds.assign d.states).get? cut.1 = some p.1.1) :
      Key.resolve (d.withState label).declares entry.1 = some cut ↔
        Key.resolve d.declares entry.1 = some cut :=
    Key.resolve_of_added declares_withState hcomma
      (declares_iff.mpr (StateIds.exists_get?_assign.mp ⟨p.1.1, hcut⟩))
  rw [Option.filter_eq_some_iff, decide_eq_true_iff, drawnAs?_eq_some, drawnAs?_eq_some]
  constructor
  · rintro ⟨cut, hcut, hsymbol, hsource, htarget⟩
    have hcut' := (hresolve hsource).mpr hcut
    obtain ⟨hsource', hs⟩ := (StateIds.get?_assign_eq_some_iff hnew).mp hsource
    obtain ⟨htarget', ht⟩ := (StateIds.get?_assign_eq_some_iff hnew).mp htarget
    exact ⟨⟨cut, hcut', hsymbol, hsource', htarget'⟩, hs, ht⟩
  · rintro ⟨⟨cut, hcut, hsymbol, hsource, htarget⟩, hs, ht⟩
    have hsource' := (StateIds.get?_assign_eq_some_iff hnew).mpr ⟨hsource, hs⟩
    have htarget' := (StateIds.get?_assign_eq_some_iff hnew).mpr ⟨htarget, ht⟩
    exact ⟨cut, (hresolve hsource').mp hcut, hsymbol, hsource', htarget'⟩

theorem toList_build_withState :
    (build d (.assign d.states)).toList =
      (build (d.withState label) (.assign (d.withState label).states)).toList.filter fun g =>
        g.1.1 ≠ ⟨(StateIds.assign d.states).size⟩ ∧ g.1.2 ≠ ⟨(StateIds.assign d.states).size⟩ := by
  let untouched : Endpoints → Bool := fun ends =>
    ends.1 ≠ ⟨(StateIds.assign d.states).size⟩ ∧ ends.2 ≠ ⟨(StateIds.assign d.states).size⟩
  have hplaced : placed d (.assign d.states) =
      (placed (d.withState label) (.assign (d.withState label).states)).filter fun p =>
        untouched p.1 := by
    rw [placed_eq_filterMap, placed_eq_filterMap, List.filter_filterMap]
    exact List.filterMap_congr fun entry _ => drawnAs?_eq_filter_withState hnew hcomma entry
  rw [toList, toList, groups_build, groups_build, hplaced]
  exact OrderedMap.entries_foldl_collect_filter _ untouched

end Added

/-- A new label without a comma, added to the states, takes the next identifier and a node behind
the others. All that was drawn is still drawn: the other states keep their identifiers and nodes,
the start stays where it is unless the new label is the start label, and leaving out the groups
that touch the new identifier gives back the groups as they were. -/
theorem chart_of_added_state {d : Description} {label : String} (hnew : label ∉ d.states)
    (hcomma : ',' ∉ label.toList) :
    let d' := d.withState label
    let ids := StateIds.assign d.states
    let ids' := StateIds.assign d'.states
    let added : StateId := ⟨ids.size⟩
    (∀ other ∈ d.states, ids'.get? other = ids.get? other) ∧
      ids'.get? label = some added ∧
      (Chart.ofDescription d').nodes =
        (Chart.ofDescription d).nodes ++ [⟨added, label, d.isAccepting label⟩] ∧
      (d.startState ≠ some label →
        (Chart.ofDescription d').start = (Chart.ofDescription d).start) ∧
      (d.startState = some label →
        (Chart.ofDescription d).start = none ∧ (Chart.ofDescription d').start = some added) ∧
      (build d ids).toList =
        (build d' ids').toList.filter (fun g => g.1.1 ≠ added ∧ g.1.2 ≠ added) ∧
      (Chart.ofDescription d).edges =
        (Chart.ofDescription d').edges.filter fun e => e.source ≠ added ∧ e.target ≠ added := by
  intro d' ids ids' added
  have hself : ids'.get? label = some added := StateIds.get?_assign_concat_self hnew
  have hother : ∀ other, other ≠ label → ids'.get? other = ids.get? other := fun other hne =>
    StateIds.get?_assign_concat_of_ne hnew hne
  have hgroups := toList_build_withState hnew hcomma
  refine ⟨?_, hself, ?_, ?_, ?_, hgroups, ?_⟩
  · intro other hdeclared
    exact hother other fun he => hnew (he ▸ hdeclared)
  · have hpairs : ids'.pairs = ids.pairs ++ [(added, label)] := StateIds.pairs_assign_concat hnew
    change ids'.pairs.map _ = ids.pairs.map _ ++ _
    rw [hpairs, List.map_append]
    rfl
  · intro hstart
    change d.startState.bind ids'.get? = d.startState.bind ids.get?
    cases hs : d.startState with
    | none => rfl
    | some start =>
      exact hother start fun he => hstart (he ▸ hs)
  · intro hstart
    change d.startState.bind ids.get? = none ∧ d.startState.bind ids'.get? = some added
    rw [hstart]
    have hnone : ids.get? label = none :=
      StateIds.get?_eq_none.mpr fun hm => hnew (OrderedSet.mem_ofList.mp hm)
    exact ⟨hnone, hself⟩
  · change (build d ids).toList.map _ = ((build d' ids').toList.map _).filter _
    rw [hgroups, List.filter_map]
    rfl

def unfinishedExample : Description where
  states := ["q0", "a,b"]
  start := some "q1"
  transitions := .ofList [("q0,x", "a,b"), ("q1,x,y", "q0"), ("a,b,z", "q1"), ("q0,,", "a,b")]

theorem chart_of_unfinishedExample_with_state :
    let d' := unfinishedExample.withState "q1"
    (StateIds.assign d'.states).get? "q1" = some ⟨2⟩ ∧
      (Chart.ofDescription d').nodes =
        [⟨⟨0⟩, "q0", false⟩, ⟨⟨1⟩, "a,b", false⟩, ⟨⟨2⟩, "q1", false⟩] ∧
      (Chart.ofDescription d').start = some ⟨2⟩ ∧
      (build d' (.assign d'.states)).toList =
        [((⟨0⟩, ⟨1⟩), ["x", ","]), ((⟨2⟩, ⟨0⟩), ["x,y"]), ((⟨1⟩, ⟨2⟩), ["z"])] ∧
      (build unfinishedExample (.assign unfinishedExample.states)).toList =
        [((⟨0⟩, ⟨1⟩), ["x", ","])] := by
  obtain ⟨-, hself, hnodes, -, hstart, hgroups, -⟩ :=
    @chart_of_added_state unfinishedExample "q1" (by decide) (by decide)
  exact ⟨hself, hnodes, (hstart rfl).2, by decide, hgroups.trans (by decide)⟩

/-- A label with a comma may take a key from the state that it belonged to. -/
example :
    let d : Description := { states := ["q0", "q1"], transitions := .ofList [("q0,a,b", "q1")] }
    let d' := d.withState "q0,a"
    (build d (.assign d.states)).toList = [((⟨0⟩, ⟨1⟩), ["a,b"])] ∧
      (build d' (.assign d'.states)).toList = [((⟨2⟩, ⟨1⟩), ["b"])] := by
  decide

end Description
end AutomatonChart
