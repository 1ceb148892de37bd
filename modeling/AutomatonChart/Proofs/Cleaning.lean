import AutomatonChart.Proofs.Determinism

/-! # References that a drawing ignores

A description may repeat its states and refer to states that it does not declare. Cleaning takes
just that out of it: repeats, accepting and start labels that are not declared, and entries that do
not lead from one declared state to another. What is drawn stays the same, and every entry that is
left is drawn as one symbol.
-/
namespace AutomatonChart

theorem Key.resolve_eq_none {known : String → Bool} {key : String} :
    resolve known key = none ↔ ',' ∉ key.toList := by
  rw [← cutLast_eq_none, ← Option.map_eq_none_iff (f := texts)]
  change _ ↔ split key = none
  cases hs : split key with
  | none => simp [resolve, hs]
  | some last => by_cases hk : known last.1 <;> simp [resolve, hs, hk]

namespace GroupedTransitions
variable {d : Description} {ids : StateIds}

/-- A symbol stands in the group of its ends: `place.1` counts the groups before it and `place.2`
the symbols before it in its group. -/
def StandsAt (g : GroupedTransitions) (p : Endpoints × String) (place : Nat × Nat) : Prop :=
  ∃ symbols, g.toList[place.1]? = some (p.1, symbols) ∧ symbols[place.2]? = some p.2

theorem getElem?_build_inj {i j : Nat} {g h : Endpoints × List String}
    (hi : (build d ids).toList[i]? = some g) (hj : (build d ids).toList[j]? = some h)
    (hends : g.1 = h.1) : i = j := by
  have hkeys : ((build d ids).toList.map Prod.fst).Nodup := (build d ids).groups.nodup
  have hi' : ((build d ids).toList.map Prod.fst)[i]? = some g.1 := by
    rw [List.getElem?_map, hi]
    rfl
  have hj' : ((build d ids).toList.map Prod.fst)[j]? = some g.1 := by
    rw [List.getElem?_map, hj, hends]
    rfl
  have hlt := (List.getElem?_eq_some_iff.mp hi').1
  exact (List.getElem?_inj hlt hkeys).mp (hi'.trans hj'.symm)

theorem existsUnique_standsAt {p : Endpoints × String} (hp : p ∈ placed d ids) :
    ∃! place, (build d ids).StandsAt p place := by
  obtain ⟨ends, symbol⟩ := p
  have hg : (ends, OrderedMap.valuesOf (placed d ids) ends) ∈ (build d ids).toList :=
    mem_toList_build.mpr ⟨List.mem_map_of_mem hp, rfl⟩
  obtain ⟨i, hi⟩ := List.getElem?_of_mem hg
  obtain ⟨j, hj⟩ := List.getElem?_of_mem ((mem_symbols hg).mpr hp)
  refine ⟨(i, j), ⟨_, hi, hj⟩, ?_⟩
  rintro ⟨i', j'⟩ ⟨symbols, hi', hj'⟩
  have hii : i' = i := getElem?_build_inj hi' hi rfl
  subst hii
  have hsymbols : symbols = OrderedMap.valuesOf (placed d ids) ends :=
    (Prod.mk.inj (Option.some.inj (hi'.symm.trans hi))).2
  subst hsymbols
  have hjj : j' = j :=
    (List.getElem?_inj (List.getElem?_eq_some_iff.mp hj').1 (nodup_symbols hg)).mp
      (hj'.trans hj.symm)
  rw [hjj]

end GroupedTransitions

namespace Description
open GroupedTransitions
variable {d : Description}

/-- The key of the entry has a comma, and both its source and its target are declared. -/
def links (d : Description) (entry : String × String) : Bool :=
  (d.resolveEntry entry).any fun t => d.declares t.source && d.declares t.target

/-- The description without the references that a drawing ignores. -/
def cleaned (d : Description) : Description where
  states := d.states.eraseDups
  accepting := d.accepting.filter d.declares
  start := d.start.filter fun label => label ≠ "" && d.declares label
  transitions := d.transitions.filter d.links

theorem links_iff {entry : String × String} :
    d.links entry = true ↔ ',' ∈ entry.1.toList ∧
      ∃ cut, Key.resolve d.declares entry.1 = some cut ∧ cut.1 ∈ d.states ∧ entry.2 ∈ d.states := by
  unfold links resolveEntry
  cases hr : Key.resolve d.declares entry.1 with
  | none => simp [Key.resolve_eq_none.mp hr]
  | some cut =>
    have hcomma : ',' ∈ entry.1.toList := by
      by_contra hn
      rw [Key.resolve_eq_none.mpr hn] at hr
      cases hr
    simp [hcomma, declares_iff]

theorem declares_cleaned (d : Description) : d.cleaned.declares = d.declares := by
  funext label
  rw [Bool.eq_iff_iff, declares_iff, declares_iff]
  exact List.mem_eraseDups

theorem resolveEntry_cleaned (d : Description) : d.cleaned.resolveEntry = d.resolveEntry := by
  funext entry
  rw [resolveEntry, resolveEntry, declares_cleaned]

theorem links_cleaned (d : Description) : d.cleaned.links = d.links := by
  funext entry
  rw [links, links, resolveEntry_cleaned, declares_cleaned]

theorem assign_cleaned (d : Description) : StateIds.assign d.cleaned.states = .assign d.states := by
  have hlabels : OrderedSet.ofList d.states.eraseDups = .ofList d.states := by
    rw [← OrderedSet.toList_ofList]
    exact OrderedSet.ext (OrderedSet.toList_ofList_of_nodup (OrderedSet.nodup _))
  exact congrArg StateIds.mk hlabels

theorem isAccepting_cleaned {label : String} (h : label ∈ d.states) :
    d.cleaned.isAccepting label = d.isAccepting label := by
  have hdeclared := declares_iff.mpr h
  rw [isAccepting, isAccepting, decide_eq_decide]
  simp [cleaned, OrderedSet.filter, OrderedSet.mem_def, hdeclared]

theorem startState_cleaned (d : Description) :
    d.cleaned.startState = d.startState.filter d.declares := by
  rw [startState, startState, cleaned, Option.filter_filter, Option.filter_filter]
  congr 1
  funext label
  cases d.declares label <;> simp

theorem cleaned_cleaned (d : Description) : d.cleaned.cleaned = d.cleaned := by
  have hstates : d.cleaned.states.eraseDups = d.cleaned.states := by
    have hlabels := congrArg (fun ids => ids.labels.toList) (assign_cleaned d)
    simp only [StateIds.assign, OrderedSet.toList_ofList] at hlabels
    exact hlabels
  have haccepting : d.cleaned.accepting.filter d.declares = d.cleaned.accepting :=
    d.accepting.filter_filter_self d.declares
  have hstart : (d.cleaned.start.filter fun label => label ≠ "" && d.declares label) =
      d.cleaned.start := by
    simp only [cleaned, Option.filter_filter, Bool.and_self]
  have htransitions : d.cleaned.transitions.filter d.links = d.cleaned.transitions :=
    d.transitions.filter_filter_self d.links
  rw [cleaned, declares_cleaned, links_cleaned, hstates, haccepting, hstart, htransitions]

/-- The ends and the symbol that an entry is drawn with, if it is drawn. -/
def drawnAs? (d : Description) (entry : String × String) : Option (Endpoints × String) :=
  (d.resolveEntry entry).bind (place? (.assign d.states))

theorem placed_eq_filterMap (d : Description) :
    placed d (.assign d.states) = d.transitions.entries.filterMap d.drawnAs? := by
  rw [placed, resolved, List.filterMap_filterMap]
  rfl

theorem drawnAs?_cleaned (d : Description) : d.cleaned.drawnAs? = d.drawnAs? := by
  funext entry
  rw [drawnAs?, drawnAs?, resolveEntry_cleaned, assign_cleaned]

/-- Just the entries that cleaning keeps are drawn. -/
theorem exists_drawnAs?_iff {entry : String × String} :
    (∃ p, d.drawnAs? entry = some p) ↔ d.links entry = true := by
  unfold drawnAs? links
  cases d.resolveEntry entry with
  | none => simp
  | some t =>
    rw [Option.any_some, Bool.and_eq_true, declares_iff, declares_iff,
      ← StateIds.exists_get?_assign, ← StateIds.exists_get?_assign]
    constructor
    · rintro ⟨p, hp⟩
      obtain ⟨-, hs, ht⟩ := place?_eq_some.mp hp
      exact ⟨⟨_, hs⟩, ⟨_, ht⟩⟩
    · rintro ⟨⟨source, hs⟩, ⟨target, ht⟩⟩
      exact ⟨((source, target), t.symbol), place?_eq_some.mpr ⟨rfl, hs, ht⟩⟩

theorem drawnAs?_injective {entry other : String × String} {p : Endpoints × String}
    (he : d.drawnAs? entry = some p) (ho : d.drawnAs? other = some p) : entry = other := by
  obtain ⟨t, ht, htp⟩ := Option.bind_eq_some_iff.mp he
  obtain ⟨u, hu, hup⟩ := Option.bind_eq_some_iff.mp ho
  obtain ⟨htsymbol, htsource, httarget⟩ := place?_eq_some.mp htp
  obtain ⟨husymbol, husource, hutarget⟩ := place?_eq_some.mp hup
  rw [eq_of_resolveEntry ht, eq_of_resolveEntry hu, StateIds.get?_injective htsource husource,
    StateIds.get?_injective httarget hutarget, htsymbol, husymbol]

theorem placed_cleaned (d : Description) :
    placed d.cleaned (.assign d.states) = placed d (.assign d.states) := by
  rw [← assign_cleaned d, placed_eq_filterMap d.cleaned, drawnAs?_cleaned, assign_cleaned,
    placed_eq_filterMap]
  change (d.transitions.entries.filter d.links).filterMap d.drawnAs? = _
  -- What the filter takes out would not have been drawn.
  rw [List.filterMap_filter]
  apply List.filterMap_congr
  intro entry _
  by_cases h : d.links entry = true
  · rw [if_pos h]
  · rw [if_neg h, eq_comm, Option.eq_none_iff_forall_ne_some]
    exact fun p hp => h (exists_drawnAs?_iff.mp ⟨p, hp⟩)

theorem build_cleaned (d : Description) :
    build d.cleaned (.assign d.states) = build d (.assign d.states) := by
  have hgroups : (build d.cleaned (.assign d.states)).groups =
      (build d (.assign d.states)).groups := by
    rw [groups_build, groups_build, placed_cleaned]
  exact congrArg GroupedTransitions.mk hgroups

theorem chart_cleaned (d : Description) :
    Chart.ofDescription d.cleaned = Chart.ofDescription d := by
  have hnodes : ((StateIds.assign d.states).pairs.map fun p =>
      (⟨p.1, p.2, d.cleaned.isAccepting p.2⟩ : Chart.Node)) =
      (StateIds.assign d.states).pairs.map fun p => ⟨p.1, p.2, d.isAccepting p.2⟩ := by
    apply List.map_congr_left
    intro p hp
    have hdeclared := StateIds.exists_get?_assign.mp ⟨_, StateIds.mem_pairs.mp hp⟩
    rw [isAccepting_cleaned hdeclared]
  have hstart : d.cleaned.startState.bind (StateIds.assign d.states).get? =
      d.startState.bind (StateIds.assign d.states).get? := by
    rw [startState_cleaned]
    cases d.startState with
    | none => rfl
    | some label =>
      by_cases h : d.declares label = true
      · rw [Option.filter_some, if_pos h]
      · have hnone : (StateIds.assign d.states).get? label = none :=
          StateIds.get?_eq_none.mpr fun hm => h (declares_iff.mpr (OrderedSet.mem_ofList.mp hm))
        rw [Option.filter_some, if_neg h, Option.bind_none, Option.bind_some, hnone]
  simp only [Chart.ofDescription, assign_cleaned, build_cleaned, hnodes, hstart]

/-- Where the drawing shows an entry: the place of its symbol among the groups. -/
def ShownAt (d : Description) (entry : String × String) (place : Nat × Nat) : Prop :=
  ∃ p, d.drawnAs? entry = some p ∧ (build d (.assign d.states)).StandsAt p place

/-- Cleaning takes out just what a drawing ignores. The drawing stays as it is, cleaning it again
changes nothing, and what is left of the entries and the symbols of the drawing belong to one
another one by one. -/
theorem cleaned_drawn_alike (d : Description) :
    let kept := d.cleaned.transitions.entries
    let groups := (build d (.assign d.states)).toList
    d.cleaned.flowchart = d.flowchart ∧ Chart.ofDescription d.cleaned = Chart.ofDescription d ∧
      d.cleaned.cleaned = d.cleaned ∧
      (∀ entry, entry ∈ kept ↔ entry ∈ d.transitions.entries ∧ ',' ∈ entry.1.toList ∧
        ∃ cut, Key.resolve d.declares entry.1 = some cut ∧ cut.1 ∈ d.states ∧
          entry.2 ∈ d.states) ∧
      (∀ entry ∈ kept, ∃! place, d.ShownAt entry place) ∧
      (∀ entry ∈ d.transitions.entries, entry ∉ kept → ∀ place, ¬d.ShownAt entry place) ∧
      ∀ (i j : Nat) (g : Endpoints × List String) (symbol : String),
        groups[i]? = some g → g.2[j]? = some symbol →
          ∃! entry, entry ∈ kept ∧ d.ShownAt entry (i, j) := by
  intro kept groups
  have hkept {entry : String × String} : entry ∈ kept ↔
      entry ∈ d.transitions.entries ∧ d.links entry = true := List.mem_filter
  refine ⟨congrArg Chart.text (chart_cleaned d), chart_cleaned d, cleaned_cleaned d, ?_, ?_, ?_, ?_⟩
  · intro entry
    rw [hkept, links_iff]
  · intro entry he
    obtain ⟨hm, hl⟩ := hkept.mp he
    obtain ⟨p, hp⟩ := exists_drawnAs?_iff.mpr hl
    have hplaced : p ∈ placed d (.assign d.states) :=
      placed_eq_filterMap d ▸ List.mem_filterMap.mpr ⟨entry, hm, hp⟩
    obtain ⟨place, hplace, hunique⟩ := existsUnique_standsAt hplaced
    refine ⟨place, ⟨p, hp, hplace⟩, ?_⟩
    rintro other ⟨q, hq, hother⟩
    rw [hp, Option.some.injEq] at hq
    subst hq
    exact hunique other hother
  · rintro entry hm hn place ⟨p, hp, -⟩
    exact hn (hkept.mpr ⟨hm, exists_drawnAs?_iff.mp ⟨p, hp⟩⟩)
  · intro i j g symbol hi hj
    have hp := (mem_symbols (List.mem_of_getElem? hi)).mp (List.mem_of_getElem? hj)
    rw [placed_eq_filterMap] at hp
    obtain ⟨entry, hm, he⟩ := List.mem_filterMap.mp hp
    have hl := exists_drawnAs?_iff.mp ⟨_, he⟩
    refine ⟨entry, ⟨hkept.mpr ⟨hm, hl⟩, _, he, g.2, hi, hj⟩, ?_⟩
    rintro other ⟨-, q, hq, symbols, hi', hj'⟩
    have hg : g = (q.1, symbols) := Option.some.inj (hi.symm.trans hi')
    subst hg
    have hsymbol : symbol = q.2 := Option.some.inj (hj.symm.trans hj')
    subst hsymbol
    exact drawnAs?_injective hq he

def strayExample : Description where
  states := ["q0", "q1", "q0"]
  accepting := .ofList ["q2", "q1"]
  start := some "q2"
  transitions := .ofList [("q0", "q1"), ("q2,a", "q1"), ("q0,a", "q2"), ("q0,,", "q1"),
    ("q1,b", "q0"), ("q0,b", "q1")]

theorem strayExample_drawn_alike :
    strayExample.cleaned.flowchart = strayExample.flowchart ∧
      strayExample.cleaned.transitions.entries =
        [("q0,,", "q1"), ("q1,b", "q0"), ("q0,b", "q1")] ∧
      (∃! place, strayExample.ShownAt ("q0,b", "q1") place) ∧
      (∀ place, ¬strayExample.ShownAt ("q0,a", "q2") place) ∧
      ∃! entry, entry ∈ strayExample.cleaned.transitions.entries ∧
        strayExample.ShownAt entry (0, 1) := by
  obtain ⟨hflowchart, -, -, -, hkept, hdropped, hsymbols⟩ := cleaned_drawn_alike strayExample
  refine ⟨hflowchart, by decide, hkept ("q0,b", "q1") (by decide), ?_, ?_⟩
  · exact hdropped ("q0,a", "q2") (by decide) (by decide)
  · exact hsymbols 0 1 ((⟨0⟩, ⟨1⟩), [",", "b"]) "b" (by decide) (by decide)

end Description
end AutomatonChart
