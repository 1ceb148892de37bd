import AutomatonChart.Flowchart.Chart
import AutomatonChart.Proofs.Collection

/-! # What a grouping holds

The fold that groups transitions is told here without the fold: every pair of ends that occurs
stands at the place of its first occurrence, with the symbols of all its occurrences in order.
-/
namespace AutomatonChart

theorem StateIds.exists_get?_assign {states : List String} {label : String} :
    (∃ id, (assign states).get? label = some id) ↔ label ∈ states := by
  rw [← Option.isSome_iff_exists, Option.isSome_iff_ne_none, Ne, get?_eq_none, not_not]
  exact OrderedSet.mem_ofList

theorem StateIds.mem_pairs {ids : StateIds} {p : StateId × String} :
    p ∈ ids.pairs ↔ ids.get? p.2 = some p.1 := by
  obtain ⟨⟨i⟩, label⟩ := p
  have hplace : (label, i) ∈ ids.labels.toList.zipIdx ↔ ids.get? label = some ⟨i⟩ :=
    List.mem_zipIdx_iff_getElem?.trans get?_eq_some.symm
  rw [← hplace, pairs, List.mem_map]
  constructor
  · rintro ⟨q, hq, heq⟩
    obtain ⟨hi, rfl⟩ := Prod.mk.inj heq
    exact StateId.mk.inj hi ▸ hq
  · exact fun h => ⟨(label, i), h, rfl⟩

namespace GroupedTransitions
open OrderedMap
variable {d : Description} {ids : StateIds}

theorem endpoints?_eq_some {t : Transition} {ends : Endpoints} :
    endpoints? ids t = some ends ↔
      ids.get? t.source = some ends.1 ∧ ids.get? t.target = some ends.2 := by
  unfold endpoints?
  cases hs : ids.get? t.source <;> cases ht : ids.get? t.target <;> simp [Prod.ext_iff]

def place? (ids : StateIds) (t : Transition) : Option (Endpoints × String) :=
  (endpoints? ids t).map (·, t.symbol)

theorem place?_eq_some {t : Transition} {p : Endpoints × String} :
    place? ids t = some p ↔ t.symbol = p.2 ∧
      ids.get? t.source = some p.1.1 ∧ ids.get? t.target = some p.1.2 := by
  rw [place?, Option.map_eq_some_iff]
  constructor
  · rintro ⟨ends, he, rfl⟩
    exact ⟨rfl, endpoints?_eq_some.mp he⟩
  · rintro ⟨hs, he⟩
    exact ⟨p.1, endpoints?_eq_some.mpr he, by rw [hs]⟩

/-- The places of the resolved transitions, in document order. -/
def placed (d : Description) (ids : StateIds) : List (Endpoints × String) :=
  d.resolved.filterMap (place? ids)

theorem collect_groups (g : GroupedTransitions) (t : Transition) :
    (collect ids g t).groups = (place? ids t).elim g.groups g.groups.collect := by
  unfold collect place?
  cases endpoints? ids t <;> rfl

theorem groups_build (d : Description) (ids : StateIds) :
    (build d ids).groups = (placed d ids).foldl OrderedMap.collect OrderedMap.empty := by
  suffices h : ∀ (ts : List Transition) (g : GroupedTransitions),
      (ts.foldl (collect ids) g).groups =
        (ts.filterMap (place? ids)).foldl OrderedMap.collect g.groups from h d.resolved empty
  intro ts
  induction ts with
  | nil => exact fun g => rfl
  | cons t rest ih =>
    intro g
    rw [List.foldl_cons, ih, collect_groups]
    cases hp : place? ids t <;> simp [hp]

/-- Every pair of ends stands at the place of its first occurrence, with all its symbols. -/
theorem toList_build (d : Description) (ids : StateIds) :
    (build d ids).toList = (OrderedSet.ofList ((placed d ids).map Prod.fst)).toList.map fun ends =>
      (ends, valuesOf (placed d ids) ends) := by
  rw [toList, groups_build, entries_foldl_collect]

theorem mem_toList_build {g : Endpoints × List String} :
    g ∈ (build d ids).toList ↔
      g.1 ∈ (placed d ids).map Prod.fst ∧ g.2 = valuesOf (placed d ids) g.1 := by
  rw [toList_build, List.mem_map]
  constructor
  · rintro ⟨ends, he, rfl⟩
    exact ⟨OrderedSet.mem_ofList.mp he, rfl⟩
  · rintro ⟨he, hv⟩
    exact ⟨g.1, OrderedSet.mem_ofList.mpr he, Prod.ext rfl hv.symm⟩

theorem mem_ends_placed {ends : Endpoints} :
    ends ∈ (placed d ids).map Prod.fst ↔ ∃ t ∈ d.resolved, endpoints? ids t = some ends := by
  simp only [placed, place?, List.map_filterMap, List.mem_filterMap, Option.map_map,
    Function.comp_def, Option.map_id']

theorem valuesOf_placed (ends : Endpoints) :
    valuesOf (placed d ids) ends =
      (d.resolved.filter fun t => endpoints? ids t = some ends).map Transition.symbol := by
  rw [valuesOf, placed]
  induction d.resolved with
  | nil => rfl
  | cons t rest ih =>
    cases he : endpoints? ids t with
    | none => simp [place?, he, ih]
    | some e => by_cases h : e = ends <;> simp [place?, he, h, ih]

theorem mem_symbols {g : Endpoints × List String} (hg : g ∈ (build d ids).toList)
    {symbol : String} : symbol ∈ g.2 ↔ (g.1, symbol) ∈ placed d ids := by
  rw [(mem_toList_build.mp hg).2, mem_valuesOf]

theorem symbols_ne_nil {g : Endpoints × List String} (hg : g ∈ (build d ids).toList) :
    g.2 ≠ [] := by
  obtain ⟨p, hp, hends⟩ := List.mem_map.mp (mem_toList_build.mp hg).1
  have hsymbol : p.2 ∈ g.2 := (mem_symbols hg).mpr (hends ▸ hp)
  exact List.ne_nil_of_mem hsymbol

theorem flatMap_build_perm (d : Description) (ids : StateIds) :
    ((build d ids).toList.flatMap fun g => g.2.map (g.1, ·)).Perm (placed d ids) := by
  rw [toList_build, List.flatMap_map]
  apply flatMap_valuesOf_perm (OrderedSet.nodup _)
  intro p hp
  exact OrderedSet.mem_ofList.mpr (List.mem_map_of_mem hp)

theorem foldr_length_add (gs : List (Endpoints × List String)) :
    gs.foldr (fun g total => g.2.length + total) 0 =
      (gs.flatMap fun g => g.2.map (g.1, ·)).length := by
  induction gs with
  | nil => rfl
  | cons g rest ih =>
    rw [List.foldr_cons, ih, List.flatMap_cons, List.length_append, List.length_map]

theorem placed_eq (d : Description) (ids : StateIds) :
    placed d ids = d.resolved.filterMap fun t =>
      (ids.get? t.source).bind fun source =>
        (ids.get? t.target).map fun target => ((source, target), t.symbol) := by
  apply List.filterMap_congr
  intro t _
  unfold place? endpoints?
  cases ids.get? t.source <;> cases ids.get? t.target <;> rfl

/-- Under identifiers of any labels, the groups are what the transitions show that have both
identifiers: the distinct pairs of ends in the order of their first occurrence, each with the
symbols of all its occurrences, in order. So none is empty, and together they hold every one of
these transitions and none of them twice. -/
theorem groups_hold_each_transition_once (d : Description) (labels : List String) :
    let ids := StateIds.assign labels
    let shown : List (Endpoints × String) := d.resolved.filterMap fun t =>
      (ids.get? t.source).bind fun source =>
        (ids.get? t.target).map fun target => ((source, target), t.symbol)
    let groups := (build d ids).toList
    groups.map Prod.fst = (shown.map Prod.fst).eraseDups ∧
      (groups.map Prod.fst).Pairwise (fun a b =>
        (shown.map Prod.fst).idxOf a < (shown.map Prod.fst).idxOf b) ∧
      (∀ g ∈ groups, g.2 = (shown.filter fun p => p.1 = g.1).map Prod.snd ∧ g.2 ≠ []) ∧
      (groups.flatMap fun g => g.2.map (g.1, ·)).Perm shown ∧
      groups.foldr (fun g total => g.2.length + total) 0 = shown.length ∧
      (build d ids).size = (shown.map Prod.fst).eraseDups.length ∧
      ((build d ids).isEmpty = true ↔ shown = []) := by
  intro ids shown groups
  have hshown : placed d ids = shown := placed_eq d ids
  have hperm : (groups.flatMap fun g => g.2.map (g.1, ·)).Perm shown :=
    hshown ▸ flatMap_build_perm d ids
  have hends : groups.map Prod.fst = (OrderedSet.ofList (shown.map Prod.fst)).toList := by
    rw [← hshown]
    simp only [groups, toList_build, List.map_map, Function.comp_def, List.map_id']
  have hdistinct : groups.map Prod.fst = (shown.map Prod.fst).eraseDups :=
    hends.trans (OrderedSet.toList_ofList_eq_eraseDups _)
  refine ⟨hdistinct, ?_, ?_, hperm, ?_, ?_, ?_⟩
  · rw [hends]
    exact OrderedSet.pairwise_idxOf_ofList (shown.map Prod.fst)
  · intro g hg
    exact ⟨hshown ▸ (mem_toList_build.mp hg).2, symbols_ne_nil hg⟩
  · rw [foldr_length_add, hperm.length_eq]
  · rw [← hdistinct, List.length_map]
    rfl
  · have hempty : (build d ids).isEmpty = true ↔ groups = [] := List.isEmpty_iff
    rw [hempty]
    constructor
    · intro hnone
      rw [hnone] at hperm
      exact hperm.nil_eq.symm
    · intro hnone
      rw [hnone] at hends
      exact List.map_eq_nil_iff.mp hends

end GroupedTransitions

namespace Description
open GroupedTransitions

/-- Some edge leads from the source of a transition to its target and shows its symbol. -/
def Draws (d : Description) (t : Transition) : Prop :=
  ∃ e ∈ (Chart.ofDescription d).edges, t.symbol ∈ e.symbols ∧
    (StateIds.assign d.states).get? t.source = some e.source ∧
    (StateIds.assign d.states).get? t.target = some e.target

/-- The resolved transitions between declared states are drawn, and nothing else is. -/
theorem draws_iff {d : Description} {t : Transition} :
    d.Draws t ↔ t ∈ d.resolved ∧ t.source ∈ d.states ∧ t.target ∈ d.states := by
  constructor
  · rintro ⟨e, he, hsymbol, hs, ht⟩
    obtain ⟨g, hg, rfl⟩ := List.mem_map.mp he
    obtain ⟨t', ht', hp⟩ := List.mem_filterMap.mp ((mem_symbols hg).mp hsymbol)
    obtain ⟨hsymbol', hs', ht''⟩ := place?_eq_some.mp hp
    have heq : t' = t := by
      obtain ⟨source, symbol, target⟩ := t
      obtain ⟨source', symbol', target'⟩ := t'
      simp only at hsymbol' hs' ht'' hs ht
      rw [StateIds.get?_injective hs' hs, StateIds.get?_injective ht'' ht, hsymbol']
    exact ⟨heq ▸ ht', StateIds.exists_get?_assign.mp ⟨_, hs⟩,
      StateIds.exists_get?_assign.mp ⟨_, ht⟩⟩
  · rintro ⟨ht, hs, htarget⟩
    obtain ⟨source, hsource⟩ := StateIds.exists_get?_assign.mpr hs
    obtain ⟨target, htarget⟩ := StateIds.exists_get?_assign.mpr htarget
    let ends : Endpoints := (source, target)
    have hp : (ends, t.symbol) ∈ placed d (.assign d.states) :=
      List.mem_filterMap.mpr ⟨t, ht, place?_eq_some.mpr ⟨rfl, hsource, htarget⟩⟩
    have hg : (ends, OrderedMap.valuesOf (placed d (.assign d.states)) ends) ∈
        (build d (.assign d.states)).toList :=
      mem_toList_build.mpr ⟨List.mem_map_of_mem hp, rfl⟩
    exact ⟨_, List.mem_map_of_mem hg, (mem_symbols hg).mpr hp, hsource, htarget⟩

end Description
end AutomatonChart
