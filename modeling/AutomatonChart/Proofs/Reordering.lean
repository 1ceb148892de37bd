import Mathlib.Data.Set.Function
import AutomatonChart.Proofs.KeySplitting

/-! # States in another order

Identifiers follow the order of the states, keys and groups do not. So when the states are listed
in another order, or their repeats elsewhere, the same drawing comes out under other identifiers.
-/
namespace AutomatonChart

namespace StateIds

/-- The identifier stands for a label. -/
def Assigned (ids : StateIds) (id : StateId) : Prop := id.index < ids.size

/-- Sends the identifier of each label to the one that the label has in another table, and any
other identifier to itself. -/
def transfer (ids other : StateIds) (id : StateId) : StateId :=
  (ids.labels.toList[id.index]?.bind other.get?).getD id

variable {ids other : StateIds}

theorem assigned_iff {id : StateId} : ids.Assigned id ↔ ∃ label, ids.get? label = some id := by
  simp only [get?_eq_some]
  constructor
  · intro h
    exact ⟨_, List.getElem?_eq_getElem h⟩
  · rintro ⟨label, h⟩
    exact (List.getElem?_eq_some_iff.mp h).1

theorem transfer_of_not_assigned {id : StateId} (h : ¬ids.Assigned id) :
    ids.transfer other id = id := by
  have hnone : ids.labels.toList[id.index]? = none := List.getElem?_eq_none (Nat.le_of_not_lt h)
  rw [transfer, hnone]
  rfl

section SameLabels
variable (hsame : ∀ label, label ∈ ids.labels ↔ label ∈ other.labels)
include hsame

theorem assigned_iff_of_same_labels {id : StateId} : ids.Assigned id ↔ other.Assigned id := by
  have hlabels : ids.labels.toList.Perm other.labels.toList :=
    (List.perm_ext_iff_of_nodup ids.labels.nodup other.labels.nodup).mpr hsame
  rw [Assigned, Assigned, size, size, OrderedSet.size, OrderedSet.size, hlabels.length_eq]

theorem get?_transfer (label : String) :
    other.get? label = (ids.get? label).map (ids.transfer other) := by
  cases hid : ids.get? label with
  | none =>
    rw [get?_eq_none, hsame, ← get?_eq_none] at hid
    exact hid
  | some id =>
    cases ho : other.get? label with
    | none =>
      rw [get?_eq_none, ← hsame, ← get?_eq_none, hid] at ho
      cases ho
    | some id' =>
      rw [get?_eq_some] at hid
      rw [Option.map_some, transfer, hid, Option.bind_some, ho, Option.getD_some]

theorem assigned_transfer {id : StateId} (h : ids.Assigned id) :
    other.Assigned (ids.transfer other id) := by
  obtain ⟨label, hid⟩ := assigned_iff.mp h
  have ho := get?_transfer hsame label
  rw [hid] at ho
  exact assigned_iff.mpr ⟨label, ho⟩

/-- No two identifiers become one, those that stand for no label included. -/
theorem transfer_injective : Function.Injective (ids.transfer other) := by
  intro i j hij
  -- Both tables have as many identifiers, so none of the others is hit from inside.
  have hmixed {a b : StateId} (ha : ids.Assigned a) (hb : ¬ids.Assigned b) :
      ids.transfer other a ≠ ids.transfer other b := by
    intro heq
    have hassigned := assigned_transfer hsame ha
    rw [heq, transfer_of_not_assigned hb] at hassigned
    exact hb ((assigned_iff_of_same_labels hsame).mpr hassigned)
  by_cases hi : ids.Assigned i <;> by_cases hj : ids.Assigned j
  · obtain ⟨a, ha⟩ := assigned_iff.mp hi
    obtain ⟨b, hb⟩ := assigned_iff.mp hj
    have hoa := get?_transfer hsame a
    have hob := get?_transfer hsame b
    rw [ha, Option.map_some] at hoa
    rw [hb, Option.map_some, ← hij] at hob
    have hab := get?_injective hoa hob
    subst hab
    exact Option.some.inj (ha.symm.trans hb)
  · exact absurd hij (hmixed hi hj)
  · exact absurd hij.symm (hmixed hj hi)
  · rwa [transfer_of_not_assigned hi, transfer_of_not_assigned hj] at hij

theorem transfer_bijOn :
    Set.BijOn (ids.transfer other) {id | ids.Assigned id} {id | other.Assigned id} := by
  refine ⟨fun id h => assigned_transfer hsame h, (transfer_injective hsame).injOn, ?_⟩
  intro id' h
  obtain ⟨label, hid'⟩ := assigned_iff.mp h
  rw [get?_transfer hsame label] at hid'
  obtain ⟨id, hid, heq⟩ := Option.map_eq_some_iff.mp hid'
  exact ⟨id, assigned_iff.mpr ⟨label, hid⟩, heq⟩

theorem perm_pairs : other.pairs.Perm (ids.pairs.map (Prod.map (ids.transfer other) id)) := by
  have hnodup (table : StateIds) : table.pairs.Nodup := by
    have hlabels : (table.pairs.map Prod.snd).Nodup := by
      rw [pairs, List.map_map]
      exact (List.zipIdx_map_fst 0 table.labels.toList).symm ▸ table.labels.nodup
    exact hlabels.of_map
  have hinjective : Function.Injective (Prod.map (ids.transfer other) (id : String → String)) :=
    (transfer_injective hsame).prodMap Function.injective_id
  apply (List.perm_ext_iff_of_nodup (hnodup other) ((hnodup ids).map hinjective)).mpr
  rintro ⟨id', label⟩
  rw [mem_pairs, get?_transfer hsame label, Option.map_eq_some_iff, List.mem_map]
  constructor
  · rintro ⟨id, hid, rfl⟩
    exact ⟨(id, label), mem_pairs.mpr hid, rfl⟩
  · rintro ⟨⟨id, label'⟩, hp, heq⟩
    obtain ⟨hid, rfl⟩ := Prod.mk.inj heq
    exact ⟨id, mem_pairs.mp hp, hid⟩

end SameLabels
end StateIds

namespace GroupedTransitions

/-- The ends of a group under other identifiers. -/
def transferEnds (ids other : StateIds) : Endpoints → Endpoints :=
  Prod.map (ids.transfer other) (ids.transfer other)

theorem place?_transfer {ids other : StateIds}
    (hsame : ∀ label, label ∈ ids.labels ↔ label ∈ other.labels) (t : Transition) :
    place? other t = (place? ids t).map (Prod.map (transferEnds ids other) id) := by
  unfold place? endpoints?
  rw [StateIds.get?_transfer hsame t.source, StateIds.get?_transfer hsame t.target]
  cases ids.get? t.source <;> cases ids.get? t.target <;> rfl

/-- Descriptions that resolve alike are grouped alike, up to the identifiers. -/
theorem toList_build_transfer {ids other : StateIds}
    (hsame : ∀ label, label ∈ ids.labels ↔ label ∈ other.labels) {d d' : Description}
    (hresolved : d'.resolved = d.resolved) :
    (build d' other).toList = (build d ids).toList.map (Prod.map (transferEnds ids other) id) := by
  have hinjective : Function.Injective (transferEnds ids other) :=
    (StateIds.transfer_injective hsame).prodMap (StateIds.transfer_injective hsame)
  have hplaced : placed d' other = (placed d ids).map (Prod.map (transferEnds ids other) id) := by
    rw [placed, placed, hresolved, List.map_filterMap]
    exact List.filterMap_congr fun t _ => place?_transfer hsame t
  rw [toList, toList, groups_build, groups_build, hplaced]
  exact OrderedMap.entries_foldl_collect_map_key hinjective (placed d ids) rfl

end GroupedTransitions

namespace Description
open GroupedTransitions

theorem resolved_of_perm {d : Description} {states : List String} (h : d.states.Perm states) :
    ({ d with states } : Description).resolved = d.resolved := by
  have hdeclares : ({ d with states } : Description).declares = d.declares := by
    funext label
    rw [Bool.eq_iff_iff, declares_iff, declares_iff]
    exact h.mem_iff.symm
  have hentry : ({ d with states } : Description).resolveEntry = d.resolveEntry := by
    funext entry
    rw [resolveEntry, resolveEntry, hdeclares]
  rw [resolved, resolved, hentry]

/-- When the states are listed in another order, each label takes its new identifier, and under
these the nodes, the start and the groups are what they were: the groups in the same order and with
the same symbols. -/
theorem chart_of_reordered_states {d : Description} {states : List String}
    (h : d.states.Perm states) :
    let d' : Description := { d with states }
    let ids := StateIds.assign d.states
    let ids' := StateIds.assign states
    let σ := ids.transfer ids'
    (∀ label ∈ d.states, ∃ id, ids.get? label = some id ∧ ids'.get? label = some (σ id)) ∧
      Set.BijOn σ {id | ids.Assigned id} {id | ids'.Assigned id} ∧
      (Chart.ofDescription d').nodes.Perm
        ((Chart.ofDescription d).nodes.map fun n => { n with id := σ n.id }) ∧
      (Chart.ofDescription d').start = (Chart.ofDescription d).start.map σ ∧
      (build d' ids').toList = (build d ids).toList.map (fun g => ((σ g.1.1, σ g.1.2), g.2)) ∧
      (Chart.ofDescription d').edges = (Chart.ofDescription d).edges.map fun e =>
        { e with source := σ e.source, target := σ e.target } := by
  intro d' ids ids' σ
  have hsame : ∀ label, label ∈ ids.labels ↔ label ∈ ids'.labels := fun _ =>
    OrderedSet.mem_ofList.trans (h.mem_iff.trans OrderedSet.mem_ofList.symm)
  have hgroups : (build d' ids').toList =
      (build d ids).toList.map (fun g => ((σ g.1.1, σ g.1.2), g.2)) :=
    toList_build_transfer hsame (resolved_of_perm h)
  refine ⟨?_, StateIds.transfer_bijOn hsame, ?_, ?_, hgroups, ?_⟩
  · intro label hlabel
    obtain ⟨id, hid⟩ := StateIds.exists_get?_assign.mpr hlabel
    refine ⟨id, hid, ?_⟩
    rw [StateIds.get?_transfer hsame label]
    exact congrArg (Option.map σ) hid
  · have hnodes := (StateIds.perm_pairs hsame).map fun p =>
      (⟨p.1, p.2, d.isAccepting p.2⟩ : Chart.Node)
    rw [List.map_map] at hnodes
    change (ids'.pairs.map _).Perm ((ids.pairs.map _).map _)
    rw [List.map_map]
    exact hnodes
  · change d.startState.bind ids'.get? = (d.startState.bind ids.get?).map σ
    cases d.startState with
    | none => rfl
    | some label => exact StateIds.get?_transfer hsame label
  · change (build d' ids').toList.map _ = ((build d ids).toList.map _).map _
    rw [hgroups, List.map_map, List.map_map]
    rfl

def repeatedExample : Description where
  states := ["b", "a", "b"]
  accepting := .ofList ["a"]
  start := some "b"
  transitions := .ofList [("b,y", "a"), ("a,x", "a"), ("b,z", "a")]

theorem chart_of_repeatedExample_reordered :
    let d' : Description := { repeatedExample with states := ["a", "b", "b"] }
    (Chart.ofDescription d').start = some ⟨1⟩ ∧
      (build d' (.assign ["a", "b", "b"])).toList =
        [((⟨1⟩, ⟨0⟩), ["y", "z"]), ((⟨0⟩, ⟨0⟩), ["x"])] ∧
      (Chart.ofDescription d').nodes.Perm [⟨⟨1⟩, "b", false⟩, ⟨⟨0⟩, "a", true⟩] := by
  have h := @chart_of_reordered_states repeatedExample ["a", "b", "b"] (by decide)
  obtain ⟨-, -, hnodes, hstart, hgroups, -⟩ := h
  exact ⟨hstart.trans (by decide), hgroups.trans (by decide), hnodes⟩

end Description
end AutomatonChart
