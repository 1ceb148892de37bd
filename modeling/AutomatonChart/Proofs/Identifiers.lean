import Mathlib.Data.Finset.Card
import AutomatonChart.Proofs.Reordering

/-! # Identifiers number the labels

A table made from a list numbers its distinct labels from zero on, in the order of their first
occurrences. What follows in a longer list gets identifiers behind those that are taken, so no
label loses the one that it has.
-/
namespace AutomatonChart

namespace OrderedSet
variable {α : Type} [DecidableEq α]

theorem ofList_append (xs ys : List α) : ofList (xs ++ ys) = ys.foldl insert (ofList xs) :=
  List.foldl_append

theorem prefix_ofList_append (xs ys : List α) :
    (ofList xs).toList <+: (ofList (xs ++ ys)).toList := by
  rw [ofList_append, toList_foldl_insert]
  exact List.prefix_append _ _

theorem size_ofList (items : List α) : (ofList items).size = items.toFinset.card := by
  have hsame : (ofList items).toList.toFinset = items.toFinset := by
    ext a
    rw [List.mem_toFinset, List.mem_toFinset]
    exact mem_ofList
  rw [← hsame, List.toFinset_card_of_nodup (ofList items).nodup]
  rfl

/-- Of two elements the one that occurs first stands first. -/
theorem lt_iff_idxOf_lt {items : List α} {a b : α} {i j : Nat}
    (ha : (ofList items).toList[i]? = some a) (hb : (ofList items).toList[j]? = some b) :
    i < j ↔ items.idxOf a < items.idxOf b := by
  obtain ⟨hi, rfl⟩ := List.getElem?_eq_some_iff.mp ha
  obtain ⟨hj, rfl⟩ := List.getElem?_eq_some_iff.mp hb
  have hpairwise := List.pairwise_iff_getElem.mp (pairwise_idxOf_ofList items)
  constructor
  · exact fun hlt => hpairwise i j hi hj hlt
  · intro hlt
    rcases Nat.lt_trichotomy i j with hij | rfl | hji
    · exact hij
    · exact absurd hlt (Nat.lt_irrefl _)
    · exact absurd hlt (Nat.lt_asymm (hpairwise j i hj hi hji))

end OrderedSet

namespace StateIds
variable {ids : StateIds}

theorem getElem?_pairs (i : Nat) :
    ids.pairs[i]? = (ids.labels.toList[i]?).map fun label => (⟨i⟩, label) := by
  rw [pairs, List.getElem?_map, List.getElem?_zipIdx, Option.map_map, Nat.zero_add]
  rfl

theorem get?_eq_some_iff_pair {label : String} {id : StateId} :
    ids.get? label = some id ↔ ids.pairs[id.index]? = some (id, label) := by
  rw [get?_eq_some, getElem?_pairs, Option.map_eq_some_iff]
  constructor
  · exact fun h => ⟨label, h, rfl⟩
  · rintro ⟨label', h, heq⟩
    rw [h, (Prod.mk.inj heq).2]

theorem map_fst_pairs : ids.pairs.map Prod.fst = (List.range ids.size).map .mk := by
  have hplaces : ids.labels.toList.zipIdx.map Prod.snd = List.range ids.size := by
    rw [List.zipIdx_map_snd, List.range_eq_range']
    rfl
  rw [← hplaces, pairs, List.map_map, List.map_map]
  rfl

theorem get?_bijOn (states : List String) :
    Set.BijOn (assign states).get? {label | label ∈ states}
      {found | ∃ i < (assign states).size, found = some ⟨i⟩} := by
  refine ⟨?_, ?_, ?_⟩
  · intro label hlabel
    obtain ⟨id, hid⟩ := exists_get?_assign.mpr hlabel
    exact ⟨id.index, assigned_iff.mpr ⟨label, hid⟩, hid⟩
  · intro a ha b _ hab
    obtain ⟨id, hid⟩ := exists_get?_assign.mpr ha
    exact get?_injective hid (hab.symm.trans hid)
  · rintro found ⟨i, hi, rfl⟩
    obtain ⟨label, hlabel⟩ := assigned_iff.mp (show (assign states).Assigned ⟨i⟩ from hi)
    exact ⟨label, exists_get?_assign.mp ⟨_, hlabel⟩, hlabel⟩

theorem get?_assign_append {states : List String} {label : String} {id : StateId}
    (h : (assign states).get? label = some id) (more : List String) :
    (assign (states ++ more)).get? label = some id := by
  rw [get?_eq_some] at h ⊢
  obtain ⟨rest, hrest⟩ := OrderedSet.prefix_ofList_append states more
  have hlt := (List.getElem?_eq_some_iff.mp h).1
  change (OrderedSet.ofList (states ++ more)).toList[id.index]? = some label
  rw [← hrest]
  exact (List.getElem?_append_left hlt).trans h

/-- The identifiers are the numbers below that of the distinct labels, one for each. Looking up a
label and listing the pairs tell the same, a label has none just if it is not in the list, the one
that occurs first has the smaller one, and a longer list changes none of them. -/
theorem assign_numbers_labels (states : List String) :
    (assign states).size = states.toFinset.card ∧
      (assign states).pairs.map Prod.fst = (List.range (assign states).size).map .mk ∧
      Set.BijOn (assign states).get? {label | label ∈ states}
        {found | ∃ i < (assign states).size, found = some ⟨i⟩} ∧
      (∀ label id, (assign states).get? label = some id ↔
        (assign states).pairs[id.index]? = some (id, label)) ∧
      (∀ label, (assign states).get? label = none ↔ label ∉ states) ∧
      (∀ a b i j, (assign states).get? a = some i → (assign states).get? b = some j →
        (i.index < j.index ↔ states.idxOf a < states.idxOf b)) ∧
      ∀ more label id, (assign states).get? label = some id →
        (assign (states ++ more)).get? label = some id := by
  refine ⟨OrderedSet.size_ofList states, map_fst_pairs, get?_bijOn states,
    fun _ _ => get?_eq_some_iff_pair, ?_, ?_, fun more _ _ h => get?_assign_append h more⟩
  · intro label
    rw [get?_eq_none]
    exact not_congr OrderedSet.mem_ofList
  · intro a b i j ha hb
    exact OrderedSet.lt_iff_idxOf_lt (get?_eq_some.mp ha) (get?_eq_some.mp hb)

example : (assign ["q0", "q1", "q0", "q2"]).get? "q2" = some ⟨2⟩ := by decide

end StateIds
end AutomatonChart
