import Mathlib.Data.List.Induction
import Mathlib.Data.List.Nodup
import Mathlib.Data.List.Perm.Lattice
import AutomatonChart.Collection.OrderedMap
import AutomatonChart.Collection.OrderedSet

/-! # Collections built from lists

A set built from a list holds what it held before the last element, and that element; a map that
collects values under their keys lists the distinct keys in the order of their first occurrence,
and together its entries hold every value once.
-/
namespace AutomatonChart

namespace OrderedSet
variable {α : Type}

def filter (s : OrderedSet α) (p : α → Bool) : OrderedSet α :=
  ⟨s.toList.filter p, s.nodup.filter p⟩

theorem filter_filter_self (s : OrderedSet α) (p : α → Bool) :
    (s.filter p).filter p = s.filter p := by
  apply OrderedSet.ext
  simp [filter]

variable [DecidableEq α]

theorem ofList_concat (items : List α) (a : α) :
    ofList (items ++ [a]) = (ofList items).insert a := by
  simp only [ofList, List.foldl_append, List.foldl_cons, List.foldl_nil]

theorem toList_ofList_of_nodup {items : List α} (h : items.Nodup) :
    (ofList items).toList = items := by
  induction items using List.reverseRecOn with
  | nil => rfl
  | append_singleton items a ih =>
    obtain ⟨hi, -, ha⟩ := List.nodup_append.mp h
    have hn : a ∉ ofList items := fun hm =>
      ha a (mem_ofList.mp hm) a (List.mem_singleton_self a) rfl
    rw [ofList_concat, toList_insert, if_neg hn, ih hi]

theorem toList_ofList_eq_eraseDups [BEq α] [LawfulBEq α] (items : List α) :
    (ofList items).toList = items.eraseDups := by
  rw [toList_ofList, lawful_beq_subsingleton instBEqOfDecidableEq ‹BEq α›]

theorem pairwise_idxOf_ofList [BEq α] [LawfulBEq α] (items : List α) :
    (ofList items).toList.Pairwise fun a b => items.idxOf a < items.idxOf b := by
  induction items using List.reverseRecOn with
  | nil => exact .nil
  | append_singleton items c ih =>
    have hkept : ∀ a ∈ (ofList items).toList, (items ++ [c]).idxOf a = items.idxOf a := fun a ha =>
      List.idxOf_append_of_mem (mem_ofList.mp ha)
    have hold : (ofList items).toList.Pairwise fun a b =>
        (items ++ [c]).idxOf a < (items ++ [c]).idxOf b := by
      apply ih.imp_of_mem
      intro a b ha hb hlt
      rwa [hkept a ha, hkept b hb]
    rw [ofList_concat, toList_insert]
    split
    · exact hold
    · rename_i hc
      refine List.pairwise_append.mpr ⟨hold, List.pairwise_singleton _ _, ?_⟩
      intro a ha b hb
      obtain rfl := List.mem_singleton.mp hb
      have hlt : items.idxOf a < items.length := List.idxOf_lt_length_of_mem (mem_ofList.mp ha)
      rw [hkept a ha, List.idxOf_append_of_notMem fun hm => hc (mem_ofList.mpr hm)]
      omega

/-- What fails a test may be left out before the set is built or after that. -/
theorem toList_ofList_filter (items : List α) (p : α → Bool) :
    (ofList (items.filter p)).toList = (ofList items).toList.filter p := by
  induction items using List.reverseRecOn with
  | nil => rfl
  | append_singleton items a ih =>
    rw [List.filter_append, ofList_concat, toList_insert]
    by_cases ha : p a = true
    · have hmem : a ∈ ofList (items.filter p) ↔ a ∈ ofList items := by
        rw [mem_ofList, mem_ofList, List.mem_filter, and_iff_left ha]
      rw [List.filter_cons_of_pos ha, List.filter_nil, ofList_concat, toList_insert]
      by_cases hin : a ∈ ofList items
      · rw [if_pos hin, if_pos (hmem.mpr hin), ih]
      · rw [if_neg hin, if_neg fun h => hin (hmem.mp h), ih, List.filter_append,
          List.filter_cons_of_pos ha, List.filter_nil]
    · rw [List.filter_cons_of_neg ha, List.filter_nil, List.append_nil, ih]
      split
      · rfl
      · rw [List.filter_append, List.filter_cons_of_neg ha, List.filter_nil, List.append_nil]

end OrderedSet

namespace OrderedMap
variable {κ α : Type}

def filter (m : OrderedMap κ α) (p : κ × α → Bool) : OrderedMap κ α :=
  ⟨m.entries.filter p, m.nodup.sublist (List.filter_sublist.map Prod.fst)⟩

theorem filter_filter_self (m : OrderedMap κ α) (p : κ × α → Bool) :
    (m.filter p).filter p = m.filter p := by
  apply OrderedMap.ext
  simp [filter]

variable [DecidableEq κ]

/-- The values that stand under a key in a list of pairs, in order. -/
def valuesOf (items : List (κ × α)) (key : κ) : List α :=
  (items.filter fun p => p.1 = key).map Prod.snd

theorem mem_valuesOf {items : List (κ × α)} {key : κ} {a : α} :
    a ∈ valuesOf items key ↔ (key, a) ∈ items := by
  simp [valuesOf]

theorem valuesOf_concat (items : List (κ × α)) (p : κ × α) (key : κ) :
    valuesOf (items ++ [p]) key =
      if p.1 = key then valuesOf items key ++ [p.2] else valuesOf items key := by
  by_cases h : p.1 = key <;> simp [valuesOf, h]

theorem valuesOf_eq_nil {items : List (κ × α)} {key : κ} (h : key ∉ items.map Prod.fst) :
    valuesOf items key = [] := by
  apply List.eq_nil_iff_forall_not_mem.mpr
  intro a ha
  exact h (List.mem_map_of_mem (mem_valuesOf.mp ha))

theorem valuesOf_filter (items : List (κ × α)) (keep : κ → Bool) {key : κ}
    (h : keep key = true) :
    valuesOf (items.filter fun p => keep p.1) key = valuesOf items key := by
  rw [valuesOf, valuesOf, List.filter_filter]
  congr 2
  funext p
  by_cases hp : p.1 = key <;> simp [hp, h]

/-- Under distinct keys among which all keys of a list are, each of its pairs stands just once. -/
theorem flatMap_valuesOf_perm {keys : List κ} (hkeys : keys.Nodup) {items : List (κ × α)}
    (hcovered : ∀ p ∈ items, p.1 ∈ keys) :
    (keys.flatMap fun key => (valuesOf items key).map (key, ·)).Perm items := by
  -- The pairs under the first key are taken out of the list, and the other keys cover the rest.
  induction keys generalizing items with
  | nil =>
    rw [List.eq_nil_iff_forall_not_mem.mpr fun p hp => List.not_mem_nil (hcovered p hp)]
    exact .nil
  | cons key rest ih =>
    obtain ⟨hkey, hrest⟩ := List.nodup_cons.mp hkeys
    have hhead : (valuesOf items key).map (key, ·) = items.filter fun p => p.1 = key := by
      rw [valuesOf, List.map_map]
      apply (List.map_congr_left _).trans (List.map_id _)
      intro p hp
      exact Prod.ext (of_decide_eq_true (List.mem_filter.mp hp).2).symm rfl
    let later := items.filter fun p => !decide (p.1 = key)
    have hlater : (rest.flatMap fun k => (valuesOf items k).map (k, ·)) =
        rest.flatMap fun k => (valuesOf later k).map (k, ·) := by
      apply List.flatMap_congr
      intro k hk
      have hne : k ≠ key := fun he => hkey (he ▸ hk)
      rw [valuesOf_filter items (fun k => !decide (k = key)) (by simpa using hne)]
    have hrestcovered : ∀ p ∈ later, p.1 ∈ rest := by
      intro p hp
      obtain ⟨hm, hne⟩ := List.mem_filter.mp hp
      exact (List.mem_cons.mp (hcovered p hm)).resolve_left (by simpa using hne)
    rw [List.flatMap_cons, hhead, hlater]
    exact ((ih hrest hrestcovered).append_left _).trans (List.filter_append_perm _ items)

/-- Writing into a list of entries that a function fills in changes that function at one key. -/
theorem upsertEntry_tabulated (key : κ) (f : Option α → α) {keys : List κ} (h : keys.Nodup)
    (hk : key ∈ keys) (value : κ → α) :
    upsertEntry key f (keys.map fun k => (k, value k)) =
      keys.map fun k => (k, if k = key then f (some (value k)) else value k) := by
  induction keys with
  | nil => simp at hk
  | cons k rest ih =>
    obtain ⟨hkr, hr⟩ := List.nodup_cons.mp h
    by_cases he : k = key
    · have hother : ∀ x ∈ rest, (x, value x) =
          (x, if x = key then f (some (value x)) else value x) := by
        intro x hx
        have hne : x ≠ key := fun hxk => hkr (he ▸ hxk ▸ hx)
        rw [if_neg hne]
      simp only [List.map_cons, upsertEntry, if_pos he]
      rw [List.map_congr_left hother, he]
    · have hm : key ∈ rest := (List.mem_cons.mp hk).resolve_left fun hke => he hke.symm
      simp only [List.map_cons, upsertEntry, if_neg he]
      rw [ih hr hm]

def collect (m : OrderedMap κ (List α)) (p : κ × α) : OrderedMap κ (List α) :=
  m.upsert p.1 fun found => found.getD [] ++ [p.2]

/-- The distinct keys stand in the order of their first occurrence, each with all its values. -/
theorem entries_foldl_collect (items : List (κ × α)) :
    (items.foldl collect empty).entries =
      (OrderedSet.ofList (items.map Prod.fst)).toList.map fun key => (key, valuesOf items key) := by
  -- From the end of the list, as the fold meets the last pair last.
  induction items using List.reverseRecOn with
  | nil => rfl
  | append_singleton items p ih =>
    rw [List.foldl_append, List.foldl_cons, List.foldl_nil, List.map_append, List.map_singleton,
      OrderedSet.ofList_concat, OrderedSet.toList_insert]
    simp only [collect, upsert]
    rw [ih]
    by_cases hp : p.1 ∈ OrderedSet.ofList (items.map Prod.fst)
    · rw [if_pos hp, upsertEntry_tabulated _ _ (OrderedSet.nodup _) hp]
      apply List.map_congr_left
      intro key _
      by_cases hk : key = p.1
      · simp [valuesOf_concat, hk]
      · simp [valuesOf_concat, hk, Ne.symm hk]
    · have hn : p.1 ∉ items.map Prod.fst := fun hm => hp (OrderedSet.mem_ofList.mpr hm)
      have hold : ∀ key ∈ (OrderedSet.ofList (items.map Prod.fst)).toList,
          (key, valuesOf items key) = (key, valuesOf (items ++ [p]) key) := by
        intro key hkey
        have hne : p.1 ≠ key := fun he => hp (he ▸ hkey)
        rw [valuesOf_concat, if_neg hne]
      rw [if_neg hp, upsertEntry_of_not_mem _ _ (by simpa [OrderedSet.mem_def] using hp),
        List.map_append, List.map_congr_left hold, List.map_singleton, valuesOf_concat, if_pos rfl,
        valuesOf_eq_nil hn]
      rfl

theorem entries_foldl_collect_filter (items : List (κ × α)) (keep : κ → Bool) :
    ((items.filter fun p => keep p.1).foldl collect empty).entries =
      (items.foldl collect empty).entries.filter fun e => keep e.1 := by
  have hkeys : (items.filter fun p => keep p.1).map Prod.fst =
      (items.map Prod.fst).filter keep := by
    rw [List.filter_map]
    rfl
  rw [entries_foldl_collect, entries_foldl_collect, hkeys, OrderedSet.toList_ofList_filter,
    List.filter_map]
  apply List.map_congr_left
  intro key hkey
  rw [valuesOf_filter items keep (List.mem_filter.mp hkey).2]

section Renaming
variable {ι : Type} [DecidableEq ι] {rename : κ → ι} (hr : Function.Injective rename)
include hr

theorem upsertEntry_map_key (key : κ) (f : Option α → α) (entries : List (κ × α)) :
    upsertEntry (rename key) f (entries.map (Prod.map rename id)) =
      (upsertEntry key f entries).map (Prod.map rename id) := by
  induction entries with
  | nil => rfl
  | cons e rest ih =>
    by_cases he : e.1 = key
    · simp [upsertEntry, he]
    · have hne : rename e.1 ≠ rename key := fun h => he (hr h)
      simp [upsertEntry, he, hne, ih]

theorem entries_foldl_collect_map_key (items : List (κ × α)) {m : OrderedMap κ (List α)}
    {m' : OrderedMap ι (List α)} (h : m'.entries = m.entries.map (Prod.map rename id)) :
    ((items.map (Prod.map rename id)).foldl collect m').entries =
      (items.foldl collect m).entries.map (Prod.map rename id) := by
  induction items generalizing m m' with
  | nil => exact h
  | cons p rest ih =>
    have hstep : (m'.collect (Prod.map rename id p)).entries =
        (m.collect p).entries.map (Prod.map rename id) := by
      simp only [collect, upsert, h, Prod.map_fst, Prod.map_snd, id_eq]
      exact upsertEntry_map_key hr p.1 _ m.entries
    rw [List.map_cons, List.foldl_cons, List.foldl_cons]
    exact ih hstep

end Renaming

end OrderedMap
end AutomatonChart
