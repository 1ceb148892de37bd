/-! # Sets in order of first arrival

A list without repeats. Inserting an element that is present changes nothing; a new one goes to
the end, so the places of the others never move.
-/
namespace AutomatonChart

@[ext] structure OrderedSet (α : Type) where
  toList : List α
  nodup : toList.Nodup

namespace OrderedSet
variable {α : Type}

def empty : OrderedSet α := ⟨[], List.nodup_nil⟩

instance : Inhabited (OrderedSet α) := ⟨empty⟩
instance : Membership α (OrderedSet α) := ⟨fun s a => a ∈ s.toList⟩
instance [DecidableEq α] : DecidableEq (OrderedSet α) := fun s t =>
  decidable_of_iff (s.toList = t.toList) ⟨OrderedSet.ext, congrArg _⟩

theorem mem_def {s : OrderedSet α} {a : α} : a ∈ s ↔ a ∈ s.toList := Iff.rfl

def size (s : OrderedSet α) : Nat := s.toList.length

variable [DecidableEq α]

instance (a : α) (s : OrderedSet α) : Decidable (a ∈ s) :=
  inferInstanceAs (Decidable (a ∈ s.toList))

def insert (s : OrderedSet α) (a : α) : OrderedSet α :=
  if h : a ∈ s.toList then s
  else ⟨s.toList ++ [a], by
    refine List.nodup_append.mpr ⟨s.nodup, by simp, ?_⟩
    intro x hx y hy hxy
    rw [List.mem_singleton] at hy
    exact h (hy ▸ hxy ▸ hx)⟩

def ofList (items : List α) : OrderedSet α := items.foldl insert empty

def idxOf? (s : OrderedSet α) (a : α) : Option Nat := s.toList.idxOf? a

omit [DecidableEq α] in
@[simp] theorem toList_empty : (empty : OrderedSet α).toList = [] := rfl

theorem toList_insert (s : OrderedSet α) (a : α) :
    (s.insert a).toList = if a ∈ s then s.toList else s.toList ++ [a] := by
  unfold insert
  split <;> rename_i h <;> simp [mem_def, h]

@[simp] theorem mem_insert {s : OrderedSet α} {a b : α} : b ∈ s.insert a ↔ b ∈ s ∨ b = a := by
  rw [mem_def, toList_insert]
  split
  · rename_i h
    exact ⟨Or.inl, fun hb => hb.elim id fun e => e ▸ h⟩
  · simp [mem_def]

/-- A whole list inserted: what was there stays in front, and what is new follows without its
repeats. -/
theorem toList_foldl_insert (items : List α) (s : OrderedSet α) :
    (items.foldl insert s).toList =
      s.toList ++ (items.filter (fun x => !s.toList.contains x)).eraseDups := by
  induction items generalizing s with
  | nil => simp
  | cons a rest ih =>
    rw [List.foldl_cons, ih, toList_insert]
    by_cases h : a ∈ s.toList
    · rw [if_pos (mem_def.mpr h), List.filter_cons_of_neg (by simpa using h)]
    · have hp : (rest.filter fun x => !s.toList.contains x).filter (fun b => !b == a) =
          rest.filter fun x => !(s.toList ++ [a]).contains x := by
        rw [List.filter_filter]
        congr 1
        funext x
        by_cases hx : x = a <;> simp [hx]
      rw [if_neg (fun hm => h (mem_def.mp hm)), List.filter_cons_of_pos (by simpa using h),
        List.eraseDups_cons, hp]
      simp

theorem toList_ofList (items : List α) : (ofList items).toList = items.eraseDups := by
  have h := toList_foldl_insert items (empty : OrderedSet α)
  have hp : items.filter (fun x => !(empty : OrderedSet α).toList.contains x) = items := by
    simp [toList_empty]
  rw [hp] at h
  exact h

@[simp] theorem mem_ofList {items : List α} {a : α} : a ∈ ofList items ↔ a ∈ items := by
  rw [mem_def, toList_ofList, List.mem_eraseDups]

theorem idxOf?_eq_some {s : OrderedSet α} {a : α} {i : Nat} :
    s.idxOf? a = some i ↔ s.toList[i]? = some a := by
  unfold idxOf?
  rw [List.idxOf?_eq_some_iff]
  constructor
  · rintro ⟨h, he, -⟩
    rw [List.getElem?_eq_getElem h, he]
  · intro h
    obtain ⟨hi, he⟩ := List.getElem?_eq_some_iff.mp h
    refine ⟨hi, he, fun j hj hje => ?_⟩
    have hlt := List.pairwise_iff_getElem.mp s.nodup j i (by omega) hi hj
    exact hlt (hje.trans he.symm)

theorem idxOf?_eq_none {s : OrderedSet α} {a : α} : s.idxOf? a = none ↔ a ∉ s := by
  simp [idxOf?, mem_def]

end OrderedSet
end AutomatonChart
