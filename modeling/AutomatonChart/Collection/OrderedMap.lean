/-! # Maps in order of first arrival

A list of entries with distinct keys. Writing to a key that is present changes its value in
place; a new key goes to the end.
-/
namespace AutomatonChart

variable {κ α : Type} [DecidableEq κ]

/-- Changes the entry of a key, or adds one at the end. -/
def upsertEntry (key : κ) (f : Option α → α) : List (κ × α) → List (κ × α)
  | [] => [(key, f none)]
  | e :: rest => if e.1 = key then (key, f (some e.2)) :: rest else e :: upsertEntry key f rest

theorem keys_upsertEntry (key : κ) (f : Option α → α) (entries : List (κ × α)) :
    (upsertEntry key f entries).map Prod.fst =
      if key ∈ entries.map Prod.fst then entries.map Prod.fst
      else entries.map Prod.fst ++ [key] := by
  induction entries with
  | nil => simp [upsertEntry]
  | cons e rest ih =>
    by_cases h : e.1 = key
    · simp [upsertEntry, h]
    · have h' : ¬ key = e.1 := fun hk => h hk.symm
      simp only [upsertEntry, h, if_false, List.map_cons, ih, List.mem_cons, h', false_or]
      split <;> simp

theorem nodup_keys_upsertEntry (key : κ) (f : Option α → α) {entries : List (κ × α)}
    (h : (entries.map Prod.fst).Nodup) : ((upsertEntry key f entries).map Prod.fst).Nodup := by
  rw [keys_upsertEntry]
  split
  · exact h
  · rename_i hk
    refine List.nodup_append.mpr ⟨h, by simp, ?_⟩
    intro x hx y hy hxy
    rw [List.mem_singleton] at hy
    exact hk (hy ▸ hxy ▸ hx)

/-- A key finds its own new value, and every other key what it found before. -/
theorem lookup_upsertEntry [BEq κ] [LawfulBEq κ] (key : κ) (f : Option α → α)
    (entries : List (κ × α)) (other : κ) :
    (upsertEntry key f entries).lookup other =
      if other = key then some (f (entries.lookup key)) else entries.lookup other := by
  have hb {a b : κ} (h : ¬ a = b) : (a == b) = false := beq_eq_false_iff_ne.mpr h
  induction entries with
  | nil => by_cases h : other = key <;> simp [upsertEntry, List.lookup_cons, h, hb]
  | cons e rest ih =>
    obtain ⟨k, a⟩ := e
    by_cases he : k = key
    · subst he
      by_cases h : other = k <;> simp [upsertEntry, List.lookup_cons, h, hb]
    · have hk : ¬ key = k := fun hk => he hk.symm
      by_cases h : other = k <;> simp [upsertEntry, List.lookup_cons, he, hk, h, hb, ih]

@[ext] structure OrderedMap (κ α : Type) where
  entries : List (κ × α)
  nodup : (entries.map Prod.fst).Nodup

namespace OrderedMap

def empty : OrderedMap κ α := ⟨[], by simp⟩

instance : Inhabited (OrderedMap κ α) := ⟨empty⟩
instance [DecidableEq α] : DecidableEq (OrderedMap κ α) := fun s t =>
  decidable_of_iff (s.entries = t.entries) ⟨OrderedMap.ext, congrArg _⟩

def size (m : OrderedMap κ α) : Nat := m.entries.length

def upsert (m : OrderedMap κ α) (key : κ) (f : Option α → α) : OrderedMap κ α :=
  ⟨upsertEntry key f m.entries, nodup_keys_upsertEntry key f m.nodup⟩

def insert (m : OrderedMap κ α) (key : κ) (value : α) : OrderedMap κ α :=
  m.upsert key fun _ => value

def ofList (items : List (κ × α)) : OrderedMap κ α :=
  items.foldl (fun m e => m.insert e.1 e.2) empty

omit [DecidableEq κ] in
@[simp] theorem entries_empty : (empty : OrderedMap κ α).entries = [] := rfl

theorem upsertEntry_of_not_mem (key : κ) (f : Option α → α) {entries : List (κ × α)}
    (h : key ∉ entries.map Prod.fst) : upsertEntry key f entries = entries ++ [(key, f none)] := by
  induction entries with
  | nil => rfl
  | cons e rest ih =>
    simp only [List.map_cons, List.mem_cons, not_or] at h
    rw [upsertEntry, if_neg (fun he => h.1 he.symm), ih h.2, List.cons_append]

theorem entries_ofList {items : List (κ × α)} (h : (items.map Prod.fst).Nodup) :
    (ofList items).entries = items := by
  suffices hs : ∀ (m : OrderedMap κ α), (m.entries.map Prod.fst ++ items.map Prod.fst).Nodup →
      (items.foldl (fun m e => m.insert e.1 e.2) m).entries = m.entries ++ items by
    simpa [ofList] using hs empty (by simpa using h)
  intro m hm
  clear h
  induction items generalizing m with
  | nil => simp
  | cons e rest ih =>
    have hk : e.1 ∉ m.entries.map Prod.fst := fun hin =>
      (List.nodup_append.mp hm).2.2 _ hin e.1 (by simp) rfl
    have he : (m.insert e.1 e.2).entries = m.entries ++ [e] :=
      upsertEntry_of_not_mem e.1 _ hk
    rw [List.foldl_cons, ih (m.insert e.1 e.2) (by simpa [he] using hm), he]
    simp

end OrderedMap
end AutomatonChart
