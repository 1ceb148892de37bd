import AutomatonChart.Flowchart.Chart
import AutomatonChart.Proofs.Groups

/-! # Where a key is cut

A key can be cut at each of its commas. The resolver looks at the last cut and at the first one
only, so a source that ends at a comma between these two is not found, even if no other cut leaves
a declared state in front.
-/
namespace AutomatonChart

namespace Key

def cutAll (separator : Char) : List Char → List (List Char × List Char)
  | [] => []
  | c :: rest =>
    let later := (cutAll separator rest).map fun p => (c :: p.1, p.2)
    if c = separator then ([], rest) :: later else later

theorem head?_cutAll (c : Char) (cs : List Char) : (cutAll c cs).head? = cutFirst c cs := by
  induction cs with
  | nil => rfl
  | cons x rest ih =>
    by_cases hx : x = c
    · simp [cutAll, cutFirst, hx]
    · simp [cutAll, cutFirst, hx, ih]

theorem getLast?_cutAll (c : Char) (cs : List Char) : (cutAll c cs).getLast? = cutLast c cs := by
  induction cs with
  | nil => rfl
  | cons x rest ih =>
    cases hr : cutLast c rest with
    | none =>
      have hn : cutAll c rest = [] := List.getLast?_eq_none_iff.mp (ih.trans hr)
      by_cases hx : x = c <;> simp [cutAll, cutLast, hn, hr, hx]
    | some p =>
      rw [hr] at ih
      by_cases hx : x = c <;> simp [cutAll, cutLast, List.getLast?_cons, ih, hr, hx]

theorem mem_cutAll {c : Char} {cs : List Char} {p : List Char × List Char} :
    p ∈ cutAll c cs ↔ p.1 ++ c :: p.2 = cs := by
  induction cs generalizing p with
  | nil => simp [cutAll]
  | cons x rest ih =>
    obtain ⟨front, back⟩ := p
    have hlater : (front, back) ∈ (cutAll c rest).map (fun p => (x :: p.1, p.2)) ↔
        ∃ front', x :: front' = front ∧ front' ++ c :: back = rest := by
      simp only [List.mem_map, Prod.mk.injEq]
      constructor
      · rintro ⟨q, hq, rfl, rfl⟩
        exact ⟨q.1, rfl, ih.mp hq⟩
      · rintro ⟨front', rfl, hr⟩
        exact ⟨(front', back), ih.mpr hr, rfl, rfl⟩
    by_cases hx : x = c
    · simp only [cutAll, if_pos hx, List.mem_cons, hlater]
      cases front <;> simp [hx, eq_comm]
    · simp only [cutAll, if_neg hx, hlater]
      cases front <;> simp [Ne.symm hx, eq_comm]

/-- The ways to cut a key at a comma, from its first comma to its last. -/
def cuts (key : String) : List (String × String) := (cutAll ',' key.toList).map texts

theorem split_eq_getLast? (key : String) : split key = (cuts key).getLast? := by
  rw [split, ← getLast?_cutAll, cuts, List.getLast?_map]

theorem splitFirst_eq_head? (key : String) : splitFirst key = (cuts key).head? := by
  rw [splitFirst, ← head?_cutAll, cuts, List.head?_map]

theorem mem_cuts {key : String} {p : String × String} : p ∈ cuts key ↔ join p.1 p.2 = key := by
  constructor
  · intro h
    obtain ⟨q, hq, rfl⟩ := List.mem_map.mp h
    rw [join_texts (mem_cutAll.mp hq).symm, String.ofList_toList]
  · rintro rfl
    refine List.mem_map.mpr ⟨(p.1.toList, p.2.toList), mem_cutAll.mpr ?_, ?_⟩
    · simp [join]
    · simp [texts]

section Resolution
variable {known : String → Bool} {key : String} {first last : String × String}

theorem resolve_of_known_last (hl : (cuts key).getLast? = some last) (hk : known last.1 = true) :
    resolve known key = some last := by
  simp only [resolve, split_eq_getLast?, hl, if_pos hk]

theorem resolve_of_known_first (hl : (cuts key).getLast? = some last) (hn : known last.1 = false)
    (hf : (cuts key).head? = some first) (hk : known first.1 = true) :
    resolve known key = some first := by
  simp [resolve, split_eq_getLast?, splitFirst_eq_head?, hl, hn, hf, Option.filter, hk]

theorem resolve_of_unknown (hl : (cuts key).getLast? = some last) (hn : known last.1 = false)
    (hf : (cuts key).head? = some first) (hk : known first.1 = false) :
    resolve known key = some last := by
  simp [resolve, split_eq_getLast?, splitFirst_eq_head?, hl, hn, hf, Option.filter, hk]

/-- A cut at the first comma of a key or at its last one. -/
def IsOuter (key : String) (cut : String × String) : Prop :=
  (cuts key).head? = some cut ∨ (cuts key).getLast? = some cut

instance (key : String) (cut : String × String) : Decidable (IsOuter key cut) :=
  inferInstanceAs (Decidable (_ ∨ _))

variable {cut : String × String}

theorem eq_of_unique_known (h : (cuts key).filter (fun p => known p.1) = [cut])
    {p : String × String} (hp : p ∈ cuts key) (hk : known p.1 = true) : p = cut := by
  have hm : p ∈ (cuts key).filter (fun p => known p.1) := List.mem_filter.mpr ⟨hp, hk⟩
  rw [h] at hm
  exact List.mem_singleton.mp hm

theorem mem_of_unique_known (h : (cuts key).filter (fun p => known p.1) = [cut]) :
    cut ∈ cuts key ∧ known cut.1 = true :=
  List.mem_filter.mp (h ▸ List.mem_singleton_self cut)

theorem exists_getLast?_cuts (h : cut ∈ cuts key) : ∃ last, (cuts key).getLast? = some last :=
  ⟨_, List.getLast?_eq_some_getLast (List.ne_nil_of_mem h)⟩

theorem resolve_of_outer (h : (cuts key).filter (fun p => known p.1) = [cut])
    (ho : IsOuter key cut) : resolve known key = some cut := by
  obtain ⟨hm, hk⟩ := mem_of_unique_known h
  rcases ho with hf | hl
  · obtain ⟨last, hl⟩ := exists_getLast?_cuts hm
    cases hkl : known last.1 with
    | true =>
      have he := eq_of_unique_known h (List.mem_of_getLast? hl) hkl
      exact he ▸ resolve_of_known_last hl hkl
    | false => exact resolve_of_known_first hl hkl hf hk
  · exact resolve_of_known_last hl hk

/-- The only cut with a known source is passed over if it is neither the first nor the last. -/
theorem resolve_of_not_outer (h : (cuts key).filter (fun p => known p.1) = [cut])
    (ho : ¬IsOuter key cut) : ∃ last, (cuts key).getLast? = some last ∧ known last.1 = false ∧
      resolve known key = some last := by
  obtain ⟨hm, -⟩ := mem_of_unique_known h
  obtain ⟨last, hl⟩ := exists_getLast?_cuts hm
  obtain ⟨first, hf⟩ : ∃ first, (cuts key).head? = some first :=
    ⟨_, List.head?_eq_some_head (List.ne_nil_of_mem hm)⟩
  have hkl : known last.1 = false := by
    rw [← Bool.not_eq_true]
    intro hk
    exact ho (Or.inr (eq_of_unique_known h (List.mem_of_getLast? hl) hk ▸ hl))
  have hkf : known first.1 = false := by
    rw [← Bool.not_eq_true]
    intro hk
    exact ho (Or.inl (eq_of_unique_known h (List.mem_of_head? hf) hk ▸ hf))
  exact ⟨last, hl, hkl, resolve_of_unknown hl hkl hf hkf⟩

end Resolution
end Key

namespace Description

theorem mem_resolved_iff {d : Description} {entry cut : String × String}
    (he : entry ∈ d.transitions.entries) (hc : Key.join cut.1 cut.2 = entry.1) :
    (⟨cut.1, cut.2, entry.2⟩ : Transition) ∈ d.resolved ↔
      Key.resolve d.declares entry.1 = some cut := by
  constructor
  · intro h
    obtain ⟨other, -, ho⟩ := List.mem_filterMap.mp h
    have hkey : other.1 = entry.1 := (congrArg Prod.fst (eq_of_resolveEntry ho)).trans hc
    obtain ⟨p, hp, ht⟩ := Option.map_eq_some_iff.mp ho
    obtain ⟨hsource, hsymbol, -⟩ := Transition.mk.inj ht
    have hpc : p = cut := Prod.ext hsource hsymbol
    rw [← hkey, hp, hpc]
  · intro h
    exact List.mem_filterMap.mpr ⟨entry, he, by rw [resolveEntry, h]; rfl⟩

theorem declares_iff {d : Description} {label : String} :
    d.declares label = true ↔ label ∈ d.states := by
  rw [declares, List.contains_iff_mem]

/-- Of a key with just one comma behind a declared label, that comma divides the key if it is the
first or the last one. Otherwise the key is divided at its last comma, its source is not declared
and the transition is not drawn. -/
theorem unique_known_cut_resolved_iff {d : Description} {entry cut : String × String}
    (he : entry ∈ d.transitions.entries)
    (hu : (Key.cuts entry.1).filter (fun p => d.declares p.1) = [cut]) :
    ((⟨cut.1, cut.2, entry.2⟩ : Transition) ∈ d.resolved ↔ Key.IsOuter entry.1 cut) ∧
    (d.Draws ⟨cut.1, cut.2, entry.2⟩ ↔ Key.IsOuter entry.1 cut ∧ entry.2 ∈ d.states) ∧
    (¬Key.IsOuter entry.1 cut → ∃ last, (Key.cuts entry.1).getLast? = some last ∧
      last.1 ∉ d.states ∧ (⟨last.1, last.2, entry.2⟩ : Transition) ∈ d.resolved) := by
  obtain ⟨hcut, hdecl⟩ := Key.mem_of_unique_known hu
  have hsource := declares_iff.mp hdecl
  rw [draws_iff, mem_resolved_iff he (Key.mem_cuts.mp hcut)]
  by_cases ho : Key.IsOuter entry.1 cut
  · have hr := Key.resolve_of_outer hu ho
    refine ⟨iff_of_true hr ho, ?_, fun h => absurd ho h⟩
    exact ⟨fun h => ⟨ho, h.2.2⟩, fun h => ⟨hr, hsource, h.2⟩⟩
  · obtain ⟨last, hl, hkl, hr⟩ := Key.resolve_of_not_outer hu ho
    have hundeclared : last.1 ∉ d.states := by
      rwa [← declares_iff, Bool.not_eq_true]
    have hne : Key.resolve d.declares entry.1 ≠ some cut := by
      intro h
      rw [hr, Option.some.injEq] at h
      exact hundeclared (h ▸ hsource)
    have hlast := Key.mem_cuts.mp (List.mem_of_getLast? hl)
    refine ⟨iff_of_false hne ho, ?_, fun _ => ⟨last, hl, hundeclared, ?_⟩⟩
    · exact iff_of_false (fun h => hne h.1) (fun h => ho h.1)
    · exact (mem_resolved_iff he hlast).mpr hr

def commaExample : Description where
  states := ["q0", "a,b"]
  transitions := .ofList [("q0,,", "a,b"), ("a,b,,", "a,b")]

theorem comma_symbol_resolved_and_drawn :
    (⟨"q0", ",", "a,b"⟩ : Transition) ∈ commaExample.resolved ∧
      commaExample.Draws ⟨"q0", ",", "a,b"⟩ ∧ ¬commaExample.Draws ⟨"a,b", ",", "a,b"⟩ := by
  have hfirst := @unique_known_cut_resolved_iff commaExample ("q0,,", "a,b") ("q0", ",")
    (by decide) (by decide)
  have hmiddle := @unique_known_cut_resolved_iff commaExample ("a,b,,", "a,b") ("a,b", ",")
    (by decide) (by decide)
  have hmissed : ¬Key.IsOuter "a,b,," ("a,b", ",") := by decide
  exact ⟨hfirst.1.mpr (by decide), hfirst.2.1.mpr (by decide), fun h =>
    hmissed (hmiddle.2.1.mp h).1⟩

/-- One declared label stands before a comma that is neither the first nor the last. -/
theorem middle_comma_source_lost :
    ¬∀ (d : Description) (entry cut : String × String), entry ∈ d.transitions.entries →
      (Key.cuts entry.1).filter (fun p => d.declares p.1) = [cut] →
      (⟨cut.1, cut.2, entry.2⟩ : Transition) ∈ d.resolved := by
  intro h
  have hlost := h commaExample ("a,b,,", "a,b") ("a,b", ",") (by decide) (by decide)
  revert hlost
  decide

end Description
end AutomatonChart
