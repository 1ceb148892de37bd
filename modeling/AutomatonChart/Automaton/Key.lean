/-! # Transition keys

A key `source,symbol` names a transition in one text. Labels and symbols may hold commas
themselves, so a key is cut at its last comma, or at its first one when only that leaves a known
state in front. Either cut can be joined again to the key.
-/
namespace AutomatonChart.Key

def cutFirst (separator : Char) : List Char → Option (List Char × List Char)
  | [] => none
  | c :: rest =>
    if c = separator then some ([], rest)
    else (cutFirst separator rest).map fun p => (c :: p.1, p.2)

def cutLast (separator : Char) : List Char → Option (List Char × List Char)
  | [] => none
  | c :: rest =>
    match cutLast separator rest with
    | some p => some (c :: p.1, p.2)
    | none => if c = separator then some ([], rest) else none

def texts (p : List Char × List Char) : String × String := (String.ofList p.1, String.ofList p.2)

/-- The parts before and after the last comma. -/
def split (key : String) : Option (String × String) := (cutLast ',' key.toList).map texts

/-- The parts before and after the first comma. -/
def splitFirst (key : String) : Option (String × String) := (cutFirst ',' key.toList).map texts

/-- The last comma divides the key if the text before it is known; otherwise the first one does if
the text before that is known; if neither is, the last one after all. -/
def resolve (known : String → Bool) (key : String) : Option (String × String) :=
  match split key with
  | none => none
  | some last =>
    if known last.1 then some last
    else ((splitFirst key).filter fun first => known first.1).or (some last)

def join (source symbol : String) : String := source ++ "," ++ symbol

theorem cutFirst_join {c : Char} {cs : List Char} {p : List Char × List Char}
    (h : cutFirst c cs = some p) : cs = p.1 ++ c :: p.2 ∧ c ∉ p.1 := by
  induction cs generalizing p with
  | nil => simp [cutFirst] at h
  | cons x rest ih =>
    by_cases hx : x = c
    · rw [cutFirst, if_pos hx, Option.some.injEq] at h
      subst h
      simp [hx]
    · rw [cutFirst, if_neg hx] at h
      obtain ⟨q, hq, rfl⟩ := Option.map_eq_some_iff.mp h
      obtain ⟨he, hn⟩ := ih hq
      exact ⟨by simp [he], by simp [hn, Ne.symm hx]⟩

theorem cutLast_eq_none {c : Char} {cs : List Char} : cutLast c cs = none ↔ c ∉ cs := by
  induction cs with
  | nil => simp [cutLast]
  | cons x rest ih =>
    rw [cutLast]
    cases hr : cutLast c rest with
    | some q =>
      have hm : c ∈ rest := by
        by_cases hc : c ∈ rest
        · exact hc
        · rw [ih.mpr hc] at hr; cases hr
      simp [hm]
    | none =>
      have hm := ih.mp hr
      by_cases hx : x = c
      · simp [hx]
      · simp [hx, hm, Ne.symm hx]

theorem cutLast_join {c : Char} {cs : List Char} {p : List Char × List Char}
    (h : cutLast c cs = some p) : cs = p.1 ++ c :: p.2 ∧ c ∉ p.2 := by
  induction cs generalizing p with
  | nil => simp [cutLast] at h
  | cons x rest ih =>
    rw [cutLast] at h
    cases hr : cutLast c rest with
    | some q =>
      rw [hr] at h
      obtain ⟨he, hn⟩ := ih hr
      have hp := Option.some.inj h
      subst hp
      exact ⟨by simp [he], hn⟩
    | none =>
      rw [hr] at h
      by_cases hx : x = c
      · rw [if_pos hx, Option.some.injEq] at h
        subst h
        exact ⟨by simp [hx], cutLast_eq_none.mp hr⟩
      · simp [hx] at h

theorem join_texts {c : List Char} {p : List Char × List Char} (h : c = p.1 ++ ',' :: p.2) :
    join (texts p).1 (texts p).2 = String.ofList c := by
  rw [← String.toList_inj, String.toList_ofList]
  simp [join, texts, h]

theorem join_of_split {key : String} {p : String × String} (h : split key = some p) :
    join p.1 p.2 = key := by
  obtain ⟨q, hq, rfl⟩ := Option.map_eq_some_iff.mp h
  rw [join_texts (cutLast_join hq).1, String.ofList_toList]

theorem join_of_splitFirst {key : String} {p : String × String} (h : splitFirst key = some p) :
    join p.1 p.2 = key := by
  obtain ⟨q, hq, rfl⟩ := Option.map_eq_some_iff.mp h
  rw [join_texts (cutFirst_join hq).1, String.ofList_toList]

theorem join_of_resolve {known : String → Bool} {key : String} {p : String × String}
    (h : resolve known key = some p) : join p.1 p.2 = key := by
  unfold resolve at h
  split at h
  · cases h
  · rename_i last hl
    split at h
    · rw [← Option.some.inj h]; exact join_of_split hl
    · rcases Option.or_eq_some_iff.mp h with hf | ⟨-, hf⟩
      · exact join_of_splitFirst (Option.filter_eq_some_iff.mp hf).1
      · rw [← Option.some.inj hf]; exact join_of_split hl

end AutomatonChart.Key
