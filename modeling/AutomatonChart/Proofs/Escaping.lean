import Mathlib.Data.List.Infix
import AutomatonChart.Proofs.ChartText

/-! # Escaped labels

Labels are escaped character by character, so a label that is put together is shown as its parts
are. Reading the entities of a shown label gives back the label, unless that holds an entity of its
own: the character that begins an entity occurs nowhere else in one, so no entity comes about where
an escaped mark meets its neighbours. Two labels are shown alike just if they read alike.
-/
namespace AutomatonChart

def quoteEntity : List Char := "#quot;".toList

def shownChar (c : Char) : List Char := if c = '"' then quoteEntity else [c]

def readEntities : List Char → List Char
  | '#' :: 'q' :: 'u' :: 'o' :: 't' :: ';' :: rest => '"' :: readEntities rest
  | c :: rest => c :: readEntities rest
  | [] => []

/-- Reads every `#quot;` as a quotation mark, from left to right and just once. -/
def unescapeLabel (text : String) : String := String.ofList (readEntities text.toList)

/-- The label holds no `#quot;`. -/
def EntityFree (label : String) : Prop := ¬quoteEntity <:+: label.toList

section Characters
variable {c : Char} {word cs rest : List Char}

theorem shownChar_of_ne (h : c ≠ '"') : shownChar c = [c] := if_neg h

theorem readEntities_entity_append (rest : List Char) :
    readEntities (quoteEntity ++ rest) = '"' :: readEntities rest := rfl

theorem readEntities_cons (h : ¬quoteEntity <+: c :: rest) :
    readEntities (c :: rest) = c :: readEntities rest := by
  rw [readEntities]
  rintro more rfl rfl
  exact h (List.prefix_append quoteEntity more)

/-- A word that no entity begins with, as it has no hash sign, begins the label if it begins what is
shown. -/
theorem prefix_of_prefix_shown (hhash : '#' ∉ word) (h : word <+: cs.flatMap shownChar) :
    word <+: cs := by
  induction word generalizing cs with
  | nil => exact List.nil_prefix
  | cons d word ih =>
    cases cs with
    | nil => exact absurd (List.prefix_nil.mp h) (List.cons_ne_nil d word)
    | cons c rest =>
      rw [List.flatMap_cons] at h
      by_cases hc : c = '"'
      · subst hc
        have hd : d = '#' := (List.cons_prefix_cons.mp h).1
        exact absurd (hd ▸ List.mem_cons_self) hhash
      · rw [shownChar_of_ne hc, List.singleton_append, List.cons_prefix_cons] at h
        obtain ⟨rfl, hword⟩ := h
        have hrest : '#' ∉ word := fun hm => hhash (List.mem_cons_of_mem d hm)
        exact List.cons_prefix_cons.mpr ⟨rfl, ih hrest hword⟩

theorem not_entity_prefix_shown (h : ¬quoteEntity <+: c :: rest) :
    ¬quoteEntity <+: c :: rest.flatMap shownChar := by
  have hentity : quoteEntity = '#' :: "quot;".toList := rfl
  rw [hentity] at h ⊢
  rintro hshown
  obtain ⟨hhash, hword⟩ := List.cons_prefix_cons.mp hshown
  have hrest : "quot;".toList <+: rest := prefix_of_prefix_shown (by decide) hword
  exact h (List.cons_prefix_cons.mpr ⟨hhash, hrest⟩)

/-- Each case of reading: an entity in front, another character, or nothing. -/
theorem entity_induction {motive : List Char → Prop} (nil : motive [])
    (entity : ∀ rest, motive rest → motive (quoteEntity ++ rest))
    (cons : ∀ c rest, ¬quoteEntity <+: c :: rest → motive rest → motive (c :: rest))
    (cs : List Char) : motive cs := by
  fun_induction readEntities cs with
  | case1 rest ih => exact entity rest ih
  | case2 c rest hother ih =>
    refine cons c rest ?_ ih
    rintro ⟨more, hmore⟩
    obtain ⟨hc, hrest⟩ := List.cons.inj hmore
    exact hother more hc.symm hrest.symm
  | case3 => exact nil

theorem readEntities_shown (cs : List Char) :
    readEntities (cs.flatMap shownChar) = readEntities cs := by
  induction cs using entity_induction with
  | nil => rfl
  | entity rest ih =>
    rw [List.flatMap_append]
    change readEntities (quoteEntity ++ _) = _
    rw [readEntities_entity_append, readEntities_entity_append, ih]
  | cons c rest hother ih =>
    rw [List.flatMap_cons, readEntities_cons hother]
    by_cases hc : c = '"'
    · subst hc
      exact congrArg _ ih
    · rw [shownChar_of_ne hc, List.singleton_append,
        readEntities_cons (not_entity_prefix_shown hother), ih]

theorem shown_readEntities (cs : List Char) :
    (readEntities cs).flatMap shownChar = cs.flatMap shownChar := by
  induction cs using entity_induction with
  | nil => rfl
  | entity rest ih =>
    rw [readEntities_entity_append, List.flatMap_cons, List.flatMap_append, ih]
    rfl
  | cons c rest hother ih =>
    rw [readEntities_cons hother, List.flatMap_cons, List.flatMap_cons, ih]

theorem readEntities_eq_self_iff (cs : List Char) :
    readEntities cs = cs ↔ ¬quoteEntity <:+: cs := by
  induction cs using entity_induction with
  | nil => exact ⟨fun _ => by decide, fun _ => rfl⟩
  | entity rest ih =>
    have hinfix : quoteEntity <:+: quoteEntity ++ rest := (List.prefix_append _ _).isInfix
    refine ⟨fun h => ?_, fun h => absurd hinfix h⟩
    rw [readEntities_entity_append] at h
    exact absurd (List.cons.inj h).1 (by decide)
  | cons c rest hother ih =>
    rw [readEntities_cons hother, List.cons.injEq, List.infix_cons_iff, ih]
    simp [hother]

end Characters

section Labels
variable {a b : String}

theorem toList_escapeLabel (label : String) :
    (escapeLabel label).toList = label.toList.flatMap shownChar :=
  String.toList_ofList

theorem escapeLabel_append (a b : String) :
    escapeLabel (a ++ b) = escapeLabel a ++ escapeLabel b := by
  apply String.toList_inj.mp
  rw [String.toList_append, toList_escapeLabel, toList_escapeLabel, toList_escapeLabel,
    String.toList_append, List.flatMap_append]

theorem escapeLabel_eq_self (h : '"' ∉ a.toList) : escapeLabel a = a := by
  apply String.toList_inj.mp
  rw [toList_escapeLabel]
  have hshown : ∀ c ∈ a.toList, shownChar c = [c] := fun c hc =>
    shownChar_of_ne fun hmark => h (hmark ▸ hc)
  rw [List.flatMap_congr hshown, List.flatMap_singleton']

theorem escapeLabel_intercalate (symbols : List String) :
    escapeLabel (String.intercalate "," symbols) =
      String.intercalate "," (symbols.map escapeLabel) := by
  have hcomma : escapeLabel "," = "," := escapeLabel_eq_self (by decide)
  induction symbols with
  | nil => rfl
  | cons s rest ih =>
    cases rest with
    | nil => simp
    | cons t rest =>
      rw [String.intercalate_cons_cons, escapeLabel_append, escapeLabel_append, ih, hcomma,
        List.map_cons, List.map_cons, List.map_cons, String.intercalate_cons_cons]

theorem unescapeLabel_escapeLabel (label : String) :
    unescapeLabel (escapeLabel label) = unescapeLabel label := by
  rw [unescapeLabel, unescapeLabel, toList_escapeLabel, readEntities_shown]

theorem escapeLabel_unescapeLabel (label : String) :
    escapeLabel (unescapeLabel label) = escapeLabel label := by
  apply String.toList_inj.mp
  rw [toList_escapeLabel, toList_escapeLabel, unescapeLabel, String.toList_ofList,
    shown_readEntities]

theorem unescapeLabel_eq_self_iff : unescapeLabel a = a ↔ EntityFree a := by
  rw [EntityFree, ← readEntities_eq_self_iff, unescapeLabel, ← String.toList_inj,
    String.toList_ofList]

theorem escapeLabel_eq_iff : escapeLabel a = escapeLabel b ↔ unescapeLabel a = unescapeLabel b := by
  constructor
  · intro h
    rw [← unescapeLabel_escapeLabel a, h, unescapeLabel_escapeLabel]
  · intro h
    rw [← escapeLabel_unescapeLabel a, h, escapeLabel_unescapeLabel]

/-- A label is shown without quotation marks, so that escaping it again changes nothing, and in
pieces as it is put together, symbols joined by commas among them. Reading the entities gives back
the label just if it holds none of its own, so two such labels are never shown alike; any two are
shown alike just if they read alike. -/
theorem escapeLabel_reversible (label : String) :
    '"' ∉ (escapeLabel label).toList ∧
      escapeLabel (escapeLabel label) = escapeLabel label ∧
      (∀ other, escapeLabel (label ++ other) = escapeLabel label ++ escapeLabel other) ∧
      (∀ symbols, escapeLabel (String.intercalate "," symbols) =
        String.intercalate "," (symbols.map escapeLabel)) ∧
      (unescapeLabel (escapeLabel label) = label ↔ EntityFree label) ∧
      (∀ other, EntityFree label → EntityFree other →
        (escapeLabel label = escapeLabel other ↔ label = other)) ∧
      ∀ other, escapeLabel label = escapeLabel other ↔
        unescapeLabel label = unescapeLabel other := by
  refine ⟨not_mem_escapeLabel label, escapeLabel_eq_self (not_mem_escapeLabel label),
    escapeLabel_append label, escapeLabel_intercalate, ?_, ?_, fun _ => escapeLabel_eq_iff⟩
  · rw [unescapeLabel_escapeLabel, unescapeLabel_eq_self_iff]
  · intro other hlabel hother
    rw [escapeLabel_eq_iff, unescapeLabel_eq_self_iff.mpr hlabel,
      unescapeLabel_eq_self_iff.mpr hother]

/-- Pieces of an entity on both sides of a quotation mark make none. -/
example : unescapeLabel (escapeLabel "#qu\"ot;") = "#qu\"ot;" := by decide

end Labels
end AutomatonChart
