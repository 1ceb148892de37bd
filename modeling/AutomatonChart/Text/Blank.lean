import AutomatonChart.Text.Ranges

/-! # Blanks

The characters with the property White_Space, trimming them off both ends of a text, and the
texts that hold nothing else. A text is blank exactly when trimming leaves nothing.
-/
namespace AutomatonChart.Text

def blankRanges : CodeRanges :=
  [(0x09, 0x0D), (0x20, 0x20), (0x85, 0x85), (0xA0, 0xA0), (0x1680, 0x1680), (0x2000, 0x200A),
    (0x2028, 0x2029), (0x202F, 0x202F), (0x205F, 0x205F), (0x3000, 0x3000)]

def isBlankChar (c : Char) : Bool := blankRanges.contains c

def dropTrailing (p : Char → Bool) (cs : List Char) : List Char :=
  (cs.reverse.dropWhile p).reverse

def trim (s : String) : String :=
  String.ofList (dropTrailing isBlankChar (s.toList.dropWhile isBlankChar))

def isBlank (s : String) : Bool := s.toList.all isBlankChar

theorem dropWhile_eq_nil {p : Char → Bool} {cs : List Char} :
    cs.dropWhile p = [] ↔ cs.all p = true := by
  induction cs with
  | nil => simp
  | cons c r ih => by_cases h : p c = true <;> simp_all

theorem dropTrailing_eq_nil {p : Char → Bool} {cs : List Char} :
    dropTrailing p cs = [] ↔ cs.all p = true := by
  rw [dropTrailing, List.reverse_eq_nil_iff, dropWhile_eq_nil, List.all_reverse]

theorem trim_eq_empty {s : String} : trim s = "" ↔ isBlank s = true := by
  rw [trim, isBlank, ← String.toList_inj, String.toList_ofList]
  constructor
  · intro h
    have hall := dropTrailing_eq_nil.mp h
    have hnil : s.toList.dropWhile isBlankChar = [] := by
      cases hd : s.toList.dropWhile isBlankChar with
      | nil => rfl
      | cons c r =>
        have hne : s.toList.dropWhile isBlankChar ≠ [] := by simp [hd]
        have hc := List.head_dropWhile_not isBlankChar hne
        simp only [hd, List.head_cons] at hc
        simp [hd, hc] at hall
    exact dropWhile_eq_nil.mp hnil
  · intro h
    rw [dropWhile_eq_nil.mpr h]
    rfl

end AutomatonChart.Text
