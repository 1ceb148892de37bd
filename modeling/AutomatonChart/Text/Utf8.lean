/-! # UTF-8

Bytes and the text they spell. Decoding is a machine that takes one byte at a time: it either
waits for a fresh character or for the remaining bytes of one, and every sequence that cannot be
completed counts as one invalid piece. Decoding what was encoded gives the text back.
-/
namespace AutomatonChart

abbrev Bytes := List UInt8

namespace Utf8

def encode (s : String) : Bytes := s.toList.flatMap String.utf8EncodeChar

/-- Where the decoder stands: before a character, or inside one whose next byte must lie between
`low` and `high` and which needs `left` bytes after that. -/
inductive Expecting where
  | fresh
  | more (code low high left : Nat)

/-- The effect of a byte that begins a character: the pieces it completes and what comes next. -/
def lead (b : UInt8) : List (Option Char) × Expecting :=
  let n := b.toNat
  if n < 0x80 then ([some (Char.ofNat n)], .fresh)
  else if n < 0xC2 then ([none], .fresh)
  else if n < 0xE0 then ([], .more (n - 0xC0) 0x80 0xBF 0)
  else if n < 0xF0 then
    ([], .more (n - 0xE0) (if n = 0xE0 then 0xA0 else 0x80) (if n = 0xED then 0x9F else 0xBF) 1)
  else if n < 0xF5 then
    ([], .more (n - 0xF0) (if n = 0xF0 then 0x90 else 0x80) (if n = 0xF4 then 0x8F else 0xBF) 2)
  else ([none], .fresh)

/-- One byte of input. A byte that does not continue the open character ends it as invalid and
begins anew. -/
def step : Expecting → UInt8 → List (Option Char) × Expecting
  | .fresh, b => lead b
  | .more code low high left, b =>
    if low ≤ b.toNat ∧ b.toNat ≤ high then
      match left with
      | 0 => ([some (Char.ofNat (code * 64 + (b.toNat - 0x80)))], .fresh)
      | left + 1 => ([], .more (code * 64 + (b.toNat - 0x80)) 0x80 0xBF left)
    else (none :: (lead b).1, (lead b).2)

/-- The characters that the bytes spell, with `none` for each invalid piece. -/
def pieces : Expecting → Bytes → List (Option Char)
  | .fresh, [] => []
  | .more .., [] => [none]
  | e, b :: rest => (step e b).1 ++ pieces (step e b).2 rest

def decode? (bytes : Bytes) : Option String :=
  let found := pieces .fresh bytes
  if found.all Option.isSome then some (String.ofList (found.filterMap id)) else none

/-- The text of any byte sequence, with U+FFFD in place of each invalid piece. -/
def decodeLossy (bytes : Bytes) : String :=
  String.ofList ((pieces .fresh bytes).map (·.getD '\uFFFD'))

theorem pieces_encodeChar (c : Char) (rest : Bytes) :
    pieces .fresh (String.utf8EncodeChar c ++ rest) = some c :: pieces .fresh rest := by
  have hv : c.toNat < 0xD800 ∨ (0xDFFF < c.toNat ∧ c.toNat < 0x110000) := c.valid
  have hc : Char.ofNat c.toNat = c := Char.ofNat_toNat c
  have hn : c.val.toNat = c.toNat := rfl
  simp only [String.utf8EncodeChar, hn]
  generalize c.toNat = n at hv hc
  split
  · simp only [List.cons_append, List.nil_append, pieces, step, lead, UInt8.toNat_ofNat']
    rw [if_pos (by omega), show n % 2 ^ 8 = n by omega, hc]; rfl
  · split
    · simp only [List.cons_append, List.nil_append, pieces, step, lead, UInt8.toNat_ofNat']
      rw [if_neg (by omega), if_neg (by omega), if_pos (by omega)]
      simp only [List.nil_append, UInt8.toNat_ofNat']
      rw [if_pos (by omega)]
      rw [show ((n / 64 % 32 + 192) % 2 ^ 8 - 192) * 64 +
        ((n % 64 + 128) % 2 ^ 8 - 128) = n by omega, hc]
      rfl
    · split
      · simp only [List.cons_append, List.nil_append, pieces, step, lead, UInt8.toNat_ofNat']
        rw [if_neg (by omega), if_neg (by omega), if_neg (by omega), if_pos (by omega)]
        simp only [List.nil_append, UInt8.toNat_ofNat']
        rw [if_pos (by constructor <;> split <;> omega)]
        simp only [List.nil_append, UInt8.toNat_ofNat']
        rw [if_pos (by omega)]
        rw [show (((n / 4096 % 16 + 224) % 2 ^ 8 - 224) * 64 +
          ((n / 64 % 64 + 128) % 2 ^ 8 - 128)) * 64 +
          ((n % 64 + 128) % 2 ^ 8 - 128) = n by omega, hc]
        rfl
      · simp only [List.cons_append, List.nil_append, pieces, step, lead, UInt8.toNat_ofNat']
        rw [if_neg (by omega), if_neg (by omega), if_neg (by omega), if_neg (by omega),
          if_pos (by omega)]
        simp only [List.nil_append, UInt8.toNat_ofNat']
        rw [if_pos (by constructor <;> split <;> omega)]
        simp only [List.nil_append, UInt8.toNat_ofNat']
        rw [if_pos (by omega)]
        simp only [List.nil_append, UInt8.toNat_ofNat']
        rw [if_pos (by omega)]
        rw [show ((((n / 262144 % 8 + 240) % 2 ^ 8 - 240) * 64 +
          ((n / 4096 % 64 + 128) % 2 ^ 8 - 128)) * 64 + ((n / 64 % 64 + 128) % 2 ^ 8 - 128)) * 64 +
          ((n % 64 + 128) % 2 ^ 8 - 128) = n by omega, hc]
        rfl

theorem pieces_flatMap (cs : List Char) :
    pieces .fresh (cs.flatMap String.utf8EncodeChar) = cs.map some := by
  induction cs with
  | nil => rfl
  | cons c r ih => rw [List.flatMap_cons, pieces_encodeChar, ih, List.map_cons]

@[simp] theorem decodeLossy_encode (s : String) : decodeLossy (encode s) = s := by
  simp [decodeLossy, encode, pieces_flatMap, Function.comp_def]

@[simp] theorem decode?_encode (s : String) : decode? (encode s) = some s := by
  simp [decode?, encode, pieces_flatMap, Function.comp_def]

end Utf8
end AutomatonChart
