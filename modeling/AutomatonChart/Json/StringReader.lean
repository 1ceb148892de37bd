import AutomatonChart.Json.Cursor

/-! # Reading strings

The characters up to the closing quotation mark, with escapes undone. A character beyond U+FFFF
may be written as two consecutive hexadecimal escapes, the halves of a surrogate pair; a half that
stands alone is refused.
-/
namespace AutomatonChart.Json.StringReader

def hexValue? (c : Char) : Option Nat :=
  if '0' ≤ c ∧ c ≤ '9' then some (c.toNat - '0'.toNat)
  else if 'a' ≤ c ∧ c ≤ 'f' then some (c.toNat - 'a'.toNat + 10)
  else if 'A' ≤ c ∧ c ≤ 'F' then some (c.toNat - 'A'.toNat + 10)
  else none

def hexUnit? (a b c d : Char) : Option Nat :=
  match hexValue? a, hexValue? b, hexValue? c, hexValue? d with
  | some a, some b, some c, some d => some (((a * 16 + b) * 16 + c) * 16 + d)
  | _, _, _, _ => none

def byteLength (cs : List Char) : Nat := cs.foldr (fun c n => c.utf8Size + n) 0

def hexError (p : Position) (rest : List Char) : SyntaxError :=
  if byteLength rest < 4 then ⟨.endInString, p.advanceBytes 4 rest⟩
  else ⟨.invalidEscape, p.advanceBytes 4 rest⟩

def simpleEscape? : Char → Option Char
  | '"' => some '"'
  | '\\' => some '\\'
  | '/' => some '/'
  | 'b' => some '\x08'
  | 'f' => some '\x0c'
  | 'n' => some '\n'
  | 'r' => some '\r'
  | 't' => some '\t'
  | _ => none

def isHighHalf (unit : Nat) : Bool := 0xD800 ≤ unit && unit ≤ 0xDBFF
def isLowHalf (unit : Nat) : Bool := 0xDC00 ≤ unit && unit ≤ 0xDFFF

def pairChar (high low : Nat) : Char :=
  Char.ofNat ((high - 0xD800) * 0x400 + (low - 0xDC00) + 0x10000)

/-- Reads up to the closing quotation mark. `open?` is the high half of a pair whose low half must
come next; `done` holds the characters read so far, last one first. -/
def readFrom (done : List Char) (open? : Option Nat) :
    List Char → Position → Except SyntaxError (Found String)
  | [], p => .error ⟨.endInString, p⟩
  | '\\' :: [], p => .error ⟨.endInString, p.advance '\\'⟩
  | '\\' :: 'u' :: a :: b :: c :: d :: rest, p =>
    let behind := (p.advance '\\').advance 'u'
    match hexUnit? a b c d with
    | none => .error (hexError behind (a :: b :: c :: d :: rest))
    | some unit =>
      let q := behind.advanceBytes 4 [a, b, c, d]
      match open? with
      | some high =>
        if isLowHalf unit then readFrom (pairChar high unit :: done) none rest q
        else .error ⟨.loneSurrogate, q⟩
      | none =>
        if isLowHalf unit then .error ⟨.loneSurrogate, q⟩
        else if isHighHalf unit then readFrom done (some unit) rest q
        else readFrom (Char.ofNat unit :: done) none rest q
  | '\\' :: e :: rest, p =>
    let behind := p.advance '\\'
    if e = 'u' then .error (hexError (behind.advance 'u') rest)
    else if open?.isSome then .error ⟨.endOfHexEscape, behind.bump e⟩
    else match simpleEscape? e with
      | some c => readFrom (c :: done) none rest (behind.advance e)
      | none => .error ⟨.invalidEscape, behind.bump e⟩
  | c :: rest, p =>
    if open?.isSome then .error ⟨.endOfHexEscape, p.bump c⟩
    else if c = '"' then .ok (String.ofList done.reverse, ⟨rest, p.advance c⟩)
    else if c.toNat < 0x20 then .error ⟨.controlCharacter, p.bump c⟩
    else readFrom (c :: done) none rest (p.advance c)

def read (cur : Cursor) : Except SyntaxError (Found String) :=
  readFrom [] none cur.rest cur.position

end AutomatonChart.Json.StringReader
