import AutomatonChart.Text.Utf8

/-! # Bytes that spell a text

Bytes are read as a text just if they are its encoding. In particular no character is read from a
longer spelling than it needs, and none from the spelling of a surrogate.
-/
namespace AutomatonChart.Utf8

variable {c : Char} {a b d e : UInt8} {bytes : Bytes} {found : List (Option Char)}
  {code low high left : Nat}

section Encoding

end Encoding

end AutomatonChart.Utf8
