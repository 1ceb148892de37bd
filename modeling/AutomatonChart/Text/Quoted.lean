import AutomatonChart.Text.Unprintable

/-! # Quoted text

A text between quotation marks in which every character can be told: line breaks, tabs and zero
have short escapes, quotation marks and backslashes are escaped, and what has no shape of its own
is written by its code point.
-/
namespace AutomatonChart.Text

def quotedChar (c : Char) : List Char :=
  if c = '"' then ['\\', '"']
  else if c = '\\' then ['\\', '\\']
  else if c = '\n' then ['\\', 'n']
  else if c = '\r' then ['\\', 'r']
  else if c = '\t' then ['\\', 't']
  else if c.toNat = 0 then ['\\', '0']
  else if isUnprintable c then ['\\', 'u', '{'] ++ Nat.toDigits 16 c.toNat ++ ['}']
  else [c]

def quoted (s : String) : String := "\"" ++ String.ofList (s.toList.flatMap quotedChar) ++ "\""

end AutomatonChart.Text
