import AutomatonChart.Service.Config
import AutomatonChart.Text.Alphanumeric
import AutomatonChart.Text.Blank

/-! # Environment files

Lines `NAME=value` that set variables which are not set yet. Values may be quoted, escape
characters with a backslash and refer to other variables; quotes may span lines. Reading stops at
the first line that is not of this form, and the lines before it count.
-/
namespace AutomatonChart.EnvFile

/-- Where a line stands with regard to quotes, escapes and blanks that may begin a comment. -/
inductive Scan where
  | complete
  | escape
  | strong
  | strongEscape
  | weak
  | weakEscape
  | blank
deriving DecidableEq, Repr

def Scan.open (c : Char) : Scan :=
  if c = '\\' then .escape else if c = '"' then .weak else if c = '\'' then .strong else .complete

def Scan.next : Scan → Char → Scan
  | .blank, c => .open c
  | .escape, _ => .complete
  | .complete, c =>
    if Text.isBlankChar c && c ≠ '\n' && c ≠ '\r' then .blank else .open c
  | .weak, c => if c = '\\' then .weakEscape else if c = '"' then .complete else .weak
  | .weakEscape, _ => .weak
  | .strong, c => if c = '\\' then .strongEscape else if c = '\'' then .complete else .strong
  | .strongEscape, _ => .strong

/-- Scans a stretch of text; if a comment begins in it, gives what stands before. -/
def Scan.run : Scan → List Char → Scan × Option (List Char)
  | s, [] => (s, none)
  | s, c :: rest =>
    if s = .blank ∧ c = '#' then (.complete, some [])
    else
      let (last, kept) := Scan.run (s.next c) rest
      (last, kept.map (c :: ·))

/-- A value being read: open quotes, a pending escape, whether only a comment may follow, and the
name of a variable that is being referred to, with whether it stands in braces. -/
structure Value where
  strong : Bool := false
  weak : Bool := false
  escaped : Bool := false
  ending : Bool := false
  reference : Option (Bool × List Char) := none
  done : List Char := []

namespace Value

def append (v : Value) (text : List Char) : Value := { v with done := text.reverse ++ v.done }

def resolveReference (lookup : String → String) (v : Value) (name : List Char) : Value :=
  { v with reference := none }.append (lookup (String.ofList name.reverse)).toList

/-- A character behind a reference that has begun. Letters and digits continue its name; in braces
everything up to the closing one does. -/
def inReference (lookup : String → String) (v : Value) (braces : Bool) (name : List Char)
    (c : Char) : Value :=
  if Text.isAlphanumeric c then { v with reference := some (braces, c :: name) }
  else if braces then
    if c = '}' then v.resolveReference lookup name
    else { v with reference := some (true, c :: name) }
  else if c = '{' ∧ name = [] then { v with reference := some (true, []) }
  else
    let v := v.resolveReference lookup name
    if c = '$' then { v with reference := some (false, []) } else v.append [c]

def escapeOf? (c : Char) : Option Char :=
  if c = '\\' ∨ c = '\'' ∨ c = '"' ∨ c = '$' ∨ c = ' ' then some c
  else if c = 'n' then some '\n'
  else none

def plain (v : Value) (c : Char) : Value :=
  if v.strong then if c = '\'' then { v with strong := false } else v.append [c]
  else if c = '$' then { v with reference := some (false, []) }
  else if c = '\\' then { v with escaped := true }
  else if v.weak then if c = '"' then { v with weak := false } else v.append [c]
  else if c = '\'' then { v with strong := true }
  else if c = '"' then { v with weak := true }
  else if c = ' ' ∨ c = '\t' then { v with ending := true }
  else v.append [c]

def finish (lookup : String → String) (v : Value) : Option String :=
  if v.strong ∨ v.weak then none
  else match v.reference with
    | some (true, _) => none
    | some (false, name) => some (String.ofList (v.resolveReference lookup name).done.reverse)
    | none => some (String.ofList v.done.reverse)

def read (lookup : String → String) (v : Value) : List Char → Option String
  | [] => v.finish lookup
  | c :: rest =>
    if v.ending then
      if c = ' ' ∨ c = '\t' then read lookup v rest
      else if c = '#' then v.finish lookup
      else none
    else if v.escaped then
      match escapeOf? c with
      | some e => read lookup { v.append [e] with escaped := false } rest
      | none => none
    else match v.reference with
      | some (braces, name) => read lookup (v.inReference lookup braces name c) rest
      | none => read lookup (v.plain c) rest

end Value

def skipBlanks (cs : List Char) : List Char := cs.dropWhile Text.isBlankChar

def isKeyStart (c : Char) : Bool := c.isAlpha || c = '_'
def isKeyChar (c : Char) : Bool := c.isAlphanum || c = '_' || c = '.'

def readKey? (cs : List Char) : Option (List Char × List Char) :=
  match cs with
  | [] => none
  | c :: _ =>
    if isKeyStart c then some (cs.takeWhile isKeyChar, skipBlanks (cs.dropWhile isKeyChar))
    else none

def readAssignment? (cs : List Char) : Option (List Char × List Char) := do
  let (key, rest) ← readKey? cs
  match rest with
  | '=' :: value => some (key, skipBlanks value)
  | _ =>
    if key ≠ "export".toList then none
    else
      let (key, rest) ← readKey? rest
      match rest with
      | '=' :: value => some (key, skipBlanks value)
      | _ => none

/-- What a reference finds among the variables. They stand there as texts `NAME=value`, and a
reference is what comes before an equals sign; one that has such a sign itself reaches into a
value. -/
def referred? (env : Environment) (name : String) : Option Bytes :=
  let front := name.toList.takeWhile (· ≠ '=')
  match name.toList.drop front.length with
  | [] => env name
  | _ :: skipped =>
    (env (String.ofList front)).bind (Utf8.encode (String.ofList skipped ++ "=")).isPrefixOf?

/-- Variables as they are after the lines read so far, what the file itself said about them, and a
line that is not complete yet. -/
structure Loading where
  env : Environment
  stored : List (String × String) := []
  line : List Char := []
  scan : Scan := .complete

namespace Loading

def lookup (l : Loading) (name : String) : String :=
  match (referred? l.env name).bind Utf8.decode? with
  | some value => value
  | none => (l.stored.lookup name).getD ""

/-- Sets a variable unless it is set to valid text already. -/
def assign (l : Loading) (key value : String) : Loading :=
  { l with
    env := if (l.env.text? key).isSome then l.env
      else fun name => if name = key then some (Utf8.encode value) else l.env name
    stored := (key, value) :: l.stored }

def takeLine (l : Loading) (line : List Char) : Option Loading :=
  let cs := skipBlanks (Text.dropTrailing Text.isBlankChar line)
  if cs = [] ∨ cs.head? = some '#' then some l
  else do
    let (key, text) ← readAssignment? cs
    let value ← if text = [] ∨ text.head? = some '#' then some "" else Value.read l.lookup {} text
    some (l.assign (String.ofList key) value)

def dropLineBreak (line : List Char) : List Char :=
  match line.reverse with
  | '\n' :: '\r' :: rest => rest.reverse
  | '\n' :: rest => rest.reverse
  | _ => line

def takeRaw (l : Loading) (raw : List Char) : Option Loading :=
  let whole := l.line ++ raw
  let fresh := { l with line := [], scan := .complete }
  if (skipBlanks whole).head? = some '#' then some fresh
  else match l.scan.run raw with
    | (_, some kept) => fresh.takeLine (l.line ++ kept)
    | (.complete, none) => fresh.takeLine (dropLineBreak whole)
    | (scan, none) => some { l with line := whole, scan }

/-- The variables after all lines, or after those before the first one that is wrong. -/
def finish (l : Loading) : List (Option (List Char)) → Environment
  | [] => l.env
  | none :: _ => l.env
  | some raw :: rest =>
    match l.takeRaw raw with
    | some next => finish next rest
    | none => l.env

end Loading

def lines : Bytes → List Bytes
  | [] => []
  | b :: rest =>
    if b = 0x0A then [b] :: lines rest
    else match lines rest with
      | [] => [[b]]
      | first :: others => (b :: first) :: others

def dropMark : Bytes → Bytes
  | 0xEF :: 0xBB :: 0xBF :: rest => rest
  | bytes => bytes

def load (env : Environment) (content : Bytes) : Environment :=
  let raws := (lines (dropMark content)).map fun raw => (Utf8.decode? raw).map String.toList
  Loading.finish { env } raws

def stretches (p : Char → Bool) (cs : List Char) : List String :=
  ((cs.splitBy fun a b => p a && p b).filter (·.all p)).map String.ofList

/-- Everything in a file that could be the name of a variable: one that is set, one that is
referred to, or one in braces. -/
def mentioned (content : Bytes) : List String :=
  let cs := (Utf8.decodeLossy content).toList
  stretches isKeyChar cs ++ stretches Text.isAlphanumeric cs ++
    stretches (fun c => c ≠ '{' && c ≠ '}' && c ≠ '=' && c ≠ '\x00') cs

end AutomatonChart.EnvFile
