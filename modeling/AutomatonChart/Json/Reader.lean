import AutomatonChart.Collection.OrderedMap
import AutomatonChart.Json.NumberReader
import AutomatonChart.Json.StringReader

/-! # Reading JSON

A text is one value between blanks. At most 127 brackets may be open at once. A repeated key of an
object keeps its first place and takes its last value.
-/
namespace AutomatonChart.Json

def readWord {α : Type} (value : α) : List Char → Cursor → Except SyntaxError (Found α)
  | [], cur => .ok (value, cur)
  | c :: cs, cur =>
    match cur.rest with
    | [] => cur.fail .endInValue
    | x :: _ => if x = c then readWord value cs cur.next else cur.failAhead .expectedIdent

/-- Reads list items behind the opening bracket or behind an item. The fuel is a bound on what is
left to read, so it runs out only at the end of the text. -/
def readItems (item : Cursor → Except SyntaxError (Found Json)) :
    Nat → List Json → Cursor → Except SyntaxError (Found (List Json))
  | 0, _, cur => cur.failAhead .endInList
  | fuel + 1, done, cur =>
    let here := cur.skipBlanks
    match here.rest with
    | [] => here.failAhead .endInList
    | ']' :: _ => .ok (done.reverse, here.next)
    | c :: _ =>
      if done.isEmpty then do
        let (v, stop) ← item here
        readItems item fuel [v] stop
      else if c = ',' then
        let there := here.next.skipBlanks
        match there.rest with
        | [] => there.failAhead .endInValue
        | ']' :: _ => there.failAhead .trailingComma
        | _ => do
          let (v, stop) ← item there
          readItems item fuel (v :: done) stop
      else here.failAhead .expectedListCommaOrEnd

def readMember (item : Cursor → Except SyntaxError (Found Json)) (cur : Cursor) :
    Except SyntaxError (Found (String × Json)) := do
  let (key, behind) ← StringReader.read cur.next
  let colon := behind.skipBlanks
  match colon.rest with
  | [] => colon.failAhead .endInObject
  | ':' :: _ => do
    let (v, stop) ← item colon.next.skipBlanks
    pure ((key, v), stop)
  | _ => colon.failAhead .expectedColon

def readMembers (item : Cursor → Except SyntaxError (Found Json)) :
    Nat → List (String × Json) → Cursor → Except SyntaxError (Found (List (String × Json)))
  | 0, _, cur => cur.failAhead .endInObject
  | fuel + 1, done, cur =>
    let here := cur.skipBlanks
    match here.rest with
    | [] => here.failAhead .endInObject
    | '}' :: _ => .ok (done, here.next)
    | c :: _ =>
      if done.isEmpty then
        if c = '"' then do
          let (m, stop) ← readMember item here
          readMembers item fuel [m] stop
        else here.failAhead .keyMustBeString
      else if c = ',' then
        let there := here.next.skipBlanks
        match there.rest with
        | [] => there.failAhead .endInValue
        | '"' :: _ => do
          let (m, stop) ← readMember item there
          readMembers item fuel (upsertEntry m.1 (fun _ => m.2) done) stop
        | '}' :: _ => there.failAhead .trailingComma
        | _ => there.failAhead .keyMustBeString
      else here.failAhead .expectedObjectCommaOrEnd

/-- Reads a value at the cursor. `nested` reads what stands inside brackets; without it no bracket
may open. -/
def readValueWith (nested : Option (Cursor → Except SyntaxError (Found Json))) (cur : Cursor) :
    Except SyntaxError (Found Json) :=
  match cur.rest with
  | [] => cur.failAhead .endInValue
  | 'n' :: _ => readWord .null "ull".toList cur.next
  | 't' :: _ => readWord (.bool true) "rue".toList cur.next
  | 'f' :: _ => readWord (.bool false) "alse".toList cur.next
  | '"' :: _ => do
    let (s, stop) ← StringReader.read cur.next
    pure (.string s, stop)
  | '-' :: _ => do
    let (n, stop) ← Number.readUnsigned true cur.next
    pure (.number n, stop)
  | '[' :: _ =>
    match nested with
    | none => cur.failAhead .tooDeep
    | some item => do
      let (items, stop) ← readItems item cur.next.rest.length [] cur.next
      pure (.array items, stop)
  | '{' :: _ =>
    match nested with
    | none => cur.failAhead .tooDeep
    | some item => do
      let (ms, stop) ← readMembers item cur.next.rest.length [] cur.next
      pure (.object ms, stop)
  | c :: _ =>
    if c.isDigit then do
      let (n, stop) ← Number.readUnsigned false cur
      pure (.number n, stop)
    else cur.failAhead .expectedValue

def readValue : Nat → Cursor → Except SyntaxError (Found Json)
  | 0 => readValueWith none
  | depth + 1 => readValueWith (some (readValue depth))

def depthLimit : Nat := 127

def parse (text : String) : Except SyntaxError Json := do
  let start : Cursor := ⟨text.toList, {}⟩
  let (v, stop) ← readValue depthLimit start.skipBlanks
  let tail := stop.skipBlanks
  if tail.rest.isEmpty then pure v else tail.failAhead .trailingCharacters

end AutomatonChart.Json
