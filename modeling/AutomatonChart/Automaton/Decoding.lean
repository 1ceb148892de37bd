import AutomatonChart.Automaton.Description
import AutomatonChart.Json.Number
import AutomatonChart.Json.Reader
import AutomatonChart.Text.Quoted

/-! # Descriptions read from JSON

A description is an object whose four fields may each be spelled in two ways, or a list of the
four in order. An absent or null field is empty; labels and targets that are not strings are
dropped. Only a wrong container, a field given twice, or a list that is too long is refused.
-/
namespace AutomatonChart

inductive Field where
  | states
  | accepting
  | start
  | transitions
deriving DecidableEq, Repr

namespace Field

def all : List Field := [.states, .accepting, .start, .transitions]

def name : Field → String
  | .states => "states"
  | .accepting => "accepting"
  | .start => "start"
  | .transitions => "transitions"

def otherName : Field → String
  | .states => "estados"
  | .accepting => "finais"
  | .start => "inicial"
  | .transitions => "transicoes"

def ofKey? (key : String) : Option Field := all.find? fun f => key = f.name || key = f.otherName

end Field

inductive Container where
  | description
  | list
  | map
deriving DecidableEq, Repr

def Container.text : Container → String
  | .description => "struct AutomatonDescription"
  | .list => "a sequence"
  | .map => "a map"

inductive ShapeError where
  | wrongContainer (found : Json) (expected : Container)
  | duplicateField (name : String)
  | tooManyItems (count : Nat)

def Json.kindText : Json → String
  | .null => "null"
  | .bool b => "boolean `" ++ (if b then "true" else "false") ++ "`"
  | .number (.integer n) => "integer `" ++ toString n ++ "`"
  | .number (.fraction x) => "floating point `" ++ Json.Number.fractionText x ++ "`"
  | .string s => "string " ++ Text.quoted s
  | .array _ => "sequence"
  | .object _ => "map"

def ShapeError.message : ShapeError → String
  | .wrongContainer found expected =>
    "invalid type: " ++ found.kindText ++ ", expected " ++ expected.text
  | .duplicateField name => "duplicate field `" ++ name ++ "`"
  | .tooManyItems count =>
    "invalid length " ++ toString count ++ ", expected fewer elements in array"

inductive DescriptionError where
  | missing
  | syntaxError (error : Json.SyntaxError)
  | shape (error : ShapeError)

def DescriptionError.message : DescriptionError → String
  | .missing => "automaton description is missing"
  | .syntaxError e => "invalid automaton description: " ++ e.message
  | .shape e => "invalid automaton description: " ++ e.message

namespace Decoding

/-- The strings of a list; null counts as an empty one. -/
def labels : Json → Except ShapeError (List String)
  | .null => .ok []
  | .array items => .ok (items.filterMap Json.string?)
  | v => .error (.wrongContainer v .list)

/-- The members of an object whose values are strings; null counts as an empty one. -/
def targets : Json → Except ShapeError (List (String × String))
  | .null => .ok []
  | .object ms => .ok (ms.filterMap fun m => m.2.string?.map (m.1, ·))
  | v => .error (.wrongContainer v .map)

/-- The fields read so far; one that was met is present even if it held null. -/
structure Draft where
  states : Option (List String) := none
  accepting : Option (OrderedSet String) := none
  start : Option (Option String) := none
  transitions : Option (OrderedMap String String) := none

namespace Draft

def holds (d : Draft) : Field → Bool
  | .states => d.states.isSome
  | .accepting => d.accepting.isSome
  | .start => d.start.isSome
  | .transitions => d.transitions.isSome

def set (d : Draft) (f : Field) (v : Json) : Except ShapeError Draft :=
  match f with
  | .states => (labels v).map fun found => { d with states := some found }
  | .accepting => (labels v).map fun found => { d with accepting := some (.ofList found) }
  | .start => .ok { d with start := some v.string? }
  | .transitions => (targets v).map fun found => { d with transitions := some (.ofList found) }

/-- Members are taken in document order and unknown ones ignored. -/
def member (d : Draft) (m : String × Json) : Except ShapeError Draft :=
  match Field.ofKey? m.1 with
  | none => .ok d
  | some f => if d.holds f then .error (.duplicateField f.name) else d.set f m.2

def description (d : Draft) : Description where
  states := d.states.getD []
  accepting := d.accepting.getD .empty
  start := d.start.getD none
  transitions := d.transitions.getD .empty

end Draft

def ofMembers (ms : List (String × Json)) : Except ShapeError Description :=
  (ms.foldlM Draft.member {}).map Draft.description

def ofItems (items : List Json) : Except ShapeError Description :=
  match (Field.all.zip items).foldlM (fun (d : Draft) p => d.set p.1 p.2) {} with
  | .error e => .error e
  | .ok d =>
    if Field.all.length < items.length then .error (.tooManyItems items.length)
    else .ok d.description

end Decoding

namespace Description

def ofJson : Json → Except DescriptionError Description
  | .null => .error .missing
  | .object ms => (Decoding.ofMembers ms).mapError .shape
  | .array items => (Decoding.ofItems items).mapError .shape
  | v => .error (.shape (.wrongContainer v .description))

def ofText (text : String) : Except DescriptionError Description :=
  match Json.parse text with
  | .error e => .error (.syntaxError e)
  | .ok v => ofJson v

end Description
end AutomatonChart
