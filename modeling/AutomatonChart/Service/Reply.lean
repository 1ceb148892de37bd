import AutomatonChart.Automaton.Decoding
import AutomatonChart.Json.Printer
import AutomatonChart.Service.Error

/-! # Service replies

A reply that succeeded is an object with the submitted automaton, the minimized one and perhaps a
log. The two descriptions stay JSON here, so that each of them can fail on its own. Any other
status carries an error, told by the body's `error` member.
-/
namespace AutomatonChart

structure Reply where
  original : Json := .null
  minimized : Json := .null
  log : Option String := none

namespace Reply

def isSuccess (status : Nat) : Bool := 200 ≤ status && status < 300

def unknownError : String := "unknown error"

/-- The `error` member verbatim if it is a text, otherwise its JSON; without a telling one the
error is unknown. -/
def errorDetail (body : Json) : String :=
  match body.member? "error" with
  | none => unknownError
  | some .null => unknownError
  | some (.bool false) => unknownError
  | some (.string s) => if s.isEmpty then unknownError else s
  | some v => v.compact

def minimizedMember (body : Json) : Except ServiceError Json :=
  match body.member? "minimized", body.member? "minimizado" with
  | some _, some _ => .error (.malformedReply (ShapeError.duplicateField "minimized").message)
  | some v, none => .ok v
  | none, some v => .ok v
  | none, none => .ok .null

/-- The log, if it is a text that is not empty. -/
def logMember (body : Json) : Option String :=
  ((body.member? "log").bind Json.string?).filter fun s => !s.isEmpty

def ofJson (status : Nat) (body : Json) : Except ServiceError Reply :=
  if !isSuccess status then .error (.rejected status (errorDetail body))
  else if !body.isObject then .error (.malformedReply "expected a JSON object")
  else (minimizedMember body).map fun minimized =>
    { original := (body.member? "original").getD .null, minimized, log := logMember body }

/-- The body must be JSON whatever the status. -/
def ofBody (status : Nat) (body : String) : Except ServiceError Reply :=
  match Json.parse body with
  | .error e => .error (.malformedReply e.message)
  | .ok v => ofJson status v

end Reply
end AutomatonChart
