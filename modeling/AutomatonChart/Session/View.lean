/-! # What a session shows

The submit control, the log, one pane for each of the two automata and a notice about the last
action.
-/
namespace AutomatonChart

/-- The part that an automaton plays in a submission. -/
inductive Role where
  | original
  | minimized
deriving DecidableEq, Repr

namespace Role

def all : List Role := [.original, .minimized]

def name : Role → String
  | .original => "original"
  | .minimized => "minimized"

end Role

inductive Pane where
  | empty
  | diagram (text : String)
  | failed (message : String)
deriving DecidableEq, Repr

/-- While a submission is pending nothing else can be submitted by hand. -/
inductive SubmitControl where
  | ready
  | pending
deriving DecidableEq, Repr

namespace SubmitControl

def enabled : SubmitControl → Bool
  | .ready => true
  | .pending => false

def label : SubmitControl → String
  | .ready => "Minimize"
  | .pending => "Minimizing..."

end SubmitControl

/-- The URL of an unreachable service is known if the request itself failed. -/
inductive Notice where
  | emptyInput
  | unreachable (url : Option String) (reason : String)
  | service (detail : String)
deriving DecidableEq, Repr

def Notice.message : Notice → String
  | .emptyInput => "please provide the automaton definition"
  | .unreachable (some url) reason =>
    "could not reach the minimization service at " ++ url ++ "; check that it is running (" ++
      reason ++ ")"
  | .unreachable none reason =>
    "could not reach the minimization service; check that it is running (" ++ reason ++ ")"
  | .service detail => "service error: " ++ detail

structure View where
  submit : SubmitControl := .ready
  log : Option String := none
  original : Pane := .empty
  minimized : Pane := .empty
  notice : Option Notice := none
deriving DecidableEq, Repr

namespace View

instance : Inhabited View := ⟨{}⟩

def pane (v : View) : Role → Pane
  | .original => v.original
  | .minimized => v.minimized

def setPane (v : View) (role : Role) (p : Pane) : View :=
  match role with
  | .original => { v with original := p }
  | .minimized => { v with minimized := p }

@[simp] theorem pane_setPane (v : View) (role other : Role) (p : Pane) :
    (v.setPane role p).pane other = if other = role then p else v.pane other := by
  cases role <;> cases other <;> rfl

end View
end AutomatonChart
