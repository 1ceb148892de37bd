import AutomatonChart.Flowchart.Chart
import AutomatonChart.Service.Reply
import AutomatonChart.Session.View
import AutomatonChart.Text.Blank

/-! # Session events

Each event turns one view into the next and may ask for a submission. A failed submission keeps
the diagrams of the one before; a description that cannot be read fails its own pane only.
-/
namespace AutomatonChart

inductive Event where
  | submitRequested (source : String)
  | replyReceived (result : Except ServiceError Reply)
  | renderFailed (role : Role) (message : String)

inductive Effect where
  | submit (source : String)
deriving DecidableEq, Repr

def Notice.ofUnreachable : ServiceError → Notice
  | .unreachable url reason => .unreachable (some url) reason
  | .malformedReply detail => .unreachable none ("malformed response: " ++ detail)
  | e => .unreachable none e.message

def Notice.ofError (e : ServiceError) : Notice :=
  if e.isConnectivity then .ofUnreachable e
  else match e with
    | .rejected _ detail => .service detail
    | _ => .service e.message

def Pane.ofJson (v : Json) : Pane :=
  match Description.ofJson v with
  | .ok d => .diagram d.flowchart
  | .error e => .failed e.message

def Reply.describing (r : Reply) : Role → Json
  | .original => r.original
  | .minimized => r.minimized

namespace View

/-- A blank source is refused with a notice, and any request hides the log. -/
def submitRequested (v : View) (source : String) : View × Option Effect :=
  let v := { v with log := none }
  if Text.isBlank source then ({ v with notice := some .emptyInput }, none)
  else ({ v with notice := none, submit := .pending }, some (.submit source))

def replyReceived (v : View) : Except ServiceError Reply → View
  | .ok r =>
    { submit := .ready
      log := r.log
      original := .ofJson r.original
      minimized := .ofJson r.minimized
      notice := none }
  | .error e => { v with submit := .ready, notice := some (.ofError e) }

def handle (v : View) : Event → View × Option Effect
  | .submitRequested source => v.submitRequested source
  | .replyReceived result => (v.replyReceived result, none)
  | .renderFailed role message => (v.setPane role (.failed message), none)

def run (v : View) : List Event → View × List Effect
  | [] => (v, [])
  | e :: rest =>
    let (next, effect) := v.handle e
    let (last, effects) := next.run rest
    (last, effect.toList ++ effects)

end View
end AutomatonChart
