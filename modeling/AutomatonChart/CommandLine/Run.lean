import AutomatonChart.CommandLine.Command
import AutomatonChart.Delivery.Stream
import AutomatonChart.Service.Client

/-! # Running a command

`minimize` sends its input to the service and renders the reply; `compile` draws a description, or
a reply that was saved. What a run can reach is given as a platform, so the same run works on real
files and on a value.
-/
namespace AutomatonChart

structure Platform (m : Type → Type) where
  standardInput : m (Except String Bytes)
  readFile : Path → m (Except String Bytes)
  files : FileStore m
  output : ByteSink m
  complain : String → m Unit
  transport : Transport m

inductive RunError where
  | service (error : ServiceError)
  | description (error : DescriptionError)
  | input (name reason : String)

def RunError.message : RunError → String
  | .service e => e.message
  | .description e => e.message
  | .input name reason => "failed to read input " ++ name ++ ": " ++ reason

/-- How a run ends. A crash is no status that a run gives itself: what was done before it stays. -/
inductive ExitStatus where
  | success
  | failure
  | crashed (message : String)
deriving DecidableEq, Repr

namespace ExitStatus

def code : ExitStatus → Nat
  | .success => 0
  | .failure => 1
  | .crashed _ => 101

/-- The end of a run that prints as its last act, by what became of the write. -/
def ofPrint : Except String Unit → ExitStatus
  | .ok () => .success
  | .error reason => .crashed ("failed printing to stdout: " ++ reason)

end ExitStatus

/-- What is told about a finished session, and whether it counts as a success: a notice alone, or
the log and the panes that failed. -/
structure Report where
  text : String
  status : ExitStatus
deriving DecidableEq, Repr

namespace View

def logText (v : View) : String :=
  match v.log with
  | some log => "--- service log ---\n" ++ log ++ "\n"
  | none => ""

def failureText (v : View) (role : Role) : String :=
  match v.pane role with
  | .failed message => "failed to render " ++ role.name ++ " diagram: " ++ message ++ "\n"
  | _ => ""

def hasFailed (v : View) (role : Role) : Bool :=
  match v.pane role with
  | .failed _ => true
  | _ => false

def report (v : View) : Report :=
  match v.notice with
  | some notice => ⟨notice.message ++ "\n", .failure⟩
  | none =>
    ⟨v.logText ++ String.join (Role.all.map v.failureText),
      if Role.all.any v.hasFailed then .failure else .success⟩

end View

variable {m : Type → Type} [Monad m]

namespace Session

/-- One submission from the beginning. Nothing is rendered if it is refused or fails. -/
def minimize (client : Client) (transport : Transport m) (renderer : Renderer m) (source : String) :
    m View := do
  match View.handle {} (.submitRequested source) with
  | (v, none) => pure v
  | (v, some (.submit text)) => do
    let result ← client.submit transport text
    let next := (v.handle (.replyReceived result)).1
    if next.notice.isSome then pure next else next.renderPanes renderer

def replay (renderer : Renderer m) (reply : Reply) : m View :=
  (View.handle {} (.replyReceived (.ok reply))).1.renderPanes renderer

end Session

namespace Platform

def notText : String := "stream did not contain valid UTF-8"

def decodeInput (name : String) : Except String Bytes → Except RunError String
  | .error reason => .error (.input name reason)
  | .ok bytes =>
    match Utf8.decode? bytes with
    | some text => .ok text
    | none => .error (.input name notText)

def readInput (platform : Platform m) (name : String) : m (Except RunError String) := do
  if name = "-" then pure (decodeInput "stdin" (← platform.standardInput))
  else pure (decodeInput name (← platform.readFile (Path.ofText name)))

def conclude (platform : Platform m) (v : View) : m ExitStatus := do
  platform.complain v.report.text
  pure v.report.status

def configure (env : Environment) (serviceUrl : Option String) : Except ServiceError Config := do
  let config ← Config.ofEnvironment env
  match serviceUrl with
  | some url => config.withUrl url
  | none => pure config

def renderer (platform : Platform m) (options : MinimizeOptions) : Renderer m :=
  match options.outDir with
  | some dir => Directory.renderer platform.files dir options.format
  | none => Stream.renderer platform.output

def runMinimize (platform : Platform m) (env : Environment) (options : MinimizeOptions) :
    m (Except RunError ExitStatus) := do
  match configure env options.serviceUrl with
  | .error e => pure (.error (.service e))
  | .ok config =>
    match ← Client.create platform.transport config with
    | .error e => pure (.error (.service e))
    | .ok client =>
      match ← platform.readInput options.input with
      | .error e => pure (.error e)
      | .ok source => do
        let v ← Session.minimize client platform.transport (platform.renderer options) source
        let status ← platform.conclude v
        pure (.ok status)

/-- Draws one description. The run crashes if the drawing cannot be printed. -/
def draw (platform : Platform m) (document : Json) : m (Except RunError ExitStatus) := do
  match Description.ofJson document with
  | .error e => pure (.error (.description e))
  | .ok d => do
    let printed ← platform.output.write (Utf8.encode d.flowchart)
    pure (.ok (.ofPrint printed))

/-- A document with a member `original` is a saved reply, any other one a description. -/
def runCompile (platform : Platform m) (input : String) : m (Except RunError ExitStatus) := do
  match ← platform.readInput input with
  | .error e => pure (.error e)
  | .ok text =>
    match Json.parse text with
    | .error e => pure (.error (.description (.syntaxError e)))
    | .ok document =>
      if (document.member? "original").isNone then platform.draw document
      else match Reply.ofJson 200 document with
        | .error e => pure (.error (.service e))
        | .ok reply => do
          let v ← Session.replay (Stream.renderer platform.output) reply
          let status ← platform.conclude v
          pure (.ok status)

def run (platform : Platform m) (env : Environment) : Command → m (Except RunError ExitStatus)
  | .minimize options => platform.runMinimize env options
  | .compile input => platform.runCompile input

end Platform
end AutomatonChart
