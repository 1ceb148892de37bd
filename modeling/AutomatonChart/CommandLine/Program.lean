import AutomatonChart.CommandLine.Arguments
import AutomatonChart.CommandLine.EnvFile
import AutomatonChart.CommandLine.Run

/-! # The program

Variables from an environment file are added first, then the arguments are read and the command is
run. An error that keeps a command from finishing is told on one line, and so is a crash.
-/
namespace AutomatonChart.Program
variable {m : Type → Type} [Monad m]

def usage : String :=
  "Usage: automaton-chart minimize [--input FILE] [--service-url URL] [--out-dir DIR]" ++
    " [--format mmd|html]\n" ++
    "       automaton-chart compile [--input FILE]\n"

/-- The variables that have a meaning of their own. -/
def variableNames : List String :=
  ["MINIMIZER_URL", "MINIMIZER_REQUEST_TIMEOUT_SECS", "MINIMIZER_CONNECT_TIMEOUT_SECS",
    "DFAVIZ_OUT_DIR", "DFAVIZ_FORMAT"]

def envFile : Path := Path.ofText ".env"

def environment (platform : Platform m) (env : Environment) : m Environment := do
  match ← platform.readFile envFile with
  | .ok content => pure (EnvFile.load env content)
  | .error _ => pure env

def run (platform : Platform m) (env : Environment) (arguments : List String) : m Nat := do
  let env ← environment platform env
  match Arguments.parse env arguments with
  | .error refusal => do
    platform.complain usage
    pure refusal.exitCode
  | .ok command =>
    match ← platform.run env command with
    | .ok (.crashed message) => do
      platform.complain (message ++ "\n")
      pure (ExitStatus.crashed message).code
    | .ok status => pure status.code
    | .error e => do
      platform.complain ("error: " ++ e.message ++ "\n")
      pure 1

end AutomatonChart.Program
