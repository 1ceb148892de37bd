import AutomatonChart.Delivery.Directory
import AutomatonChart.Service.Config

/-! # Commands

What a command line may ask for, and why one is refused.
-/
namespace AutomatonChart

/-- An input named `-` is the standard input. -/
structure MinimizeOptions where
  input : String
  serviceUrl : Option String
  outDir : Option Path
  format : OutputFormat
deriving DecidableEq, Repr

inductive Command where
  | minimize (options : MinimizeOptions)
  | compile (input : String)
deriving DecidableEq, Repr

inductive Refusal where
  | help
  | missingSubcommand
  | invalidSubcommand
  | unknownArgument
  | invalidValue
  | argumentConflict
  | unneededValue
deriving DecidableEq, Repr

/-- Asking for help is no failure. -/
def Refusal.exitCode : Refusal → Nat
  | .help => 0
  | _ => 2

end AutomatonChart
