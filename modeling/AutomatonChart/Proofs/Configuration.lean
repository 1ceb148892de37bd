import Mathlib.Data.Nat.Digits.Defs
import AutomatonChart.Proofs.TextBytes
import AutomatonChart.Proofs.UrlForm

/-! # A configuration and the URLs that override it

The texts of URLs are read one after the other, the environment's first: the first unusable one is
the error of the whole, and without one the last is the URL. The timeouts stay those of the
environment, each told by its own variable: the number that its digits denote, if that fits 64
bits, or else the default.
-/
namespace AutomatonChart

namespace Config

section Numbers
variable {text : String} {value : Option Bytes} {default n : Nat}

example : seconds? "+007" = some 7 := by decide
example : seconds? "18446744073709551616" = none := by decide

end Numbers

section Chain
variable {raw url : String} {c : Config}

/-- An environment's configuration with URLs that override one another. -/
def chain (env : Environment) (overrides : List String) : Except ServiceError Config := do
  let c ← ofEnvironment env
  overrides.foldlM withUrl c

end Chain
end Config
end AutomatonChart
