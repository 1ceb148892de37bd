import AutomatonChart.Files.Path
import AutomatonChart.Session.Event

/-! # Handing diagrams over

A renderer takes the diagram of one pane and may fail. Panes are rendered one after the other,
and a failure turns its own pane into a failed one without keeping the next from being tried.
-/
namespace AutomatonChart

inductive DeliveryError where
  | file (path : Path) (reason : String)
  | stream (reason : String)
deriving DecidableEq, Repr

def DeliveryError.message : DeliveryError → String
  | .file path reason => "failed to write " ++ path.text ++ ": " ++ reason
  | .stream reason => "failed to write diagram: " ++ reason

abbrev Renderer (m : Type → Type) := Role → String → m (Except DeliveryError Unit)

namespace View
variable {m : Type → Type} [Monad m]

def renderPane (renderer : Renderer m) (v : View) (role : Role) : m View :=
  match v.pane role with
  | .diagram text => do
    match ← renderer role text with
    | .ok () => pure v
    | .error e => pure (v.handle (.renderFailed role e.message)).1
  | _ => pure v

/-- Renders every pane that holds a diagram, the original one first. -/
def renderPanes (renderer : Renderer m) (v : View) : m View :=
  Role.all.foldlM (renderPane renderer) v

end View
end AutomatonChart
