import AutomatonChart.Delivery.Renderer

/-! # Streams

Diagrams written one after the other, each under a comment line with its pane's name. A bounded
output keeps what fits and refuses the rest.
-/
namespace AutomatonChart

/-- Where bytes go: a write takes all of them or fails with a reason. -/
structure ByteSink (m : Type → Type) where
  write : Bytes → m (Except String Unit)
  flush : m (Except String Unit)

namespace Stream

def block (role : Role) (diagram : String) : Bytes :=
  Utf8.encode ("%% " ++ role.name ++ "\n" ++ diagram ++ "\n")

def renderer {m : Type → Type} [Monad m] (sink : ByteSink m) : Renderer m := fun role diagram => do
  match ← sink.write (block role diagram) with
  | .error reason => pure (.error (.stream reason))
  | .ok () =>
    match ← sink.flush with
    | .error reason => pure (.error (.stream reason))
    | .ok () => pure (.ok ())

end Stream

/-- Bytes written so far and how many more are accepted, if there is a limit. -/
structure Output where
  written : Bytes := []
  room : Option Nat := none
  flushFailure : Option String := none
deriving DecidableEq, Repr

namespace Output

/-- Keeps what fits; the write fails if that is not all. -/
def write (bytes : Bytes) (o : Output) : Except String Unit × Output :=
  match o.room with
  | none => (.ok (), { o with written := o.written ++ bytes })
  | some n =>
    (if bytes.length ≤ n then .ok () else .error "failed to write whole buffer",
      { o with written := o.written ++ bytes.take n, room := some (n - bytes.length) })

def flush (o : Output) : Except String Unit × Output :=
  match o.flushFailure with
  | none => (.ok (), o)
  | some reason => (.error reason, o)

def sink : ByteSink (StateM Output) := ⟨write, flush⟩

end Output
end AutomatonChart
