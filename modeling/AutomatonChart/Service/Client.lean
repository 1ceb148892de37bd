import AutomatonChart.Service.Config
import AutomatonChart.Service.Reply

/-! # Asking the service

A client posts the text of an automaton to one URL, once, and sorts what comes back. How a request
travels is left to a transport.
-/
namespace AutomatonChart

structure Request where
  method : String
  url : String
  contentType : String
  body : String
deriving DecidableEq, Repr

structure Response where
  status : Nat
  body : Bytes
deriving DecidableEq, Repr

/-- The means of sending requests: setting it up may fail, and so may each exchange, with a text
that says why. -/
structure Transport (m : Type → Type) where
  setUp : Timeouts → m (Except String Unit)
  send : Request → m (Except String Response)

structure Client where
  url : String
deriving DecidableEq, Repr

namespace Client
variable {m : Type → Type} [Monad m]

def create (transport : Transport m) (config : Config) : m (Except ServiceError Client) := do
  match ← transport.setUp config.timeouts with
  | .ok () => pure (.ok ⟨config.url⟩)
  | .error reason => pure (.error (.clientSetup reason))

def request (client : Client) (source : String) : Request where
  method := "POST"
  url := client.url
  contentType := "text/plain"
  body := source

def interpret (client : Client) : Except String Response → Except ServiceError Reply
  | .ok response => Reply.ofBody response.status (Utf8.decodeLossy response.body)
  | .error reason => .error (.unreachable client.url reason)

def submit (client : Client) (transport : Transport m) (source : String) :
    m (Except ServiceError Reply) := do
  let exchange ← transport.send (client.request source)
  pure (client.interpret exchange)

end Client
end AutomatonChart
