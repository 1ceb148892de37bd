/-! # Service errors

What can go wrong when a service is asked to minimize an automaton. Two of the causes mean that
the service could not be reached in a useful way.
-/
namespace AutomatonChart

inductive ServiceError where
  | configuration (detail : String)
  | clientSetup (detail : String)
  | unreachable (url reason : String)
  | malformedReply (detail : String)
  | rejected (status : Nat) (detail : String)
deriving DecidableEq, Repr

namespace ServiceError

def code : ServiceError → String
  | .configuration _ => "E_CONFIG_PARSE"
  | .clientSetup _ => "E_HTTP_CLIENT_BUILD"
  | .unreachable .. => "E_UNREACHABLE"
  | .malformedReply _ => "E_MALFORMED_RESPONSE"
  | .rejected .. => "E_SERVICE"

def message : ServiceError → String
  | .configuration detail => "config parse failed: " ++ detail
  | .clientSetup detail => "HTTP client build failed: " ++ detail
  | .unreachable url reason =>
    "could not reach the minimization service at " ++ url ++ ": " ++ reason
  | .malformedReply detail => "malformed response from the minimization service: " ++ detail
  | .rejected _ detail => "service error: " ++ detail

def isConnectivity : ServiceError → Bool
  | .unreachable .. => true
  | .malformedReply _ => true
  | _ => false

end ServiceError
end AutomatonChart
