import AutomatonChart.Service.Error
import AutomatonChart.Text.Blank
import AutomatonChart.Text.Utf8

/-! # Service configuration

Where the service is and how long to wait for it, from environment variables and overriding URLs.
An unreadable timeout falls back to its default; an unusable URL is an error.
-/
namespace AutomatonChart

/-- The bytes of each variable that is set. -/
abbrev Environment := String → Option Bytes

def Environment.text? (env : Environment) (name : String) : Option String :=
  (env name).bind Utf8.decode?

/-- In seconds. -/
structure Timeouts where
  request : Nat
  connect : Nat
deriving DecidableEq, Repr

structure Config where
  url : String
  timeouts : Timeouts
deriving DecidableEq, Repr

namespace Config

def defaultUrl : String := "http://localhost:8080"

def digitsValue (ds : List Char) : Nat := ds.foldl (fun n c => n * 10 + (c.toNat - '0'.toNat)) 0

/-- Seconds are decimal ASCII digits, perhaps after a plus sign, and fit 64 bits. -/
def seconds? (s : String) : Option Nat :=
  let ds := match s.toList with
    | '+' :: rest => rest
    | cs => cs
  if !ds.isEmpty && ds.all Char.isDigit && digitsValue ds < UInt64.size then some (digitsValue ds)
  else none

/-- A URL without blanks around it and without slashes at its end. -/
def trimUrl (raw : String) : String :=
  String.ofList (Text.dropTrailing (· = '/') (Text.trim raw).toList)

def hasScheme (url : String) : Bool :=
  "http://".toList.isPrefixOf url.toList || "https://".toList.isPrefixOf url.toList

def normalizeUrl (raw : String) : Except ServiceError String :=
  let url := trimUrl raw
  if url.isEmpty then .error (.configuration "MINIMIZER_URL must not be empty")
  else if hasScheme url then .ok url
  else .error (.configuration
    ("unsupported service URL '" ++ raw ++ "' (expected http:// or https://)"))

/-- A timeout is read from its own variable and falls back to the given number. -/
def timeout (env : Environment) (name : String) (default : Nat) : Nat :=
  ((env.text? name).bind seconds?).getD default

def ofEnvironment (env : Environment) : Except ServiceError Config :=
  (normalizeUrl ((env.text? "MINIMIZER_URL").getD defaultUrl)).map fun url =>
    { url
      timeouts :=
        { request := timeout env "MINIMIZER_REQUEST_TIMEOUT_SECS" 30
          connect := timeout env "MINIMIZER_CONNECT_TIMEOUT_SECS" 5 } }

def withUrl (c : Config) (raw : String) : Except ServiceError Config :=
  (normalizeUrl raw).map fun url => { c with url }

end Config
end AutomatonChart
