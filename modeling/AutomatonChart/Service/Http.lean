import AutomatonChart.Service.Client

/-! # Messages on the wire

The bytes of a request to a plain `http` URL and the response that answering bytes make up. The
connection carries one exchange, so a body ends where the connection does; one that is shorter
than announced cannot be read.
-/
namespace AutomatonChart.Http

structure Address where
  host : String
  portNumber : Nat
  target : String
deriving DecidableEq, Repr

def scheme : List Char := "http://".toList

/-- Host, number and path of a URL; the number is 80 and the path a slash unless they are given. -/
def Address.ofUrl? (url : String) : Option Address := do
  let cs := url.toList
  if !scheme.isPrefixOf cs then none
  else
    let rest := cs.drop scheme.length
    let authority := rest.takeWhile fun c => c ≠ '/' && c ≠ '?'
    let target := rest.drop authority.length
    let host := authority.takeWhile (· ≠ ':')
    let portNumber ← match authority.drop host.length with
      | [] => some 80
      | _ :: digits => Config.seconds? (String.ofList digits)
    some
      { host := String.ofList host
        portNumber
        target := String.ofList (if target.head? = some '/' then target else '/' :: target) }

def behindScheme? : List Char → Option (List Char)
  | [] => none
  | ':' :: '/' :: '/' :: rest => some rest
  | _ :: rest => behindScheme? rest

/-- A URL as a failure names it: with a slash if no path follows its scheme and host. -/
def shownUrl (url : String) : String :=
  if ((behindScheme? url.toList).getD url.toList).contains '/' then url else url ++ "/"

def sendFailure (url : String) : String := "error sending request for url (" ++ shownUrl url ++ ")"

def lineBreak : String := "\r\n"

def encodeRequest (address : Address) (request : Request) : Bytes :=
  let body := Utf8.encode request.body
  Utf8.encode (String.join
    [request.method, " ", address.target, " HTTP/1.0", lineBreak,
      "Host: ", address.host, ":", toString address.portNumber, lineBreak,
      "Content-Type: ", request.contentType, lineBreak,
      "Content-Length: ", toString body.length, lineBreak,
      "Connection: close", lineBreak, lineBreak]) ++ body

/-- The lines of a head and the bytes behind it; `line` is the one being read, last byte first. -/
def splitHead (line : Bytes) : Bytes → Option (List Bytes × Bytes)
  | [] => none
  | 0x0D :: rest => splitHead line rest
  | 0x0A :: rest =>
    if line = [] then some ([], rest)
    else (splitHead [] rest).map fun p => (line.reverse :: p.1, p.2)
  | b :: rest => splitHead (b :: line) rest

def status? (line : Bytes) : Option Nat :=
  match (Utf8.decodeLossy line).splitOn " " with
  | _ :: code :: _ => Config.seconds? code
  | _ => none

def announcedLength? (lines : List Bytes) : Option Nat :=
  lines.findSome? fun line =>
    let cs := (Utf8.decodeLossy line).toList
    let name := cs.takeWhile (· ≠ ':')
    if (name.map Char.toLower) = "content-length".toList then
      Config.seconds? (Text.trim (String.ofList (cs.drop (name.length + 1))))
    else none

def decodeResponse (bytes : Bytes) : Except String Response :=
  match splitHead [] bytes with
  | some (first :: headers, body) =>
    match status? first, announcedLength? headers with
    | none, _ => .error "invalid response"
    | some status, none => .ok ⟨status, body⟩
    | some status, some n =>
      if n ≤ body.length then .ok ⟨status, body.take n⟩ else .error "error decoding response body"
  | _ => .error "connection closed before message completed"

end AutomatonChart.Http
