import AutomatonChart.CommandLine.Program
import AutomatonChart.Service.Http
import Std.Async.DNS
import Std.Async.TCP

/-! # The command line

The program on real files, streams and connections.
-/
namespace AutomatonChart.Host

/-- The number and the text of a failure; some failures are numbered downwards from zero. -/
def fileReason (code : UInt32) (text : String) : String :=
  let n := if code < 0x80000000 then code.toNat else (0 - code).toNat
  match FileError.ofCode? n with
  | some e => e.message
  | none => FileError.describe text n

def reason : IO.Error → String
  | .alreadyExists _ code text => fileReason code text
  | .otherError code text => fileReason code text
  | .noFileOrDirectory _ code text => fileReason code text
  | .invalidArgument _ code text => fileReason code text
  | .permissionDenied _ code text => fileReason code text
  | .resourceExhausted _ code text => fileReason code text
  | .inappropriateType _ code text => fileReason code text
  | .noSuchThing _ code text => fileReason code text
  | e => toString e

def attempt {α : Type} (act : IO α) : IO (Except String α) := do
  try pure (.ok (← act)) catch e => pure (.error (reason e))

partial def readAll (stream : IO.FS.Stream) (done : ByteArray) : IO ByteArray := do
  let chunk ← stream.read 65536
  if chunk.isEmpty then pure done else readAll stream (done ++ chunk)

open Std Async in
partial def receiveAll (client : TCP.Socket.Client) (done : ByteArray) : Async ByteArray := do
  match ← client.recv? 65536 with
  | some chunk => receiveAll client (done ++ chunk)
  | none => pure done

open Std Async in
def converse (address : Http.Address) (request : Request) : Async ByteArray := do
  let found : Array Net.IPAddr ← DNS.getAddrInfo address.host (toString address.portNumber)
  let portNumber := address.portNumber.toUInt16
  let client ← TCP.Socket.Client.mk
  let place : Option Net.SocketAddress := found.toList.head?.map fun
    | .v4 ip => .v4 ⟨ip, portNumber⟩
    | .v6 ip => .v6 ⟨ip, portNumber⟩
  match place with
  | some place => client.connect place
  | none => throw (IO.userError "no such host")
  client.send (ByteArray.mk (Http.encodeRequest address request).toArray)
  receiveAll client ByteArray.empty

def send (request : Request) : IO (Except String Response) := do
  match Http.Address.ofUrl? request.url with
  | none => pure (.error (Http.sendFailure request.url))
  | some address =>
    try
      let answer ← (converse address request).block
      pure (Http.decodeResponse answer.toList)
    catch _ => pure (.error (Http.sendFailure request.url))

def platform : Platform IO where
  standardInput := attempt do
    let bytes ← readAll (← IO.getStdin) ByteArray.empty
    pure bytes.toList
  readFile path := attempt do
    let bytes ← IO.FS.readBinFile path.text
    pure bytes.toList
  files :=
    { makeDirectories := fun path =>
        attempt (if path.bytes = [] then pure () else IO.FS.createDirAll path.text)
      write := fun path content =>
        attempt (IO.FS.writeBinFile path.text (ByteArray.mk content.toArray)) }
  output :=
    { -- the stream keeps back what it is given, so only the flush tells whether it was taken
      write := fun bytes => attempt do
        let out ← IO.getStdout
        out.write (ByteArray.mk bytes.toArray)
        out.flush
      flush := attempt do (← IO.getStdout).flush }
  complain text := IO.eprint text
  transport :=
    { setUp := fun _ => pure (.ok ())
      send := send }

/-- The variables that the program or its environment file may refer to. -/
def environment : IO Environment := do
  let mentioned ← match ← platform.readFile Program.envFile with
    | .ok content => pure (EnvFile.mentioned content)
    | .error _ => pure []
  let found ← (Program.variableNames ++ mentioned).filterMapM fun name => do
    pure ((← IO.getEnv name).map fun value => (name, Utf8.encode value))
  pure fun name => found.lookup name

end AutomatonChart.Host

def main (arguments : List String) : IO UInt32 := do
  let env ← AutomatonChart.Host.environment
  let code ← AutomatonChart.Program.run AutomatonChart.Host.platform env arguments
  pure code.toUInt32
