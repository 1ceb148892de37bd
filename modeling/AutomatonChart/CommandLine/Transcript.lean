import AutomatonChart.CommandLine.Program

/-! # Transcripts

All that a run leaves behind, as a value: what it wrote and told, the files, and the requests it
sent. The standard input and the service's answers are given beforehand.
-/
namespace AutomatonChart

structure Transcript where
  output : Output := {}
  complaints : String := ""
  files : FileTree := .fresh
  requests : List Request := []

structure Exchange where
  setUp : Timeouts → Except String Unit
  answer : Request → Except String Response

namespace Transcript

def onOutput {α : Type} (act : StateM Output α) : StateM Transcript α := fun t =>
  let (a, output) := act t.output
  (a, { t with output })

def onFiles {α : Type} (act : StateM FileTree α) : StateM Transcript α := fun t =>
  let (a, files) := act t.files
  (a, { t with files })

def complain (text : String) : StateM Transcript Unit := fun t =>
  ((), { t with complaints := t.complaints ++ text })

/-- Every request is recorded, whatever becomes of it. -/
def transport (exchange : Exchange) : Transport (StateM Transcript) where
  setUp timeouts t := (exchange.setUp timeouts, t)
  send request t := (exchange.answer request, { t with requests := t.requests ++ [request] })

def platform (input : Bytes) (exchange : Exchange) : Platform (StateM Transcript) where
  standardInput t := (.ok input, t)
  readFile p t := ((t.files.read p).mapError FileError.message, t)
  files :=
    { makeDirectories := fun p => onFiles (FileTree.store.makeDirectories p)
      write := fun p content => onFiles (FileTree.store.write p content) }
  output :=
    { write := fun bytes => onOutput (Output.sink.write bytes)
      flush := onOutput Output.sink.flush }
  complain := complain
  transport := transport exchange

end Transcript
end AutomatonChart
