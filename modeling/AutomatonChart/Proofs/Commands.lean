import AutomatonChart.CommandLine.Transcript
import AutomatonChart.Proofs.Submission

/-! # What a command leaves behind

A run either ends early, with an error and nothing done, or it runs a session and tells about it. A
command that has its diagrams written to the output touches, of all that a transcript holds, the
output, the complaints and the requests. What it does there is told by the session that it runs on
the output alone.
-/
namespace AutomatonChart

namespace Output
variable {o : Output} {bytes : Bytes} {n : Nat}

/-- The output when it has been given some bytes: it keeps the first of them that it has room for. -/
def given (o : Output) (bytes : Bytes) : Output :=
  { o with
    written := o.written ++ bytes.take (o.room.getD bytes.length)
    room := o.room.map (· - bytes.length) }

theorem write_state (bytes : Bytes) (o : Output) : (o.write bytes).2 = o.given bytes := by
  obtain ⟨written, room, flushFailure⟩ := o
  cases room with
  | none => simp only [write, given, Option.getD_none, List.take_length, Option.map_none]
  | some n => rfl

theorem write_of_fits (hfits : ∀ n, o.room = some n → bytes.length ≤ n) :
    (o.write bytes).1 = .ok () := by
  obtain ⟨written, room, flushFailure⟩ := o
  cases room with
  | none => rfl
  | some n => exact if_pos (hfits n rfl)

theorem write_of_long (hroom : o.room = some n) (hlong : n < bytes.length) :
    (o.write bytes).1 = .error "failed to write whole buffer" := by
  obtain ⟨written, room, flushFailure⟩ := o
  obtain rfl : room = some n := hroom
  exact if_neg (Nat.not_le.mpr hlong)

theorem flush_state (o : Output) : o.flush.2 = o := by
  obtain ⟨written, room, flushFailure⟩ := o
  cases flushFailure <;> rfl

end Output

namespace Stream

theorem renderer_eq (role : Role) (text : String) (o : Output) :
    renderer Output.sink role text o =
      match o.write (block role text) with
      | (.error reason, o) => (.error (.stream reason), o)
      | (.ok (), o) =>
        match o.flush with
        | (.error reason, o) => (.error (.stream reason), o)
        | (.ok (), o) => (.ok (), o) := by
  simp only [renderer, bind, StateT.bind, Output.sink]
  rcases o.write (block role text) with ⟨reason | ⟨⟩, o₁⟩
  · rfl
  · simp only [StateT.bind]
    rcases o₁.flush with ⟨reason | ⟨⟩, o₂⟩ <;> rfl

theorem renderer_state (role : Role) (text : String) (o : Output) :
    (renderer Output.sink role text o).2 = o.given (block role text) := by
  rw [renderer_eq, ← Output.write_state]
  rcases o.write (block role text) with ⟨reason | ⟨⟩, o₁⟩
  · rfl
  · have hflushed := Output.flush_state o₁
    dsimp only
    rcases hflush : o₁.flush with ⟨reason | ⟨⟩, o₂⟩
    · rw [hflush] at hflushed
      exact hflushed
    · rw [hflush] at hflushed
      exact hflushed

theorem renderer_ok (role : Role) (text : String) {o : Output} (hflush : o.flushFailure = none)
    (hfits : ∀ n, o.room = some n → (block role text).length ≤ n) :
    (renderer Output.sink role text o).1 = .ok () := by
  have hwrite : o.write (block role text) = (.ok (), o.given (block role text)) :=
    Prod.ext (Output.write_of_fits hfits) (Output.write_state _ o)
  have hflushed : (o.given (block role text)).flush = (.ok (), o.given (block role text)) := by
    simp only [Output.flush, Output.given, hflush]
  rw [renderer_eq, hwrite]
  simp only [hflushed]

end Stream

namespace Transcript

theorem onOutput_pure {α : Type} (a : α) : onOutput (pure a) = pure a := rfl

theorem onOutput_bind {α β : Type} (x : StateM Output α) (f : α → StateM Output β) :
    onOutput (x >>= f) = onOutput x >>= fun a => onOutput (f a) := rfl

theorem onFiles_pure {α : Type} (a : α) : onFiles (pure a) = pure a := rfl

theorem onFiles_bind {α β : Type} (x : StateM FileTree α) (f : α → StateM FileTree β) :
    onFiles (x >>= f) = onFiles x >>= fun a => onFiles (f a) := rfl

section Streaming
variable (stdin : Bytes) (exchange : Exchange)

theorem stream_platform (role : Role) (text : String) :
    Stream.renderer (platform stdin exchange).output role text =
      onOutput (Stream.renderer Output.sink role text) :=
  Stream.renderer_lift onOutput onOutput_pure onOutput_bind role text Output.sink

theorem directory_platform (dir : Path) (format : OutputFormat) (role : Role) (text : String) :
    Directory.renderer (platform stdin exchange).files dir format role text =
      onFiles (Directory.renderer FileTree.store dir format role text) :=
  Directory.renderer_lift onFiles onFiles_pure onFiles_bind role text FileTree.store dir format

theorem replay_platform (reply : Reply) :
    Session.replay (Stream.renderer (platform stdin exchange).output) reply =
      onOutput (Session.replay (Stream.renderer Output.sink) reply) := by
  have hrenderer : Stream.renderer (platform stdin exchange).output =
      fun role text => onOutput (Stream.renderer Output.sink role text) := by
    funext role text
    exact stream_platform stdin exchange role text
  rw [Session.replay, hrenderer]
  exact View.renderPanes_lift onOutput onOutput_pure onOutput_bind _ _

theorem settle_platform (result : Except ServiceError Reply) :
    Session.settle (Stream.renderer (platform stdin exchange).output) result =
      onOutput (Session.settle (Stream.renderer Output.sink) result) := by
  cases result with
  | error e => rfl
  | ok reply => exact replay_platform stdin exchange reply

end Streaming

theorem bind_apply {σ α β : Type} {x : StateM σ α} {f : α → StateM σ β} {s s' : σ} {a : α}
    (h : x s = (a, s')) : (x >>= f) s = f a s' := by
  simp only [bind, StateT.bind, h]

section Runs
variable {stdin : Bytes} {exchange : Exchange} {env : Environment} {t : Transcript}

def told (ended : View × Transcript) : Except RunError ExitStatus × Transcript :=
  (.ok ended.1.report.status,
    { ended.2 with complaints := ended.2.complaints ++ ended.1.report.text })

def printed (t : Transcript) (text : String) : Except RunError ExitStatus × Transcript :=
  (.ok (.ofPrint (t.output.write (Utf8.encode text)).1),
    { t with output := (t.output.write (Utf8.encode text)).2 })

/-- How a print ends a run. The output has been given the text and nothing else has changed. The run
is a success if there was room for all of it, and has crashed in the middle if there was not. -/
structure Prints (t : Transcript) (text : String)
    (run : Except RunError ExitStatus × Transcript) : Prop where
  left : run.2 = { t with output := t.output.given (Utf8.encode text) }
  whole : (∀ n, t.output.room = some n → (Utf8.encode text).length ≤ n) → run.1 = .ok .success
  cut : ∀ n, t.output.room = some n → n < (Utf8.encode text).length →
    run.1 = .ok (.crashed "failed printing to stdout: failed to write whole buffer")

theorem printed_prints (t : Transcript) (text : String) : Prints t text (t.printed text) where
  left := by rw [printed, Output.write_state]
  whole hfits := by
    rw [printed, Output.write_of_fits hfits]
    rfl
  cut n hroom hlong := by
    rw [printed, Output.write_of_long hroom hlong]
    rfl

theorem Prints.of_unlimited {t : Transcript} {text : String}
    {run : Except RunError ExitStatus × Transcript} (h : Prints t text run)
    (hroom : t.output.room = none) : run.1 = .ok .success := by
  apply h.whole
  intro n hn
  cases hroom.symm.trans hn

theorem readInput_state (name : String) :
    (platform stdin exchange).readInput name t =
      (((platform stdin exchange).readInput name t).1, t) := by
  unfold Platform.readInput
  by_cases hn : name = "-"
  · rw [if_pos hn]
    rfl
  · rw [if_neg hn]
    rfl

/-- A submission past its configuration, its set-up and its input is a session, and anything that
goes wrong before is an error and leaves everything as it is. -/
theorem run_minimize (options : MinimizeOptions) :
    (platform stdin exchange).run env (.minimize options) t =
      match Platform.configure env options.serviceUrl with
      | .error e => (.error (.service e), t)
      | .ok config =>
        match exchange.setUp config.timeouts with
        | .error reason => (.error (.service (.clientSetup reason)), t)
        | .ok () =>
          match ((platform stdin exchange).readInput options.input t).1 with
          | .error e => (.error e, t)
          | .ok source =>
            told (Session.minimize ⟨config.url⟩ (platform stdin exchange).transport
              ((platform stdin exchange).renderer options) source t) := by
  have hread := @readInput_state stdin exchange t options.input
  unfold Platform.run Platform.runMinimize
  dsimp only
  cases Platform.configure env options.serviceUrl with
  | error e => rfl
  | ok config =>
    dsimp only
    cases hsetUp : exchange.setUp config.timeouts with
    | error reason =>
      have hcreate : Client.create (platform stdin exchange).transport config t =
          (.error (.clientSetup reason), t) := by
        simp only [Client.create, bind, StateT.bind, platform, transport, hsetUp]
        rfl
      rw [bind_apply hcreate]
      rfl
    | ok _ =>
      have hcreate : Client.create (platform stdin exchange).transport config t =
          (.ok ⟨config.url⟩, t) := by
        simp only [Client.create, bind, StateT.bind, platform, transport, hsetUp]
        rfl
      rw [bind_apply hcreate]
      dsimp only
      rw [bind_apply hread]
      cases ((platform stdin exchange).readInput options.input t).1 <;> rfl

theorem run_compile (input : String) :
    (platform stdin exchange).run env (.compile input) t =
      match ((platform stdin exchange).readInput input t).1 with
      | .error e => (.error e, t)
      | .ok text =>
        match Json.parse text with
        | .error e => (.error (.description (.syntaxError e)), t)
        | .ok document =>
          if (document.member? "original").isNone then
            match Description.ofJson document with
            | .error e => (.error (.description e), t)
            | .ok d => t.printed d.flowchart
          else
            match Reply.ofJson 200 document with
            | .error e => (.error (.service e), t)
            | .ok reply =>
              told (Session.replay (Stream.renderer (platform stdin exchange).output) reply t) := by
  have hread := @readInput_state stdin exchange t input
  unfold Platform.run Platform.runCompile
  dsimp only
  rw [bind_apply hread]
  cases ((platform stdin exchange).readInput input t).1 with
  | error e => rfl
  | ok text =>
    dsimp only
    cases Json.parse text with
    | error e => rfl
    | ok document =>
      dsimp only
      by_cases ho : (document.member? "original").isNone = true
      · simp only [if_pos ho, Platform.draw]
        cases Description.ofJson document <;> rfl
      · simp only [if_neg ho]
        cases Reply.ofJson 200 document <;> rfl

end Runs

/-- The input that a command names holds just this text. -/
def Holds (stdin : Bytes) (files : FileTree) (name text : String) : Prop :=
  (if name = "-" then .ok stdin else files.read (Path.ofText name)) = .ok (Utf8.encode text)

theorem readInput_platform {stdin : Bytes} {t : Transcript} {name text : String}
    (h : Holds stdin t.files name text) (exchange : Exchange) :
    (platform stdin exchange).readInput name t = (.ok text, t) := by
  have hdecode : ∀ shown, Platform.decodeInput shown (.ok (Utf8.encode text)) = .ok text := by
    intro shown
    simp only [Platform.decodeInput, Utf8.decode?_encode]
  unfold Holds at h
  unfold Platform.readInput
  by_cases hn : name = "-"
  · rw [if_pos hn] at h
    rw [if_pos hn, ← hdecode "stdin", ← Except.ok.inj h]
    rfl
  · rw [if_neg hn] at h
    rw [if_neg hn, ← hdecode name]
    simp only [bind, StateT.bind, platform, h]
    rfl

def concluded (t : Transcript) (session : View × Output) :
    Except RunError ExitStatus × Transcript :=
  (.ok session.1.report.status,
    { t with output := session.2, complaints := t.complaints ++ session.1.report.text })

section Compile
variable {stdin : Bytes} {t : Transcript} {name text : String} {document : Json}
variable (hreads : Holds stdin t.files name text) (hparse : Json.parse text = .ok document)
variable (exchange : Exchange) (env : Environment)
include hreads hparse

theorem run_compile_of_reply (horiginal : (document.member? "original").isSome = true)
    {reply : Reply} (hreply : Reply.ofJson 200 document = .ok reply) :
    (platform stdin exchange).run env (.compile name) t =
      t.concluded (Session.replay (Stream.renderer Output.sink) reply t.output) := by
  rw [run_compile, readInput_platform hreads]
  simp only [hparse, Option.isNone_eq_false_iff.mpr horiginal, hreply, replay_platform]
  rfl

theorem run_compile_of_refused (horiginal : (document.member? "original").isSome = true)
    {e : ServiceError} (hreply : Reply.ofJson 200 document = .error e) :
    (platform stdin exchange).run env (.compile name) t = (.error (.service e), t) := by
  rw [run_compile, readInput_platform hreads]
  simp only [hparse, Option.isNone_eq_false_iff.mpr horiginal, hreply]
  rfl

theorem run_compile_of_description (horiginal : document.member? "original" = none)
    {d : Description} (hd : Description.ofJson document = .ok d) :
    (platform stdin exchange).run env (.compile name) t = t.printed d.flowchart := by
  rw [run_compile, readInput_platform hreads]
  simp only [hparse, horiginal, hd]
  rfl

theorem run_compile_of_unreadable (horiginal : document.member? "original" = none)
    {e : DescriptionError} (hd : Description.ofJson document = .error e) :
    (platform stdin exchange).run env (.compile name) t = (.error (.description e), t) := by
  rw [run_compile, readInput_platform hreads]
  simp only [hparse, horiginal, hd]
  rfl

end Compile

section Minimize
variable {stdin : Bytes} {t : Transcript} {env : Environment} {options : MinimizeOptions}
variable {config : Config} {source : String} {exchange : Exchange}

/-- The command gets as far as its request, and what comes of it goes to the output. -/
structure Submits (stdin : Bytes) (exchange : Exchange) (env : Environment)
    (options : MinimizeOptions) (files : FileTree) (config : Config) (source : String) : Prop where
  configured : Platform.configure env options.serviceUrl = .ok config
  setUp : exchange.setUp config.timeouts = .ok ()
  input : Holds stdin files options.input source
  not_blank : Text.isBlank source = false
  streams : options.outDir = none

def requested (t : Transcript) (request : Request) : Transcript :=
  { t with requests := t.requests ++ [request] }

theorem minimize_platform (h : Submits stdin exchange env options t.files config source)
    (client : Client) :
    Session.minimize client (platform stdin exchange).transport
        ((platform stdin exchange).renderer options) source t =
      onOutput (Session.settle (Stream.renderer Output.sink)
        (client.interpret (exchange.answer (client.request source))))
        (t.requested (client.request source)) := by
  rw [Session.minimize_eq, if_neg (by simp [h.not_blank]), Platform.renderer, h.streams]
  rw [← settle_platform stdin exchange]
  rfl

theorem run_minimize_platform (h : Submits stdin exchange env options t.files config source) :
    (platform stdin exchange).run env (.minimize options) t =
      (t.requested (Client.request ⟨config.url⟩ source)).concluded
        (Session.settle (Stream.renderer Output.sink)
          (Client.interpret ⟨config.url⟩ (exchange.answer (Client.request ⟨config.url⟩ source)))
          t.output) := by
  rw [run_minimize, h.configured]
  simp only [h.setUp, readInput_platform h.input, minimize_platform h]
  rfl

end Minimize
end Transcript
end AutomatonChart
