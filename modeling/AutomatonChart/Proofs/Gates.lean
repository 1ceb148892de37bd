import AutomatonChart.Proofs.Submission

/-! # What stands before a request

A submission passes five gates before anything is sent: the configuration, the set-up of the client,
the reading of the input, its decoding as text, and the test for blanks. The first gate that is
closed decides how the run ends; past the last one there is one request, with the input as it was
read. This is told of a journal, for every platform, whatever it does at each step and after. A
command that draws what it reads sends nothing.
-/
namespace AutomatonChart

section Recording
variable {σ : Type}

namespace Journal
variable {α β : Type}

/-- Work on the surroundings, of which the journal has nothing to tell. -/
def onWorld (act : StateM σ α) : StateM (Journal σ) α := fun j =>
  let (a, world) := act j.world
  (a, { j with world })

theorem onWorld_pure (a : α) : onWorld (σ := σ) (pure a) = pure a := rfl

theorem onWorld_bind (x : StateM σ α) (f : α → StateM σ β) :
    onWorld (x >>= f) = onWorld x >>= fun a => onWorld (f a) := rfl

theorem erases_onWorld (act : StateM σ α) : Erases (onWorld act) act := fun _ => ⟨rfl, rfl⟩

end Journal
end Recording

open Journal

namespace Platform

/-- What the configuration of a submission comes to. The environment must be usable in any case, and
a URL of the command line is then put in the place of its own. -/
inductive Configures (env : Environment) (given : Option String) :
    Except ServiceError Config → Prop
  | refused {e : ServiceError} (unusable : Config.ofEnvironment env = .error e) :
      Configures env given (.error e)
  | kept {config : Config} (usable : Config.ofEnvironment env = .ok config) (none : given = none) :
      Configures env given (.ok config)
  | replaced {config : Config} {url : String} {result : Except ServiceError Config}
      (usable : Config.ofEnvironment env = .ok config) (other : given = some url)
      (put : config.withUrl url = result) : Configures env given result

theorem configure_of_usable {env : Environment} {config : Config}
    (h : Config.ofEnvironment env = .ok config) (given : Option String) :
    configure env given = match given with
      | some url => config.withUrl url
      | none => .ok config := by
  unfold configure
  rw [h]
  rfl

theorem configures_iff {env : Environment} {given : Option String}
    {result : Except ServiceError Config} :
    Configures env given result ↔ configure env given = result := by
  constructor
  · intro h
    cases h with
    | refused unusable =>
      unfold configure
      rw [unusable]
      rfl
    | kept usable none => rw [configure_of_usable usable, none]
    | replaced usable other put => rw [configure_of_usable usable, other, ← put]
  · rintro rfl
    cases henv : Config.ofEnvironment env with
    | error e =>
      unfold configure
      rw [henv]
      exact .refused henv
    | ok config =>
      rw [configure_of_usable henv]
      cases given with
      | none => exact .kept henv rfl
      | some url => exact .replaced henv rfl rfl

section Program
variable {m : Type → Type} [Monad m] (platform : Platform m)

def inputBytes (name : String) : m (Except String Bytes) :=
  if name = "-" then platform.standardInput else platform.readFile (Path.ofText name)

def inputTitle (name : String) : String := if name = "-" then "stdin" else name

theorem readInput_eq (name : String) :
    platform.readInput name =
      platform.inputBytes name >>= fun found => pure (decodeInput (inputTitle name) found) := by
  unfold readInput inputBytes inputTitle
  split <;> rfl

theorem run_minimize_eq [LawfulMonad m] (env : Environment) (options : MinimizeOptions) :
    platform.run env (.minimize options) =
      match configure env options.serviceUrl with
      | .error e => pure (.error (.service e))
      | .ok config =>
        platform.transport.setUp config.timeouts >>= fun
          | .error reason => pure (.error (.service (.clientSetup reason)))
          | .ok () => platform.inputBytes options.input >>= fun found =>
            match decodeInput (inputTitle options.input) found with
            | .error e => pure (.error e)
            | .ok source =>
              Session.minimize ⟨config.url⟩ platform.transport (platform.renderer options) source >>=
                fun v => platform.conclude v >>= fun status => pure (.ok status) := by
  unfold run runMinimize
  dsimp only
  cases configure env options.serviceUrl with
  | error e => rfl
  | ok config =>
    simp only [Client.create, bind_assoc]
    congr 1
    funext made
    cases made with
    | error reason => simp only [pure_bind]
    | ok _ =>
      have hread : ∀ next : Except RunError String → m (Except RunError ExitStatus),
          platform.readInput options.input >>= next = platform.inputBytes options.input >>=
            fun found => next (decodeInput (inputTitle options.input) found) := by
        intro next
        simp only [readInput_eq, bind_assoc, pure_bind]
      rw [pure_bind]
      exact hread _

end Program

section Recorded
variable {σ : Type}

def recorded (platform : Platform (StateM σ)) : Platform (StateM (Journal σ)) where
  standardInput := onWorld platform.standardInput
  readFile p := onWorld (platform.readFile p)
  files := ⟨fun p => onWorld (platform.files.makeDirectories p),
    fun p content => onWorld (platform.files.write p content)⟩
  output := ⟨fun bytes => onWorld (platform.output.write bytes), onWorld platform.output.flush⟩
  complain text := onWorld (platform.complain text)
  transport := platform.transport.recorded

variable (platform : Platform (StateM σ)) (env : Environment) (options : MinimizeOptions)

theorem inputBytes_recorded (name : String) :
    platform.recorded.inputBytes name = onWorld (platform.inputBytes name) := by
  unfold inputBytes
  split <;> rfl

theorem readInput_recorded (name : String) :
    platform.recorded.readInput name = onWorld (platform.readInput name) := by
  rw [readInput_eq, readInput_eq, inputBytes_recorded]
  rfl

theorem conclude_recorded (v : View) : platform.recorded.conclude v = onWorld (platform.conclude v) :=
  rfl

theorem stream_recorded :
    Stream.renderer platform.recorded.output =
      fun role text => onWorld (Stream.renderer platform.output role text) := by
  funext role text
  exact Stream.renderer_lift onWorld onWorld_pure onWorld_bind role text platform.output

theorem renderer_recorded :
    platform.recorded.renderer options =
      fun role text => onWorld (platform.renderer options role text) := by
  unfold renderer
  cases options.outDir with
  | none => exact stream_recorded platform
  | some dir =>
    funext role text
    exact Directory.renderer_lift onWorld onWorld_pure onWorld_bind role text platform.files dir
      options.format

theorem settle_recorded (result : Except ServiceError Reply) :
    Session.settle (platform.recorded.renderer options) result =
      onWorld (Session.settle (platform.renderer options) result) := by
  rw [renderer_recorded]
  cases result with
  | error e => rfl
  | ok reply => exact View.renderPanes_lift onWorld onWorld_pure onWorld_bind _ reply.view

theorem run_compile_recorded (input : String) :
    platform.recorded.run env (.compile input) = onWorld (platform.run env (.compile input)) := by
  unfold run runCompile
  dsimp only
  rw [readInput_recorded, onWorld_bind]
  congr 1
  funext found
  cases found with
  | error e => rfl
  | ok text =>
    dsimp only
    cases Json.parse text with
    | error e => rfl
    | ok document =>
      dsimp only
      split
      · unfold draw
        cases Description.ofJson document <;> rfl
      · cases Reply.ofJson 200 document with
        | error e => rfl
        | ok reply =>
          have hreplay : Session.replay (Stream.renderer platform.recorded.output) reply =
              onWorld (Session.replay (Stream.renderer platform.output) reply) := by
            rw [stream_recorded]
            exact View.renderPanes_lift onWorld onWorld_pure onWorld_bind _ reply.view
          dsimp only
          rw [hreplay, onWorld_bind]
          rfl

theorem run_erases (command : Command) :
    Erases (platform.recorded.run env command) (platform.run env command) := by
  cases command with
  | compile input =>
    rw [run_compile_recorded]
    exact erases_onWorld _
  | minimize options =>
    rw [run_minimize_eq, run_minimize_eq]
    cases configure env options.serviceUrl with
    | error e => exact .pure _
    | ok config =>
      refine .bind (fun _ => ⟨rfl, rfl⟩) fun made => ?_
      cases made with
      | error reason => exact .pure _
      | ok _ =>
        rw [inputBytes_recorded]
        refine .bind (erases_onWorld _) fun found => ?_
        cases decodeInput (inputTitle options.input) found with
        | error e => exact .pure _
        | ok source =>
          have hminimize : Erases
              (Session.minimize ⟨config.url⟩ platform.recorded.transport
                (platform.recorded.renderer options) source)
              (Session.minimize ⟨config.url⟩ platform.transport
                (platform.renderer options) source) := by
            rw [Session.minimize_eq, Session.minimize_eq]
            split
            · exact .pure _
            · refine .bind (.send _ _) fun answer => ?_
              rw [settle_recorded]
              exact erases_onWorld _
          refine .bind hminimize fun v => ?_
          rw [conclude_recorded]
          exact .bind (erases_onWorld _) fun status => .pure _

/-- The input can be read as it is now: its bytes are there and they are this text. -/
def Reads (name source : String) (w : σ) : Prop :=
  ∃ bytes w', platform.inputBytes name w = (.ok bytes, w') ∧ Utf8.decode? bytes = some source

/-- All gates before the request are open. -/
structure Clears (config : Config) (source : String) (w : σ) : Prop where
  configured : Configures env options.serviceUrl (.ok config)
  ready : ∃ w', platform.transport.setUp config.timeouts w = (.ok (), w') ∧
    platform.Reads options.input source w'
  not_blank : Text.isBlank source = false

/-- How a run ends at the first gate that is closed, and what has been done by then. -/
inductive Halts (w : σ) : Except RunError ExitStatus × σ → Prop
  | misconfigured {e : ServiceError} (refused : Configures env options.serviceUrl (.error e)) :
      Halts w (.error (.service e), w)
  | withoutClient {config : Config} {reason : String} {w₁ : σ}
      (configured : Configures env options.serviceUrl (.ok config))
      (refused : platform.transport.setUp config.timeouts w = (.error reason, w₁)) :
      Halts w (.error (.service (.clientSetup reason)), w₁)
  | unreadable {config : Config} {reason : String} {w₁ w₂ : σ}
      (configured : Configures env options.serviceUrl (.ok config))
      (setUp : platform.transport.setUp config.timeouts w = (.ok (), w₁))
      (refused : platform.inputBytes options.input w₁ = (.error reason, w₂)) :
      Halts w (.error (.input (inputTitle options.input) reason), w₂)
  | notText {config : Config} {bytes : Bytes} {w₁ w₂ : σ}
      (configured : Configures env options.serviceUrl (.ok config))
      (setUp : platform.transport.setUp config.timeouts w = (.ok (), w₁))
      (read : platform.inputBytes options.input w₁ = (.ok bytes, w₂))
      (refused : Utf8.decode? bytes = none) :
      Halts w (.error (.input (inputTitle options.input) "stream did not contain valid UTF-8"), w₂)
  | blank {config : Config} {bytes : Bytes} {source : String} {w₁ w₂ : σ}
      (configured : Configures env options.serviceUrl (.ok config))
      (setUp : platform.transport.setUp config.timeouts w = (.ok (), w₁))
      (read : platform.inputBytes options.input w₁ = (.ok bytes, w₂))
      (decoded : Utf8.decode? bytes = some source) (refused : Text.isBlank source = true) :
      Halts w (.ok .failure,
        (platform.complain "please provide the automaton definition\n" w₂).2)

theorem halts_or_clears (w : σ) :
    (∃ result, platform.Halts env options w result) ∨
      ∃ config source, platform.Clears env options config source w := by
  cases hconfig : configure env options.serviceUrl with
  | error e => exact .inl ⟨_, .misconfigured (configures_iff.mpr hconfig)⟩
  | ok config =>
    have hconfig := configures_iff.mpr hconfig
    rcases hsetUp : platform.transport.setUp config.timeouts w with ⟨reason | ⟨⟩, w₁⟩
    · exact .inl ⟨_, .withoutClient hconfig hsetUp⟩
    rcases hread : platform.inputBytes options.input w₁ with ⟨reason | bytes, w₂⟩
    · exact .inl ⟨_, .unreadable hconfig hsetUp hread⟩
    cases hdecode : Utf8.decode? bytes with
    | none => exact .inl ⟨_, .notText hconfig hsetUp hread hdecode⟩
    | some source =>
      cases hblank : Text.isBlank source with
      | true => exact .inl ⟨_, .blank hconfig hsetUp hread hdecode hblank⟩
      | false => exact .inr ⟨config, source, hconfig, ⟨w₁, hsetUp, bytes, w₂, hread, hdecode⟩, hblank⟩

section Steps
variable {platform env options} {config : Config} {w w₁ w₂ : σ}

theorem run_recorded_of_setUp (configured : configure env options.serviceUrl = .ok config)
    (setUp : platform.transport.setUp config.timeouts w = (.ok (), w₁)) :
    platform.recorded.run env (.minimize options) { world := w } =
      (onWorld (platform.inputBytes options.input) >>= fun found =>
        match decodeInput (inputTitle options.input) found with
        | .error e => pure (.error e)
        | .ok source =>
          Session.minimize ⟨config.url⟩ platform.recorded.transport
              (platform.recorded.renderer options) source >>=
            fun v => platform.recorded.conclude v >>= fun status => pure (.ok status))
        { world := w₁ } := by
  have hsetUp : platform.recorded.transport.setUp config.timeouts { world := w } =
      (.ok (), { world := w₁ }) := by
    simp only [recorded, Transport.recorded, setUp]
  rw [run_minimize_eq, configured, inputBytes_recorded]
  simp only [bind, StateT.bind, hsetUp]

theorem run_recorded_of_read {bytes : Bytes} {source : String}
    (configured : configure env options.serviceUrl = .ok config)
    (setUp : platform.transport.setUp config.timeouts w = (.ok (), w₁))
    (read : platform.inputBytes options.input w₁ = (.ok bytes, w₂))
    (decoded : Utf8.decode? bytes = some source) :
    platform.recorded.run env (.minimize options) { world := w } =
      (Session.minimize ⟨config.url⟩ platform.recorded.transport
          (platform.recorded.renderer options) source >>=
        fun v => platform.recorded.conclude v >>= fun status => pure (.ok status))
        { world := w₂ } := by
  rw [run_recorded_of_setUp configured setUp]
  simp only [bind, StateT.bind, onWorld, read, decodeInput, decoded]

/-- At a closed gate the run is over, and nothing has been sent. -/
theorem run_recorded_of_halts {result : Except RunError ExitStatus × σ}
    (h : platform.Halts env options w result) :
    platform.recorded.run env (.minimize options) { world := w } =
      (result.1, { world := result.2 }) := by
  cases h with
  | misconfigured refused =>
    rw [run_minimize_eq, configures_iff.mp refused]
    rfl
  | @withoutClient config reason w₁ configured refused =>
    have hsetUp : platform.recorded.transport.setUp config.timeouts { world := w } =
        (.error reason, { world := w₁ }) := by
      simp only [recorded, Transport.recorded, refused]
    rw [run_minimize_eq, configures_iff.mp configured]
    simp only [bind, StateT.bind, hsetUp]
    rfl
  | unreadable configured setUp refused =>
    rw [run_recorded_of_setUp (configures_iff.mp configured) setUp]
    simp only [bind, StateT.bind, onWorld, refused, decodeInput]
    rfl
  | notText configured setUp read refused =>
    rw [run_recorded_of_setUp (configures_iff.mp configured) setUp]
    simp only [bind, StateT.bind, onWorld, read, decodeInput, refused]
    rfl
  | blank configured setUp read decoded refused =>
    rw [run_recorded_of_read (configures_iff.mp configured) setUp read decoded,
      Session.minimize_eq, if_pos refused]
    rfl

/-- Past the last gate one request is sent, and its answer leads to no further one. -/
theorem exchanges_of_clears {source : String} (h : platform.Clears env options config source w) :
    ∃ answer, (platform.recorded.run env (.minimize options) { world := w }).2.exchanges =
      [(⟨"POST", config.url, "text/plain", source⟩, answer)] := by
  obtain ⟨configured, ⟨w₁, setUp, bytes, w₂, read, decoded⟩, not_blank⟩ := h
  rw [run_recorded_of_read (configures_iff.mp configured) setUp read decoded,
    Session.minimize_eq, if_neg (by simp [not_blank])]
  simp only [settle_recorded, conclude_recorded]
  exact ⟨(platform.transport.send (Client.request ⟨config.url⟩ source) w₂).1, rfl⟩

end Steps

/-- A command sends one request at most. It sends one just if it is a submission of which all gates
are open, to the place that was configured and with the text that was read. A submission that sends
none ends as the first closed gate has it, and has done nothing past that. -/
theorem requests_gated (command : Command) (w : σ) :
    let run := platform.recorded.run env command { world := w }
    (run.1, run.2.world) = platform.run env command w ∧
    run.2.exchanges.length ≤ 1 ∧
    (run.2.exchanges ≠ [] ↔ ∃ options config source, command = .minimize options ∧
      platform.Clears env options config source w) ∧
    (∀ request ∈ run.2.exchanges.map Prod.fst, ∃ options config source,
      command = .minimize options ∧ platform.Clears env options config source w ∧
        request = ⟨"POST", config.url, "text/plain", source⟩) ∧
    ∀ options, command = .minimize options → run.2.exchanges = [] →
      platform.Halts env options w (run.1, run.2.world) := by
  obtain ⟨hresult, hworld⟩ := run_erases platform env command { world := w }
  dsimp only
  refine ⟨Prod.ext hresult hworld, ?_⟩
  cases command with
  | compile input =>
    have hnone : (platform.recorded.run env (.compile input) { world := w }).2.exchanges = [] := by
      rw [run_compile_recorded]
      rfl
    rw [hnone]
    refine ⟨Nat.zero_le 1, ⟨fun h => absurd rfl h, ?_⟩, nofun, nofun⟩
    rintro ⟨options, config, source, ⟨⟩, -⟩
  | minimize options =>
    rcases halts_or_clears platform env options w with ⟨result, h⟩ | ⟨config, source, h⟩
    · rw [run_recorded_of_halts h]
      refine ⟨Nat.zero_le 1, ⟨fun hne => absurd rfl hne, ?_⟩, nofun, ?_⟩
      · rintro ⟨_, config, source, ⟨⟩, hclears⟩
        obtain ⟨answer, hsent⟩ := exchanges_of_clears hclears
        rw [run_recorded_of_halts h] at hsent
        cases hsent
      · rintro _ ⟨⟩ -
        exact h
    · obtain ⟨answer, hsent⟩ := exchanges_of_clears h
      rw [hsent]
      have hne : [((⟨"POST", config.url, "text/plain", source⟩ : Request), answer)] ≠ [] :=
        List.cons_ne_nil _ _
      refine ⟨Nat.le_refl 1, ⟨fun _ => ⟨options, config, source, rfl, h⟩, fun _ => hne⟩, ?_, ?_⟩
      · intro request hrequest
        obtain rfl := List.mem_singleton.mp hrequest
        exact ⟨options, config, source, rfl, h, rfl⟩
      · intro other _ hnone
        exact absurd hnone hne

end Recorded
end Platform
end AutomatonChart
