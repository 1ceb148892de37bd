import AutomatonChart.Proofs.SavedReply

/-! # Runs and their sessions

A run is an error before anything was done, one description drawn, or a session. Configuration,
set-up, input and the reading of a document come before the first output and before the first
directory, so whatever fails there leaves everything as it was, and so does a session that ends with
a notice, but for the requests and the notice itself.
-/
namespace AutomatonChart.Transcript

section Runs
variable {stdin : Bytes} {exchange : Exchange} {env : Environment} {t : Transcript}

/-- The sessions that a command may come to, each with what the service made of its submission and
with a journal. A submission is one as soon as its configuration, its set-up and its input are
there; a saved reply is one if it is accepted. -/
inductive InSession (stdin : Bytes) (exchange : Exchange) (env : Environment) (t : Transcript) :
    Command → Except ServiceError Reply → View × Journal Transcript → Prop
  | submission {options : MinimizeOptions} {config : Config} {source : String}
      (configured : Platform.configure env options.serviceUrl = .ok config)
      (setUp : exchange.setUp config.timeouts = .ok ())
      (input : ((platform stdin exchange).readInput options.input t).1 = .ok source) :
      InSession stdin exchange env t (.minimize options)
        (Client.interpret ⟨config.url⟩ (exchange.answer (Client.request ⟨config.url⟩ source)))
        (Session.minimize ⟨config.url⟩ (platform stdin exchange).transport.recorded
          ((platform stdin exchange).renderer options).recorded source { world := t })
  | saved {input text : String} {document : Json} {reply : Reply}
      (read : ((platform stdin exchange).readInput input t).1 = .ok text)
      (parsed : Json.parse text = .ok document)
      (original : (document.member? "original").isSome = true)
      (accepted : Reply.ofJson 200 document = .ok reply) :
      InSession stdin exchange env t (.compile input) (.ok reply)
        (Session.replay (Stream.renderer (platform stdin exchange).output).recorded reply
          { world := t })

/-- What takes the diagrams of a command. -/
def rendererOf (stdin : Bytes) (exchange : Exchange) : Command → Renderer (StateM Transcript)
  | .minimize options => (platform stdin exchange).renderer options
  | .compile _ => Stream.renderer (platform stdin exchange).output

namespace InSession
variable {command : Command} {result : Except ServiceError Reply}
variable {session : View × Journal Transcript}

theorem run_eq (h : InSession stdin exchange env t command result session) :
    (platform stdin exchange).run env command t = told (session.1, session.2.world) := by
  cases h with
  | @submission options config source configured setUp input =>
    obtain ⟨hview, hworld⟩ := Session.minimize_erases ⟨config.url⟩
      (platform stdin exchange).transport ((platform stdin exchange).renderer options) source
      { world := t }
    rw [run_minimize, configured]
    simp only [setUp, input]
    exact congrArg told (Prod.ext hview.symm hworld.symm)
  | @saved input text document reply read parsed original accepted =>
    obtain ⟨hview, hworld⟩ := View.renderPanes_erases
      (Stream.renderer (platform stdin exchange).output) reply.view { world := t }
    have ho : ¬(document.member? "original").isNone = true := by
      rw [Option.isNone_eq_false_iff.mpr original]
      exact Bool.false_ne_true
    rw [run_compile, read]
    simp only [parsed, if_neg ho, accepted]
    exact congrArg told (Prod.ext hview.symm hworld.symm)

/-- Up to its first diagram a session has changed nothing but the requests. It is over with a
notice, or it has a reply to render. -/
theorem begins (h : InSession stdin exchange env t command result session) :
    ∃ (requests : List Request) (exchanges : List (Request × Except String Response)),
      (∃ notice, session =
        ({ notice := some notice }, { world := { t with requests }, exchanges })) ∨
      ∃ reply, result = .ok reply ∧ session =
        reply.view.renderPanes (rendererOf stdin exchange command).recorded
          { world := { t with requests }, exchanges } := by
  cases h with
  | @submission options config source configured setUp input =>
    cases hb : Text.isBlank source with
    | true =>
      rw [Session.minimize_recorded_of_blank _ _ _ _ _ hb]
      exact ⟨t.requests, [], .inl ⟨.emptyInput, rfl⟩⟩
    | false =>
      rw [Session.minimize_recorded_of_not_blank _ _ _ _ _ hb]
      have hanswer : Session.answered ⟨config.url⟩ (platform stdin exchange).transport source t =
          (exchange.answer (Client.request ⟨config.url⟩ source),
            t.requested (Client.request ⟨config.url⟩ source)) := rfl
      rw [hanswer]
      refine ⟨t.requests ++ [Client.request ⟨config.url⟩ source],
        [(Client.request ⟨config.url⟩ source,
          exchange.answer (Client.request ⟨config.url⟩ source))], ?_⟩
      cases Client.interpret ⟨config.url⟩
          (exchange.answer (Client.request ⟨config.url⟩ source)) with
      | error e => exact .inl ⟨.ofError e, rfl⟩
      | ok reply => exact .inr ⟨reply, rfl, rfl⟩
  | @saved input text document reply read parsed original accepted =>
    exact ⟨t.requests, [], .inr ⟨reply, rfl, rfl⟩⟩

theorem of_answer {options : MinimizeOptions} {config : Config} {source : String}
    {result : Except ServiceError Reply}
    (configured : Platform.configure env options.serviceUrl = .ok config)
    (setUp : exchange.setUp config.timeouts = .ok ())
    (input : ((platform stdin exchange).readInput options.input t).1 = .ok source)
    (not_blank : Text.isBlank source = false)
    (interpreted : Client.interpret ⟨config.url⟩
      (exchange.answer (Client.request ⟨config.url⟩ source)) = result) :
    InSession stdin exchange env t (.minimize options) result
      (Session.settle ((platform stdin exchange).renderer options).recorded result
        { world := t.requested (Client.request ⟨config.url⟩ source)
          exchanges := [(Client.request ⟨config.url⟩ source,
            exchange.answer (Client.request ⟨config.url⟩ source))] }) := by
  have hsession := InSession.submission configured setUp input
  rw [Session.minimize_recorded_of_not_blank _ _ _ _ _ not_blank] at hsession
  subst interpreted
  exact hsession

end InSession

/-- All that a run can come to: an error that leaves everything as it was, one description drawn on
the output, or a session. -/
theorem run_cases (stdin : Bytes) (exchange : Exchange) (env : Environment) (command : Command)
    (t : Transcript) :
    (∃ e, (platform stdin exchange).run env command t = (.error e, t)) ∨
    (∃ d : Description, (platform stdin exchange).run env command t = t.printed d.flowchart) ∨
    ∃ result session, InSession stdin exchange env t command result session := by
  cases command with
  | minimize options =>
    rw [run_minimize]
    cases hconfig : Platform.configure env options.serviceUrl with
    | error e => exact .inl ⟨_, rfl⟩
    | ok config =>
      dsimp only
      cases hsetUp : exchange.setUp config.timeouts with
      | error reason => exact .inl ⟨_, rfl⟩
      | ok _ =>
        cases hinput : ((platform stdin exchange).readInput options.input t).1 with
        | error e => exact .inl ⟨_, rfl⟩
        | ok source => exact .inr (.inr ⟨_, _, .submission hconfig hsetUp hinput⟩)
  | compile input =>
    rw [run_compile]
    cases hinput : ((platform stdin exchange).readInput input t).1 with
    | error e => exact .inl ⟨_, rfl⟩
    | ok text =>
      dsimp only
      cases hparse : Json.parse text with
      | error e => exact .inl ⟨_, rfl⟩
      | ok document =>
        dsimp only
        cases ho : (document.member? "original").isNone with
        | true =>
          cases Description.ofJson document with
          | error e => exact .inl ⟨_, rfl⟩
          | ok d => exact .inr (.inl ⟨d, rfl⟩)
        | false =>
          have horiginal := Option.isNone_eq_false_iff.mp ho
          cases hreply : Reply.ofJson 200 document with
          | error e => exact .inl ⟨_, rfl⟩
          | ok reply => exact .inr (.inr ⟨_, _, .saved hinput hparse horiginal hreply⟩)

theorem InSession.of_notice {command : Command} {result : Except ServiceError Reply}
    {session : View × Journal Transcript}
    (h : InSession stdin exchange env t command result session) {notice : Notice}
    (hnotice : session.1.notice = some notice) :
    session.1 = { notice := some notice } ∧
      ∃ requests, session.2.world = { t with requests } := by
  obtain ⟨requests, exchanges, ⟨found, hsession⟩ | ⟨reply, -, hsession⟩⟩ := h.begins
  · rw [hsession] at hnotice ⊢
    have hfound : found = notice := Option.some.inj hnotice
    subst hfound
    exact ⟨rfl, requests, rfl⟩
  · obtain ⟨v, calls, world, hrendered, hrun⟩ := View.renderPanes_recorded
      (rendererOf stdin exchange command) reply.view { world := { t with requests }, exchanges }
    rw [hsession, hrun] at hnotice
    have hnone : v.notice = none := hrendered.notice
    rw [hnone] at hnotice
    cases hnotice

/-- A run that ends in an error leaves everything as it was. One that ends with a notice fails, and
tells the notice and nothing else; the output and the files are as they were, also where the
diagrams were to go into a directory that is not there. -/
theorem failed_run_leaves_no_trace (stdin : Bytes) (exchange : Exchange) (env : Environment)
    (command : Command) (t : Transcript) :
    let run := (platform stdin exchange).run env command t
    (∀ e, run.1 = .error e → run.2 = t) ∧
    ∀ result session notice, InSession stdin exchange env t command result session →
      session.1.notice = some notice →
      run.1 = .ok .failure ∧ run.2.output = t.output ∧ run.2.files = t.files ∧
        run.2.complaints = t.complaints ++ (notice.message ++ "\n") := by
  dsimp only
  constructor
  · intro e he
    rcases run_cases stdin exchange env command t with
      ⟨e', hrun⟩ | ⟨d, hrun⟩ | ⟨result, session, hsession⟩
    · rw [hrun]
    · rw [hrun] at he
      cases he
    · rw [hsession.run_eq] at he
      cases he
  · intro result session notice hsession hnotice
    obtain ⟨hview, requests, hworld⟩ := hsession.of_notice hnotice
    rw [hsession.run_eq, hview, hworld]
    exact ⟨rfl, rfl, rfl, rfl⟩

end Runs

def intoOut : MinimizeOptions := { plainOptions with outDir := some (Path.ofText "out") }

theorem rejected_submission_leaves_no_trace :
    let run := (platform (Utf8.encode "q0") (answering 500 "\x7b\x7d")).run (fun _ => none)
      (.minimize intoOut) {}
    run.1 = .ok .failure ∧ run.2.output = {} ∧ run.2.files = .fresh ∧
      run.2.complaints = "service error: unknown error\n" := by
  have hparse : Json.parse "\x7b\x7d" = .ok (.object []) :=
    Json.parse_of_holds (by decide +kernel)
  have hrejected : Client.interpret ⟨Config.defaultUrl⟩ (.ok ⟨500, Utf8.encode "\x7b\x7d"⟩) =
      .error (.rejected 500 "unknown error") := by
    rw [Client.interpret_text hparse]
    rfl
  have hsession := @InSession.of_answer (Utf8.encode "q0") (answering 500 "\x7b\x7d")
    (fun _ => none) {} intoOut ⟨Config.defaultUrl, ⟨30, 5⟩⟩ "q0" _ rfl rfl rfl (by decide) hrejected
  obtain ⟨-, hnotice⟩ := failed_run_leaves_no_trace (Utf8.encode "q0")
    (answering 500 "\x7b\x7d") (fun _ => none) (.minimize intoOut) {}
  exact hnotice _ _ (.service "unknown error") hsession rfl

end AutomatonChart.Transcript
