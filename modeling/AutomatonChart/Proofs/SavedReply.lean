import AutomatonChart.Proofs.Commands
import AutomatonChart.Proofs.Fields

/-! # Saved replies

The body of a reply can be saved and drawn again. With a member `original` that is the same as
receiving it; without one the document is read as a description, whatever else it holds.
-/
namespace AutomatonChart

theorem Json.isObject_of_member? {v : Json} {key : String} (h : (v.member? key).isSome = true) :
    v.isObject = true := by
  cases v with
  | object ms => rfl
  | _ => cases h

theorem Client.interpret_text {text : String} {document : Json}
    (hparse : Json.parse text = .ok document) (client : Client) (status : Nat) :
    client.interpret (.ok ⟨status, Utf8.encode text⟩) = Reply.ofJson status document := by
  simp only [Client.interpret, Utf8.decodeLossy_encode, Reply.ofBody, hparse]

namespace View

theorem renderPanes_of_original_failed {m : Type → Type} [Monad m] [LawfulMonad m]
    (renderer : Renderer m) {v : View} {message : String} (h : v.original = .failed message) :
    v.renderPanes renderer = v.renderPane renderer .minimized := by
  have horiginal : v.renderPane renderer .original = pure v :=
    renderPane_of_no_diagram renderer (by simp only [diagram?, pane, h])
  simp [renderPanes, Role.all, horiginal]

theorem report_of_original_failed {v : View} {message : String} (hnotice : v.notice = none)
    (horiginal : v.original = .failed message) :
    v.report =
      ⟨(match v.log with
          | some log => "--- service log ---\n" ++ log ++ "\n"
          | none => "") ++
        ("failed to render original diagram: " ++ message ++ "\n" ++
          match v.minimized with
          | .failed message => "failed to render minimized diagram: " ++ message ++ "\n"
          | _ => ""), .failure⟩ := by
  have hfailed : Role.all.any v.hasFailed = true := by
    simp only [Role.all, List.any_cons, hasFailed, pane, horiginal, Bool.true_or]
  have htext : String.join (Role.all.map v.failureText) =
      v.failureText .original ++ v.failureText .minimized := by
    rw [Role.all, List.map_cons, List.map_cons, List.map_nil, String.join_cons, String.join_cons,
      String.join_nil, String.append_empty]
  rw [report, hnotice, hfailed, if_pos rfl, htext]
  simp only [failureText, pane, horiginal]
  rfl

end View

theorem Description.flowchart_empty : ({} : Description).flowchart = "graph LR\n" := by
  decide

/-- An object without any field of a description still describes an automaton, the empty one. -/
theorem Description.ofJson_of_unknown {document : Json} (ho : document.isObject = true)
    (h : ∀ m ∈ document.members, Field.ofKey? m.1 = none) : ofJson document = .ok {} := by
  cases document with
  | object ms =>
    have hnamed : Decoding.fieldsNamed ms = [] := List.filterMap_eq_nil_iff.mpr h
    have hnone : Decoding.firstValue? ms = fun _ => none := by
      funext f
      rw [Decoding.firstValue?_eq_none, hnamed]
      exact List.not_mem_nil
    have hempty : Decoding.ofMembers ms = .ok {} := by
      rw [Decoding.ofMembers_eq_ok, hnamed, hnone]
      exact ⟨List.nodup_nil, nofun, rfl⟩
    rw [ofJson, hempty]
    rfl
  | _ => cases ho

namespace Session

theorem replay_of_original_missing {m : Type → Type} [Monad m] [LawfulMonad m]
    (renderer : Renderer m) {reply : Reply} (h : reply.original = .null) :
    replay renderer reply = reply.view.renderPane renderer .minimized ∧
      reply.view.original = .failed "automaton description is missing" := by
  have hmissing : reply.view.original = .failed "automaton description is missing" := by
    change Pane.ofJson reply.original = _
    rw [h]
    rfl
  exact ⟨View.renderPanes_of_original_failed renderer hmissing, hmissing⟩

end Session

namespace Transcript

/-- A saved reply is replayed exactly. Reading the text of a reply with a member `original` and
receiving that text with any status of success end in one view, and leave the same output,
complaints and exit status; if the text spells the minimized automaton twice, both fail and write
nothing. -/
theorem saved_reply_replayed {stdin stdin' : Bytes} {service service' : Exchange}
    {env env' : Environment} {options : MinimizeOptions} {files files' : FileTree}
    {config : Config} {source input text : String} {status : Nat} {document : Json}
    (hsaved : Holds stdin files input text) (hparse : Json.parse text = .ok document)
    (horiginal : (document.member? "original").isSome = true)
    (hsubmits : Submits stdin' service env options files' config source)
    (hstatus : 200 ≤ status ∧ status ≤ 299)
    (hanswer : service.answer (Client.request ⟨config.url⟩ source) =
      .ok ⟨status, Utf8.encode text⟩) (output : Output) :
    let compiling := platform stdin service'
    let minimizing := platform stdin' service
    let compiled := compiling.run env' (.compile input) { output, files }
    let minimized := minimizing.run env (.minimize options) { output, files := files' }
    (¬Reply.IsAmbiguous document → ∃ (reply : Reply) (v : View),
      Reply.ofJson 200 document = .ok reply ∧
      (Session.replay (Stream.renderer compiling.output) reply { output, files }).1 = v ∧
      (Session.minimize ⟨config.url⟩ minimizing.transport (minimizing.renderer options) source
        { output, files := files' }).1 = v ∧
      compiled.1 = .ok v.report.status ∧ minimized.1 = .ok v.report.status ∧
      compiled.2.output = minimized.2.output ∧
      compiled.2.complaints = v.report.text ∧ minimized.2.complaints = v.report.text) ∧
    (Reply.IsAmbiguous document →
      (∃ e, compiled.1 = .error e) ∧ compiled.2.output = output ∧
        minimized.1 = .ok .failure ∧ minimized.2.output = output) := by
  dsimp only
  have hobject := Json.isObject_of_member? horiginal
  have hok : 200 ≤ 200 ∧ 200 ≤ 299 := by decide
  rw [run_minimize_platform (t := { output, files := files' }) hsubmits,
    minimize_platform (t := { output, files := files' }) hsubmits, hanswer,
    Client.interpret_text hparse]
  constructor
  · intro hclear
    have hreply := Reply.ofJson_of_not_ambiguous hok hobject hclear
    rw [Reply.ofJson_of_not_ambiguous hstatus hobject hclear,
      run_compile_of_reply (t := { output, files }) hsaved hparse service' env' horiginal hreply,
      hreply]
    refine ⟨_, _, rfl, rfl, ?_⟩
    rw [replay_platform]
    exact ⟨rfl, rfl, rfl, rfl, String.empty_append, String.empty_append⟩
  · intro hboth
    rw [Reply.ofJson_of_ambiguous hstatus hobject hboth,
      run_compile_of_refused (t := { output, files }) hsaved hparse service' env' horiginal
        (Reply.ofJson_of_ambiguous hok hobject hboth)]
    exact ⟨⟨_, rfl⟩, rfl, rfl, rfl⟩

/-- A service that answers every request with the same text. -/
def answering (status : Nat) (text : String) : Exchange where
  setUp _ := .ok ()
  answer _ := .ok ⟨status, Utf8.encode text⟩

def plainOptions : MinimizeOptions where
  input := "-"
  serviceUrl := none
  outDir := none
  format := .mmd

theorem holds_standardInput (files : FileTree) (text : String) :
    Holds (Utf8.encode text) files "-" text := rfl

theorem submits_plain (status : Nat) (text : String) (files : FileTree) :
    Submits (Utf8.encode "q0") (answering status text) (fun _ => none) plainOptions files
      ⟨Config.defaultUrl, ⟨30, 5⟩⟩ "q0" where
  configured := rfl
  setUp := rfl
  input := rfl
  not_blank := by decide
  streams := rfl

def emptyOriginal : String := "\x7b\"original\":[]\x7d"

theorem parse_emptyOriginal :
    Json.parse emptyOriginal = .ok (.object [("original", .array [])]) :=
  Json.parse_of_holds (by decide +kernel)

theorem emptyOriginal_replayed :
    let compiled := (platform (Utf8.encode emptyOriginal) (answering 500 "")).run (fun _ => none)
      (.compile "-") {}
    let minimized := (platform (Utf8.encode "q0") (answering 204 emptyOriginal)).run
      (fun _ => none) (.minimize plainOptions) {}
    compiled.1 = minimized.1 ∧ compiled.2.output = minimized.2.output ∧
      compiled.2.complaints = minimized.2.complaints := by
  have h := @saved_reply_replayed (Utf8.encode emptyOriginal) (Utf8.encode "q0")
    (answering 204 emptyOriginal) (answering 500 "") (fun _ => none) (fun _ => none) plainOptions
    .fresh .fresh ⟨Config.defaultUrl, ⟨30, 5⟩⟩ "q0" "-" emptyOriginal 204 _
    (holds_standardInput .fresh emptyOriginal) parse_emptyOriginal (by decide)
    (submits_plain 204 emptyOriginal .fresh) (by decide) rfl {}
  obtain ⟨reply, v, -, -, -, hcompiled, hminimized, houtput, hc, hm⟩ := h.1 (by decide)
  exact ⟨hcompiled.trans hminimized.symm, houtput, hc.trans hm.symm⟩

/-- What comes of a reply without an original automaton. That pane fails, and so does the run, which
tells the log and each pane that failed. The minimized automaton is drawn on the output under its
own heading if its description can be read, and stays on show if there is room for its block. -/
structure OriginalMissing (output : Output) (reply : Reply) (v : View)
    (run : Except RunError ExitStatus × Transcript) : Prop where
  original : v.original = .failed "automaton description is missing"
  others : v.submit = .ready ∧ v.log = reply.log ∧ v.notice = none
  status : run.1 = .ok .failure
  complaints : run.2.complaints =
    (match reply.log with
      | some log => "--- service log ---\n" ++ log ++ "\n"
      | none => "") ++
    ("failed to render original diagram: automaton description is missing\n" ++
      match v.minimized with
      | .failed message => "failed to render minimized diagram: " ++ message ++ "\n"
      | _ => "")
  unreadable : ∀ e, Description.ofJson reply.minimized = .error e →
    v.minimized = .failed e.message ∧ run.2.output = output
  drawn : ∀ d, Description.ofJson reply.minimized = .ok d →
    run.2.output = output.given (Utf8.encode ("%% minimized\n" ++ d.flowchart ++ "\n"))
  shown : ∀ d, Description.ofJson reply.minimized = .ok d → output.flushFailure = none →
    (∀ n, output.room = some n →
      (Utf8.encode ("%% minimized\n" ++ d.flowchart ++ "\n")).length ≤ n) →
    v.minimized = .diagram d.flowchart

section Missing
variable {t : Transcript} {reply : Reply}

theorem originalMissing_concluded (ht : t.complaints = "") {v : View} {o : Output}
    (original : v.original = .failed "automaton description is missing")
    (others : v.submit = .ready ∧ v.log = reply.log ∧ v.notice = none)
    (unreadable : ∀ e, Description.ofJson reply.minimized = .error e →
      v.minimized = .failed e.message ∧ o = t.output)
    (drawn : ∀ d, Description.ofJson reply.minimized = .ok d →
      o = t.output.given (Stream.block .minimized d.flowchart))
    (shown : ∀ d, Description.ofJson reply.minimized = .ok d → t.output.flushFailure = none →
      (∀ n, t.output.room = some n → (Stream.block .minimized d.flowchart).length ≤ n) →
      v.minimized = .diagram d.flowchart) :
    OriginalMissing t.output reply v (t.concluded (v, o)) where
  original := original
  others := others
  status := by rw [concluded, View.report_of_original_failed others.2.2 original]
  complaints := by
    rw [concluded, View.report_of_original_failed others.2.2 original, others.2.1, ht]
    exact String.empty_append
  unreadable := unreadable
  drawn := drawn
  shown := shown

theorem originalMissing_replay (ht : t.complaints = "") (hnull : reply.original = .null) :
    let session := Session.replay (Stream.renderer Output.sink) reply t.output
    OriginalMissing t.output reply session.1 (t.concluded session) := by
  obtain ⟨hreplay, hmissing⟩ :=
    Session.replay_of_original_missing (Stream.renderer Output.sink) hnull
  dsimp only
  rw [hreplay]
  cases hd : Description.ofJson reply.minimized with
  | error e =>
    have hpane : reply.view.minimized = .failed e.message := by
      change Pane.ofJson reply.minimized = _
      rw [Pane.ofJson, hd]
    have hnone : reply.view.diagram? .minimized = none := by
      rw [reply.diagram?_view, Reply.drawing?, Reply.describing, hd]
    rw [View.renderPane_of_no_diagram _ hnone]
    refine originalMissing_concluded ht hmissing ⟨rfl, rfl, rfl⟩ ?_ ?_ ?_
    · intro e' he'
      rw [hd] at he'
      cases he'
      exact ⟨hpane, rfl⟩
    · intro d hd'
      cases hd.symm.trans hd'
    · intro d hd'
      cases hd.symm.trans hd'
  | ok d =>
    have hpane : reply.view.pane .minimized = .diagram d.flowchart := by
      rw [reply.pane_view, Pane.ofJson, Reply.describing, hd]
    rw [View.renderPane_of_diagram _ hpane]
    refine originalMissing_concluded ht hmissing ⟨rfl, rfl, rfl⟩ ?_ ?_ ?_
    · intro e he
      cases hd.symm.trans he
    · intro d' hd'
      cases hd.symm.trans hd'
      exact Stream.renderer_state .minimized d.flowchart t.output
    · intro d' hd' hflush hfits
      cases hd.symm.trans hd'
      have hok := Stream.renderer_ok .minimized d.flowchart hflush hfits
      change (Renderer.call (Stream.renderer Output.sink) .minimized d.flowchart t.output).pane = _
      rw [Renderer.call, hok]
      rfl

end Missing

theorem run_minimize_of_original_missing {stdin : Bytes} {exchange : Exchange} {env : Environment}
    {options : MinimizeOptions} {files : FileTree} {config : Config} {source : String}
    (hsubmits : Submits stdin exchange env options files config source) {reply : Reply}
    (hreply : Client.interpret ⟨config.url⟩ (exchange.answer (Client.request ⟨config.url⟩ source)) =
      .ok reply) (hnull : reply.original = .null) (output : Output) :
    ∃ v : View,
      (Session.minimize ⟨config.url⟩ (platform stdin exchange).transport
        ((platform stdin exchange).renderer options) source { output, files }).1 = v ∧
      OriginalMissing output reply v
        ((platform stdin exchange).run env (.minimize options) { output, files }) := by
  rw [run_minimize_platform (t := { output, files }) hsubmits,
    minimize_platform (t := { output, files }) hsubmits, hreply]
  have hrequested : (requested { output, files } (Client.request ⟨config.url⟩ source)).complaints =
      "" := rfl
  exact ⟨_, rfl, originalMissing_replay hrequested hnull⟩

/-- A saved reply without a member `original` is not replayed. Received from the service it shows
its minimized automaton and fails the other pane; read from an input it is drawn as the description
that its members make up, which is an empty chart if they make up none. -/
theorem reply_without_original_drawn {stdin stdin' : Bytes} {service service' : Exchange}
    {env env' : Environment} {options : MinimizeOptions} {files files' : FileTree}
    {config : Config} {source input text : String} {status : Nat} {document : Json}
    (hsaved : Holds stdin files input text) (hparse : Json.parse text = .ok document)
    (horiginal : document.member? "original" = none)
    (hone : (document.member? "minimized").isSome ≠ (document.member? "minimizado").isSome)
    (hsubmits : Submits stdin' service env options files' config source)
    (hstatus : 200 ≤ status ∧ status ≤ 299)
    (hanswer : service.answer (Client.request ⟨config.url⟩ source) =
      .ok ⟨status, Utf8.encode text⟩) (output : Output) :
    let saved : Transcript := { output, files }
    let compiled := (platform stdin service').run env' (.compile input) saved
    let minimizing := platform stdin' service
    let minimized := minimizing.run env (.minimize options) { output, files := files' }
    (∃ (reply : Reply) (v : View),
      Reply.ofJson status document = .ok reply ∧
      (Session.minimize ⟨config.url⟩ minimizing.transport (minimizing.renderer options) source
        { output, files := files' }).1 = v ∧
      OriginalMissing output reply v minimized) ∧
    (∀ d, Description.ofJson document = .ok d → Prints saved d.flowchart compiled) ∧
    (∀ e, Description.ofJson document = .error e → compiled = (.error (.description e), saved)) ∧
    ((∀ m ∈ document.members, Field.ofKey? m.1 = none) → Prints saved "graph LR\n" compiled) := by
  dsimp only
  have hclear : ¬Reply.IsAmbiguous document := fun h => hone (h.1.trans h.2.symm)
  have hobject : document.isObject = true := by
    cases hm : (document.member? "minimized").isSome with
    | true => exact Json.isObject_of_member? hm
    | false =>
      rw [hm] at hone
      exact Json.isObject_of_member? ((Bool.not_eq_false _).mp hone.symm)
  have hreply := Reply.ofJson_of_not_ambiguous hstatus hobject hclear
  have hnull : (Reply.ofMembers document).original = .null := by
    rw [Reply.ofMembers, horiginal]
    rfl
  have hdrawn : ∀ d, Description.ofJson document = .ok d →
      Prints { output, files } d.flowchart
        ((platform stdin service').run env' (.compile input) { output, files }) := by
    intro d hd
    rw [run_compile_of_description (t := { output, files }) hsaved hparse service' env' horiginal
      hd]
    exact printed_prints { output, files } d.flowchart
  refine ⟨⟨Reply.ofMembers document, ?_⟩, hdrawn, fun e he => ?_, fun hunknown => ?_⟩
  · have hinterpret : Client.interpret ⟨config.url⟩
        (service.answer (Client.request ⟨config.url⟩ source)) = .ok (Reply.ofMembers document) := by
      rw [hanswer, Client.interpret_text hparse, hreply]
    obtain ⟨v, hview⟩ := run_minimize_of_original_missing hsubmits hinterpret hnull output
    exact ⟨v, hreply, hview⟩
  · exact run_compile_of_unreadable (t := { output, files }) hsaved hparse service' env'
      horiginal he
  · rw [← Description.flowchart_empty]
    exact hdrawn {} (Description.ofJson_of_unknown hobject hunknown)

def minimizadoAlone : String := "\x7b\"minimizado\":[]\x7d"

theorem parse_minimizadoAlone :
    Json.parse minimizadoAlone = .ok (.object [("minimizado", .array [])]) :=
  Json.parse_of_holds (by decide +kernel)

theorem minimizadoAlone_received :
    let minimized := (platform (Utf8.encode "q0") (answering 204 minimizadoAlone)).run
      (fun _ => none) (.minimize plainOptions) {}
    let compiled := (platform (Utf8.encode minimizadoAlone) (answering 500 "")).run
      (fun _ => none) (.compile "-") {}
    minimized.1 = .ok .failure ∧
      minimized.2.output = { written := Utf8.encode "%% minimized\ngraph LR\n\n" } ∧
      minimized.2.complaints =
        "failed to render original diagram: automaton description is missing\n" ∧
      compiled = (.ok .success, { output := { written := Utf8.encode "graph LR\n" } }) := by
  have h := @reply_without_original_drawn (Utf8.encode minimizadoAlone) (Utf8.encode "q0")
    (answering 204 minimizadoAlone) (answering 500 "") (fun _ => none) (fun _ => none)
    plainOptions .fresh .fresh ⟨Config.defaultUrl, ⟨30, 5⟩⟩ "q0" "-" minimizadoAlone 204 _
    (holds_standardInput .fresh minimizadoAlone) parse_minimizadoAlone (by decide) (by decide)
    (submits_plain 204 minimizadoAlone .fresh) (by decide) rfl {}
  obtain ⟨⟨reply, v, hreply, -, hmissing⟩, -, -, hempty⟩ := h
  cases hreply
  have hdrawn := hmissing.drawn {} rfl
  have hcomplaints := hmissing.complaints
  have hshown := hmissing.shown {} rfl rfl (by
    intro n hn
    cases hn)
  rw [hshown] at hcomplaints
  have hprints := hempty (by decide)
  exact ⟨hmissing.status, hdrawn, hcomplaints, Prod.ext (hprints.of_unlimited rfl) hprints.left⟩

def minimizedAlone : String := "\x7b\"minimized\":\x7b\"states\":[\"q0\"]\x7d\x7d"

theorem parse_minimizedAlone : Json.parse minimizedAlone =
    .ok (.object [("minimized", .object [("states", .array [.string "q0"])])]) :=
  Json.parse_of_holds (by decide +kernel)

/-- What fails when it is received is drawn as an empty chart, with success, when it was saved. -/
theorem minimizedAlone_not_replayed :
    (platform (Utf8.encode minimizedAlone) (answering 500 "")).run (fun _ => none)
        (.compile "-") {} =
      (.ok .success, { output := { written := Utf8.encode "graph LR\n" } }) ∧
    ((platform (Utf8.encode "q0") (answering 200 minimizedAlone)).run (fun _ => none)
      (.minimize plainOptions) {}).1 = .ok .failure ∧
    ((platform (Utf8.encode "q0") (answering 200 minimizedAlone)).run (fun _ => none)
      (.minimize plainOptions) {}).2.output =
        { written := Utf8.encode "%% minimized\ngraph LR\n    s0(\"q0\")\n\n" } := by
  have hempty : Description.ofJson
      (.object [("minimized", .object [("states", .array [.string "q0"])])]) = .ok {} :=
    Description.ofJson_of_unknown rfl (by decide)
  have hcompiled := run_compile_of_description (t := {})
    (holds_standardInput .fresh minimizedAlone) parse_minimizedAlone (answering 500 "")
    (fun _ => none) rfl hempty
  have hreply : Client.interpret ⟨Config.defaultUrl⟩ (.ok ⟨200, Utf8.encode minimizedAlone⟩) =
      .ok ⟨.null, .object [("states", .array [.string "q0"])], none⟩ := by
    rw [Client.interpret_text parse_minimizedAlone]
    rfl
  have hread : Description.ofJson (.object [("states", .array [.string "q0"])]) =
      .ok ({ states := ["q0"] } : Description) := rfl
  obtain ⟨v, -, hmissing⟩ := run_minimize_of_original_missing
    (submits_plain 200 minimizedAlone .fresh) hreply rfl {}
  have hchart : "%% minimized\n" ++ ({ states := ["q0"] } : Description).flowchart ++ "\n" =
      "%% minimized\ngraph LR\n    s0(\"q0\")\n\n" := by
    decide
  have hdrawn := hmissing.drawn _ hread
  rw [hchart] at hdrawn
  rw [Description.flowchart_empty] at hcompiled
  refine ⟨hcompiled, ?_, ?_⟩
  · exact hmissing.status
  · exact hdrawn

end Transcript
end AutomatonChart
