import AutomatonChart.CommandLine.Run
import AutomatonChart.Proofs.Rendering
import AutomatonChart.Proofs.Replies

/-! # One submission from beginning to end

A submission that is not blank is one request, and what follows is decided by its answer: a notice
and nothing else, or the two panes of a reply, each rendered once if it holds a diagram. This is
told of a journal, for every client, every answer and every renderer.
-/
namespace AutomatonChart

theorem Role.mem_all (role : Role) : role ∈ Role.all := by
  cases role <;> decide

/-- The diagram of an automaton of the reply, if its description can be read. -/
def Reply.drawing? (reply : Reply) (role : Role) : Option (Role × String) :=
  match Description.ofJson (reply.describing role) with
  | .ok d => some (role, d.flowchart)
  | .error _ => none

/-- What a reply shows before it is rendered. -/
def Reply.view (reply : Reply) : View := View.replyReceived {} (.ok reply)

namespace Reply

theorem pane_view (reply : Reply) (role : Role) :
    reply.view.pane role = .ofJson (reply.describing role) := by
  cases role <;> rfl

theorem diagram?_view (reply : Reply) (role : Role) :
    reply.view.diagram? role = reply.drawing? role := by
  rw [View.diagram?, drawing?, pane_view, Pane.ofJson]
  cases Description.ofJson (reply.describing role) <;> rfl

theorem pane_view_ne_empty (reply : Reply) (role : Role) : reply.view.pane role ≠ .empty := by
  rw [pane_view, Pane.ofJson]
  cases Description.ofJson (reply.describing role) <;> simp

end Reply

namespace View
variable {roles : List Role} {v v' : View} {calls : List Delivery}

theorem Rendered.pane_ne_empty (h : Rendered roles v v' calls) (hv : ∀ role, v.pane role ≠ .empty)
    (role : Role) : v'.pane role ≠ .empty := by
  by_cases hcalled : ∃ c ∈ calls, c.role = role
  · obtain ⟨c, hc, rfl⟩ := hcalled
    rw [h.called c hc]
    exact c.pane_ne_empty
  · rw [h.others role fun c hc heq => hcalled ⟨c, hc, heq⟩]
    exact hv role

/-- A pane of which the diagram was to be rendered keeps it just if that call succeeded. -/
theorem Rendered.diagram_iff (h : Rendered roles v v' calls) {role : Role} (hrole : role ∈ roles) :
    (∃ text, v'.pane role = .diagram text) ↔ ∃ c ∈ calls, c.role = role ∧ c.outcome = .ok () := by
  constructor
  · rintro ⟨text, htext⟩
    by_cases hcalled : ∃ c ∈ calls, c.role = role
    · obtain ⟨c, hc, rfl⟩ := hcalled
      rw [h.called c hc] at htext
      exact ⟨c, hc, rfl, (Delivery.pane_eq_diagram.mp htext).1⟩
    · -- An untouched diagram would have been handed over.
      rw [h.others role fun c hc heq => hcalled ⟨c, hc, heq⟩] at htext
      have hhanded : (role, text) ∈ calls.map Delivery.handed := by
        rw [h.handed]
        exact List.mem_filterMap.mpr ⟨role, hrole, diagram?_eq_some.mpr ⟨rfl, htext⟩⟩
      obtain ⟨c, hc, heq⟩ := List.mem_map.mp hhanded
      exact absurd ⟨c, hc, congrArg Prod.fst heq⟩ hcalled
  · rintro ⟨c, hc, rfl, hok⟩
    exact ⟨c.text, (h.called c hc).trans (Delivery.pane_eq_diagram.mpr ⟨hok, rfl⟩)⟩

section Reply
variable {reply : Reply} {role : Role}

theorem Rendered.handed_eq_drawings (h : Rendered Role.all reply.view v calls) :
    calls.map Delivery.handed = Role.all.filterMap reply.drawing? := by
  rw [h.handed]
  exact congrArg (List.filterMap · Role.all) (funext reply.diagram?_view)

theorem Rendered.uncalled_of_unreadable (h : Rendered Role.all reply.view v calls)
    {e : DescriptionError} (he : Description.ofJson (reply.describing role) = .error e) :
    ∀ c ∈ calls, c.role ≠ role := by
  rintro c hc rfl
  have hpane := h.pane_of_handed hc
  rw [reply.pane_view, Pane.ofJson, he] at hpane
  cases hpane

theorem Rendered.pane_of_unreadable (h : Rendered Role.all reply.view v calls)
    {e : DescriptionError} (he : Description.ofJson (reply.describing role) = .error e) :
    v.pane role = .failed e.message := by
  rw [h.others role (h.uncalled_of_unreadable he), reply.pane_view, Pane.ofJson, he]

/-- The pane of a description that can be read shows what came of its call. -/
theorem Rendered.pane_of_read (h : Rendered Role.all reply.view v calls)
    {d : Description} (hd : Description.ofJson (reply.describing role) = .ok d) :
    ∃ outcome, ⟨role, d.flowchart, outcome⟩ ∈ calls ∧
      v.pane role = Delivery.pane ⟨role, d.flowchart, outcome⟩ := by
  have hdrawn : (role, d.flowchart) ∈ calls.map Delivery.handed := by
    rw [h.handed_eq_drawings]
    apply List.mem_filterMap.mpr
    refine ⟨role, role.mem_all, ?_⟩
    rw [Reply.drawing?, hd]
  obtain ⟨⟨other, text, outcome⟩, hc, heq⟩ := List.mem_map.mp hdrawn
  cases heq
  exact ⟨outcome, hc, h.called _ hc⟩

end Reply
end View

namespace Session

section Program
variable {m : Type → Type} [Monad m]

/-- What follows the answer of the service. -/
def settle (renderer : Renderer m) : Except ServiceError Reply → m View
  | .error e => pure { notice := some (.ofError e) }
  | .ok reply => replay renderer reply

/-- A submission is refused, or it is one request and what follows its answer. -/
theorem minimize_eq [LawfulMonad m] (client : Client) (transport : Transport m)
    (renderer : Renderer m) (source : String) :
    minimize client transport renderer source =
      if Text.isBlank source then pure { notice := some .emptyInput }
      else transport.send (client.request source) >>= fun answer =>
        settle renderer (client.interpret answer) := by
  cases hb : Text.isBlank source with
  | true => simp [minimize, View.handle, View.submitRequested, hb]
  | false =>
    simp only [minimize, View.handle, View.submitRequested, hb, Client.submit, bind_assoc,
      pure_bind, Bool.false_eq_true, if_false]
    congr 1
    funext answer
    cases hi : client.interpret answer with
    | ok reply => rfl
    | error e => rfl

end Program

theorem interpret_eq_ok {client : Client} {answer : Except String Response} {reply : Reply} :
    client.interpret answer = .ok reply ↔ ∃ response, answer = .ok response ∧
      Reply.ofBody response.status (Utf8.decodeLossy response.body) = .ok reply := by
  cases answer <;> simp [Client.interpret]

section Recorded
variable {σ : Type} (client : Client) (transport : Transport (StateM σ))
variable (renderer : Renderer (StateM σ)) (source : String) (world : σ)

abbrev answered : Except String Response × σ := transport.send (client.request source) world

theorem minimize_recorded_of_blank (hb : Text.isBlank source = true) :
    minimize client transport.recorded renderer.recorded source { world } =
      ({ notice := some .emptyInput }, { world }) := by
  rw [minimize_eq, if_pos hb]
  rfl

theorem minimize_recorded_of_not_blank (hb : Text.isBlank source = false) :
    minimize client transport.recorded renderer.recorded source { world } =
      settle renderer.recorded (client.interpret (answered client transport source world).1)
        { world := (answered client transport source world).2
          exchanges := [(client.request source, (answered client transport source world).1)] } := by
  rw [minimize_eq, if_neg (by simp [hb])]
  rfl

theorem minimize_erases :
    Erases (minimize client transport.recorded renderer.recorded source)
      (minimize client transport renderer source) := by
  rw [minimize_eq, minimize_eq]
  cases Text.isBlank source with
  | true => exact .pure _
  | false =>
    refine .bind (.send transport (client.request source)) fun answer => ?_
    cases client.interpret answer with
    | error e => exact .pure _
    | ok reply => exact View.renderPanes_erases renderer reply.view

/-- All that a submission can come to: it is refused, its exchange leads to an error, or the panes
of its reply are rendered. -/
theorem minimize_recorded_cases :
    let run := minimize client transport.recorded renderer.recorded source { world }
    let answer := (answered client transport source world).1
    (Text.isBlank source = true ∧ run = ({ notice := some .emptyInput }, { world })) ∨
    (Text.isBlank source = false ∧ ∃ (e : ServiceError) (world' : σ),
      client.interpret answer = .error e ∧
        run = ({ notice := some (.ofError e) }, ⟨world', [(client.request source, answer)], []⟩)) ∨
    (Text.isBlank source = false ∧ ∃ (reply : Reply) (v : View) (calls : List Delivery)
      (world' : σ), client.interpret answer = .ok reply ∧
        View.Rendered Role.all reply.view v calls ∧
        run = (v, ⟨world', [(client.request source, answer)], calls⟩)) := by
  intro run answer
  cases hb : Text.isBlank source with
  | true => exact .inl ⟨rfl, minimize_recorded_of_blank client transport renderer source world hb⟩
  | false =>
    have hrun := minimize_recorded_of_not_blank client transport renderer source world hb
    cases hi : client.interpret answer with
    | error e =>
      refine .inr (.inl ⟨rfl, e, (answered client transport source world).2, rfl, ?_⟩)
      rw [hi] at hrun
      exact hrun
    | ok reply =>
      rw [hi] at hrun
      obtain ⟨v, calls, world', hrendered, hpanes⟩ := View.renderPanes_recorded renderer reply.view
        { world := (answered client transport source world).2
          exchanges := [(client.request source, answer)] }
      exact .inr (.inr ⟨rfl, reply, v, calls, world', rfl, hrendered, hrun.trans hpanes⟩)

/-- A journal records what a submission sends and hands over. Every submission sends one request, or
none if it is blank, and leaves the control ready for the next one. With a notice it has rendered
nothing and shows nothing else, and it was blank, or its exchange failed, or the answer was no
reply. Without one it has a reply, and each description that can be read was drawn and handed over
once. -/
theorem submission_end_to_end :
    let run := minimize client transport.recorded renderer.recorded source { world }
    let v := run.1
    let sent := run.2.exchanges
    let calls := run.2.deliveries
    (v, run.2.world) = minimize client transport renderer source world ∧
      sent.map Prod.fst =
        (if Text.isBlank source then [] else [⟨"POST", client.url, "text/plain", source⟩]) ∧
      (v.submit.enabled, v.submit.label) = (true, "Minimize") ∧
      (v.notice ≠ none →
        calls = [] ∧ v.original = .empty ∧ v.minimized = .empty ∧ v.log = none ∧
        (Text.isBlank source = true ∨ (∃ reason, sent = [(client.request source, .error reason)]) ∨
          ∃ response, sent = [(client.request source, .ok response)] ∧
            ∀ reply, Reply.ofBody response.status (Utf8.decodeLossy response.body) ≠ .ok reply)) ∧
      (v.notice = none → ∃ (response : Response) (body : Json) (reply : Reply),
        sent = [(client.request source, .ok response)] ∧
        (200 ≤ response.status ∧ response.status ≤ 299) ∧
        Json.parse (Utf8.decodeLossy response.body) = .ok body ∧ body.isObject = true ∧
        Reply.ofJson response.status body = .ok reply ∧
        (∀ role, v.pane role ≠ .empty) ∧
        calls.map Delivery.handed = Role.all.filterMap reply.drawing? ∧
        ∀ role, (∃ text, v.pane role = .diagram text) ↔
          ∃ c ∈ calls, c.role = role ∧ c.outcome = .ok ()) := by
  dsimp only
  obtain ⟨hview, hworld⟩ := minimize_erases client transport renderer source { world }
  refine ⟨Prod.ext hview hworld, ?_⟩
  rcases minimize_recorded_cases client transport renderer source world with
    ⟨hb, hrun⟩ | ⟨hb, e, world', hi, hrun⟩ | ⟨hb, reply, v, calls, world', hi, hrendered, hrun⟩
  · rw [hrun, hb]
    refine ⟨rfl, rfl, fun _ => ⟨rfl, rfl, rfl, rfl, .inl rfl⟩, fun h => ?_⟩
    cases h
  · rw [hrun, hb]
    refine ⟨rfl, rfl, fun _ => ⟨rfl, rfl, rfl, rfl, .inr ?_⟩, fun h => ?_⟩
    · cases hanswer : (answered client transport source world).1 with
      | error reason => exact .inl ⟨reason, rfl⟩
      | ok response =>
        refine .inr ⟨response, rfl, fun reply hreply => ?_⟩
        rw [interpret_eq_ok.mpr ⟨response, hanswer, hreply⟩] at hi
        cases hi
    · cases h
  · rw [hrun, hb]
    obtain ⟨response, hanswer, hbody⟩ := interpret_eq_ok.mp hi
    obtain ⟨body, hparse, hreply⟩ := Reply.ofBody_eq_ok.mp hbody
    obtain ⟨hstatus, hobject, -, -⟩ := Reply.ofJson_eq_ok.mp hreply
    have hsubmit : v.submit = .ready := hrendered.submit
    have hnotice : v.notice = none := hrendered.notice
    have hdrawn : Role.all.filterMap reply.view.diagram? = Role.all.filterMap reply.drawing? :=
      congrArg (List.filterMap · Role.all) (funext reply.diagram?_view)
    refine ⟨rfl, ?_, fun h => absurd hnotice h, fun _ => ?_⟩
    · simp only [hsubmit]
      rfl
    · refine ⟨response, body, reply, ?_, hstatus, hparse, hobject, hreply,
        hrendered.pane_ne_empty reply.pane_view_ne_empty, hrendered.handed.trans hdrawn, ?_⟩
      · rw [hanswer]
      · intro role
        exact hrendered.diagram_iff (by cases role <;> decide)

end Recorded
end Session
end AutomatonChart
