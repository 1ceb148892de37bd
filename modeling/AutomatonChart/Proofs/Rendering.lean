import Mathlib.Data.List.Nodup
import AutomatonChart.Delivery.Directory
import AutomatonChart.Delivery.Stream
import AutomatonChart.Service.Client

/-! # Rendering with any renderer

A renderer may keep a state of its own and fail whenever it likes. A journal records what it was
given and what came of it, and what was sent and answered. Whatever the renderer does, each diagram
is handed over once, in order, and decides its own pane only.
-/
namespace AutomatonChart

/-- One call of a renderer: what it was given and what came of it. -/
structure Delivery where
  role : Role
  text : String
  outcome : Except DeliveryError Unit

namespace Delivery

def handed (c : Delivery) : Role × String := (c.role, c.text)

def pane (c : Delivery) : Pane :=
  match c.outcome with
  | .ok () => .diagram c.text
  | .error e => .failed e.message

theorem pane_eq_diagram {c : Delivery} {text : String} :
    c.pane = .diagram text ↔ c.outcome = .ok () ∧ c.text = text := by
  obtain ⟨role, given, outcome⟩ := c
  cases outcome <;> simp [pane]

theorem pane_eq_failed {c : Delivery} {message : String} :
    c.pane = .failed message ↔ ∃ e, c.outcome = .error e ∧ e.message = message := by
  obtain ⟨role, text, outcome⟩ := c
  cases outcome <;> simp [pane]

theorem pane_ne_empty (c : Delivery) : c.pane ≠ .empty := by
  obtain ⟨role, given, outcome⟩ := c
  cases outcome <;> simp [pane]

end Delivery

/-- The state of the surroundings, with all that was exchanged and handed over. -/
structure Journal (σ : Type) where
  world : σ
  exchanges : List (Request × Except String Response) := []
  deliveries : List Delivery := []

section Recording
variable {σ : Type}

def Transport.recorded (transport : Transport (StateM σ)) : Transport (StateM (Journal σ)) where
  setUp timeouts j :=
    let (result, world) := transport.setUp timeouts j.world
    (result, { j with world })
  send request j :=
    let (answer, world) := transport.send request j.world
    (answer, { j with world, exchanges := j.exchanges ++ [(request, answer)] })

/-- The same renderer, with every call recorded. -/
def Renderer.recorded (renderer : Renderer (StateM σ)) : Renderer (StateM (Journal σ)) :=
  fun role text j =>
    let (outcome, world) := renderer role text j.world
    (outcome, { j with world, deliveries := j.deliveries ++ [⟨role, text, outcome⟩] })

def Renderer.call (renderer : Renderer (StateM σ)) (role : Role) (text : String) (s : σ) :
    Delivery where
  role := role
  text := text
  outcome := (renderer role text s).1

/-- Apart from the journal, the same run. -/
def Erases {α : Type} (kept : StateM (Journal σ) α) (bare : StateM σ α) : Prop :=
  ∀ j, (kept j).1 = (bare j.world).1 ∧ (kept j).2.world = (bare j.world).2

namespace Erases
variable {α β : Type}

theorem pure (a : α) : Erases (σ := σ) (Pure.pure a) (Pure.pure a) := fun _ => ⟨rfl, rfl⟩

theorem bind {kept : StateM (Journal σ) α} {bare : StateM σ α} {next : α → StateM (Journal σ) β}
    {next' : α → StateM σ β} (h : Erases kept bare) (hnext : ∀ a, Erases (next a) (next' a)) :
    Erases (kept >>= next) (bare >>= next') := by
  intro j
  obtain ⟨hresult, hworld⟩ := h j
  have hrest := hnext (kept j).1 (kept j).2
  have hbind : (bare >>= next') j.world = next' (kept j).1 (kept j).2.world := by
    rw [hresult, hworld]
    rfl
  rw [hbind]
  exact hrest

theorem send (transport : Transport (StateM σ)) (request : Request) :
    Erases (transport.recorded.send request) (transport.send request) := fun _ => ⟨rfl, rfl⟩

theorem call (renderer : Renderer (StateM σ)) (role : Role) (text : String) :
    Erases (renderer.recorded role text) (renderer role text) := fun _ => ⟨rfl, rfl⟩

end Erases
end Recording

section Lifting
variable {m n : Type → Type} [Monad m] [Monad n] (lift : ∀ {α : Type}, m α → n α)
variable (hpure : ∀ {α : Type} (a : α), lift (pure a : m α) = pure a)
variable (hbind : ∀ {α β : Type} (x : m α) (f : α → m β),
  lift (x >>= f) = lift x >>= fun a => lift (f a))
variable (role : Role) (text : String)
include hpure hbind

theorem Stream.renderer_lift (sink : ByteSink m) :
    Stream.renderer ⟨fun bytes => lift (sink.write bytes), lift sink.flush⟩ role text =
      lift (Stream.renderer sink role text) := by
  simp only [Stream.renderer, hbind]
  congr 1
  funext written
  cases written with
  | error reason => exact (hpure _).symm
  | ok _ =>
    simp only [hbind]
    congr 1
    funext flushed
    cases flushed <;> exact (hpure _).symm

theorem Directory.renderer_lift (store : FileStore m) (dir : Path) (format : OutputFormat) :
    Directory.renderer ⟨fun p => lift (store.makeDirectories p),
        fun p content => lift (store.write p content)⟩ dir format role text =
      lift (Directory.renderer store dir format role text) := by
  simp only [Directory.renderer, hbind]
  congr 1
  funext made
  cases made with
  | error reason => exact (hpure _).symm
  | ok _ =>
    simp only [hbind]
    congr 1
    funext written
    cases written <;> exact (hpure _).symm

end Lifting

namespace View

def diagram? (v : View) (role : Role) : Option (Role × String) :=
  match v.pane role with
  | .diagram text => some (role, text)
  | _ => none

theorem diagram?_eq_some {v : View} {role : Role} {p : Role × String} :
    v.diagram? role = some p ↔ p.1 = role ∧ v.pane role = .diagram p.2 := by
  unfold diagram?
  obtain ⟨other, given⟩ := p
  cases v.pane role <;> simp [eq_comm]

theorem setPane_eq_self {v : View} {role : Role} {p : Pane} (h : v.pane role = p) :
    v.setPane role p = v := by
  subst h
  cases role <;> rfl

/-- What the calls for the panes of some roles make of a view: one call for each diagram, in the
order of the roles, and each call decides the pane that it was made for. -/
structure Rendered (roles : List Role) (v v' : View) (calls : List Delivery) : Prop where
  handed : calls.map Delivery.handed = roles.filterMap v.diagram?
  called : ∀ c ∈ calls, v'.pane c.role = c.pane
  others : ∀ role, (∀ c ∈ calls, c.role ≠ role) → v'.pane role = v.pane role
  submit : v'.submit = v.submit
  log : v'.log = v.log
  notice : v'.notice = v.notice

theorem Rendered.nil (v : View) : Rendered [] v v [] where
  handed := rfl
  called := fun _ h => absurd h (List.not_mem_nil)
  others := fun _ _ => rfl
  submit := rfl
  log := rfl
  notice := rfl

theorem Rendered.role_mem {roles : List Role} {v v' : View} {calls : List Delivery}
    (h : Rendered roles v v' calls) {c : Delivery} (hc : c ∈ calls) : c.role ∈ roles := by
  have hm : c.handed ∈ roles.filterMap v.diagram? := h.handed ▸ List.mem_map_of_mem hc
  obtain ⟨role, hrole, hd⟩ := List.mem_filterMap.mp hm
  have hsame : c.role = role := (diagram?_eq_some.mp hd).1
  exact hsame ▸ hrole

theorem Rendered.pane_of_handed {roles : List Role} {v v' : View} {calls : List Delivery}
    (h : Rendered roles v v' calls) {c : Delivery} (hc : c ∈ calls) :
    v.pane c.role = .diagram c.text := by
  have hm : c.handed ∈ roles.filterMap v.diagram? := h.handed ▸ List.mem_map_of_mem hc
  obtain ⟨role, -, hd⟩ := List.mem_filterMap.mp hm
  obtain ⟨hrole, hpane⟩ := diagram?_eq_some.mp hd
  exact (congrArg v.pane hrole).trans hpane

theorem Rendered.skip {roles : List Role} {v v' : View} {calls : List Delivery} {role : Role}
    (h : Rendered roles v v' calls) (hd : v.diagram? role = none) :
    Rendered (role :: roles) v v' calls where
  handed := by rw [List.filterMap_cons_none hd, h.handed]
  called := h.called
  others := h.others
  submit := h.submit
  log := h.log
  notice := h.notice

/-- A call sets its own pane, which none of the later calls is made for. -/
theorem Rendered.cons {roles : List Role} {v v' : View} {calls : List Delivery} {c : Delivery}
    (hd : v.diagram? c.role = some c.handed) (hc : c.role ∉ roles)
    (h : Rendered roles (v.setPane c.role c.pane) v' calls) :
    Rendered (c.role :: roles) v v' (c :: calls) where
  handed := by
    have hlater : ∀ role ∈ roles, (v.setPane c.role c.pane).diagram? role = v.diagram? role := by
      intro role hrole
      have hne : role ≠ c.role := fun he => hc (he ▸ hrole)
      rw [diagram?, diagram?, pane_setPane, if_neg hne]
    rw [List.filterMap_cons_some hd, List.map_cons, h.handed, List.filterMap_congr hlater]
  called := by
    intro d hm
    rcases List.mem_cons.mp hm with rfl | hm
    · have hnone : ∀ e ∈ calls, e.role ≠ d.role := fun e he heq => hc (heq ▸ h.role_mem he)
      rw [h.others d.role hnone, pane_setPane, if_pos rfl]
    · exact h.called d hm
  others := by
    intro role hnone
    obtain ⟨hne, hrest⟩ := List.forall_mem_cons.mp hnone
    rw [h.others role hrest, pane_setPane, if_neg (Ne.symm hne)]
  submit := by rw [h.submit]; cases c.role <;> rfl
  log := by rw [h.log]; cases c.role <;> rfl
  notice := by rw [h.notice]; cases c.role <;> rfl

section Lifting
variable {m n : Type → Type} [Monad m] [Monad n] (lift : ∀ {α : Type}, m α → n α)
variable (hpure : ∀ v : View, lift (pure v) = pure v)
variable (hbind : ∀ {α : Type} (x : m α) (f : α → m View),
  lift (x >>= f) = lift x >>= fun a => lift (f a))
variable (renderer : Renderer m) (v : View)
include hpure hbind

theorem renderPane_lift (role : Role) :
    v.renderPane (fun role text => lift (renderer role text)) role =
      lift (v.renderPane renderer role) := by
  unfold renderPane
  cases v.pane role with
  | empty => exact (hpure v).symm
  | failed message => exact (hpure v).symm
  | diagram text =>
    simp only [hbind]
    congr 1
    funext outcome
    cases outcome <;> exact (hpure _).symm

/-- Rendering by other means comes to the same as carrying the whole rendering over to them. -/
theorem renderPanes_lift :
    v.renderPanes (fun role text => lift (renderer role text)) = lift (v.renderPanes renderer) := by
  unfold renderPanes
  induction Role.all generalizing v with
  | nil => exact (hpure v).symm
  | cons role rest ih =>
    rw [List.foldlM_cons, List.foldlM_cons, hbind, renderPane_lift lift hpure hbind]
    congr 1
    funext v'
    exact ih v'

end Lifting

theorem renderPane_of_no_diagram {m : Type → Type} [Monad m] (renderer : Renderer m) {v : View}
    {role : Role} (hd : v.diagram? role = none) : v.renderPane renderer role = pure v := by
  unfold renderPane
  unfold diagram? at hd
  cases hp : v.pane role with
  | empty => rfl
  | failed message => rfl
  | diagram text => simp [hp] at hd

theorem renderPane_of_diagram {σ : Type} (renderer : Renderer (StateM σ)) {v : View} {role : Role}
    {text : String} (hp : v.pane role = .diagram text) (s : σ) :
    v.renderPane renderer role s =
      (v.setPane role (renderer.call role text s).pane, (renderer role text s).2) := by
  unfold renderPane Renderer.call
  simp only [hp, bind, StateT.bind]
  cases renderer role text s with
  | mk outcome s' =>
    cases outcome with
    | ok _ =>
      simp only [Delivery.pane, setPane_eq_self hp]
      rfl
    | error e => rfl

section Recorded
variable {σ : Type} (renderer : Renderer (StateM σ))

theorem foldlM_renderPane {roles : List Role} (hroles : roles.Nodup) (v : View) (j : Journal σ) :
    ∃ (v' : View) (calls : List Delivery) (world : σ), Rendered roles v v' calls ∧
      roles.foldlM (renderPane renderer.recorded) v j =
        (v', { j with world, deliveries := j.deliveries ++ calls }) := by
  induction roles generalizing v j with
  | nil =>
    refine ⟨v, [], j.world, .nil v, ?_⟩
    rw [List.append_nil]
    rfl
  | cons role rest ih =>
    obtain ⟨hrole, hrest⟩ := List.nodup_cons.mp hroles
    have hfold : (role :: rest).foldlM (renderPane renderer.recorded) v j =
        rest.foldlM (renderPane renderer.recorded) (v.renderPane renderer.recorded role j).1
          (v.renderPane renderer.recorded role j).2 := by
      rw [List.foldlM_cons]
      rfl
    rw [hfold]
    cases hd : v.diagram? role with
    | none =>
      obtain ⟨v', calls, world, hrendered, hrun⟩ := ih hrest v j
      refine ⟨v', calls, world, hrendered.skip hd, ?_⟩
      rw [renderPane_of_no_diagram renderer.recorded hd]
      exact hrun
    | some p =>
      obtain ⟨rfl, hp⟩ := diagram?_eq_some.mp hd
      have hcall : v.renderPane renderer.recorded p.1 j =
          (v.setPane p.1 (renderer.call p.1 p.2 j.world).pane,
            { j with
              world := (renderer p.1 p.2 j.world).2
              deliveries := j.deliveries ++ [renderer.call p.1 p.2 j.world] }) :=
        renderPane_of_diagram renderer.recorded hp j
      obtain ⟨v', calls, world, hrendered, hrun⟩ :=
        ih hrest (v.setPane p.1 (renderer.call p.1 p.2 j.world).pane)
          { j with
            world := (renderer p.1 p.2 j.world).2
            deliveries := j.deliveries ++ [renderer.call p.1 p.2 j.world] }
      have hcons := Rendered.cons (c := renderer.call p.1 p.2 j.world) hd hrole hrendered
      refine ⟨v', renderer.call p.1 p.2 j.world :: calls, world, hcons, ?_⟩
      rw [hcall, hrun]
      simp only [List.append_assoc, List.singleton_append]

theorem renderPane_erases (v : View) (role : Role) :
    Erases (v.renderPane renderer.recorded role) (v.renderPane renderer role) := by
  unfold renderPane
  cases v.pane role with
  | empty => exact .pure v
  | failed message => exact .pure v
  | diagram text =>
    refine .bind (.call renderer role text) fun outcome => ?_
    cases outcome <;> exact .pure _

theorem renderPanes_erases (v : View) :
    Erases (v.renderPanes renderer.recorded) (v.renderPanes renderer) := by
  unfold renderPanes
  induction Role.all generalizing v with
  | nil => exact .pure v
  | cons role rest ih =>
    rw [List.foldlM_cons, List.foldlM_cons]
    exact .bind (renderPane_erases renderer v role) ih

/-- Rendering a view hands over each diagram once and records nothing but that. -/
theorem renderPanes_recorded (v : View) (j : Journal σ) :
    ∃ (v' : View) (calls : List Delivery) (world : σ), Rendered Role.all v v' calls ∧
      v.renderPanes renderer.recorded j =
        (v', { j with world, deliveries := j.deliveries ++ calls }) :=
  foldlM_renderPane renderer (by decide) v j

end Recorded

section Preserved
variable {σ : Type} {renderer : Renderer (StateM σ)} {P : Journal σ → Prop}

/-- What each first call for a pane preserves is preserved by rendering, over distinct roles. -/
theorem foldlM_renderPane_preserves {roles : List Role} (hroles : roles.Nodup)
    (hcall : ∀ role text j, P j → (∀ c ∈ j.deliveries, c.role ≠ role) →
      P (renderer.recorded role text j).2)
    (v : View) (j : Journal σ) (hj : P j) (hfresh : ∀ c ∈ j.deliveries, c.role ∉ roles) :
    P (roles.foldlM (renderPane renderer.recorded) v j).2 := by
  induction roles generalizing v j with
  | nil => exact hj
  | cons role rest ih =>
    obtain ⟨hrole, hrest⟩ := List.nodup_cons.mp hroles
    have hlater : ∀ c ∈ j.deliveries, c.role ∉ rest := by
      intro c hc hm
      exact hfresh c hc (List.mem_cons_of_mem role hm)
    rw [List.foldlM_cons]
    change P (rest.foldlM (renderPane renderer.recorded) (v.renderPane renderer.recorded role j).1
      (v.renderPane renderer.recorded role j).2).2
    cases hd : v.diagram? role with
    | none =>
      rw [renderPane_of_no_diagram renderer.recorded hd]
      exact ih hrest v j hj hlater
    | some p =>
      obtain ⟨rfl, hp⟩ := diagram?_eq_some.mp hd
      rw [renderPane_of_diagram renderer.recorded hp j]
      apply ih hrest
      · apply hcall _ _ _ hj
        intro c hc heq
        exact hfresh c hc (heq ▸ List.mem_cons_self)
      · intro c hc
        rcases List.mem_append.mp hc with hc | hc
        · exact hlater c hc
        · obtain rfl := List.mem_singleton.mp hc
          exact hrole

theorem renderPanes_preserves
    (hcall : ∀ role text j, P j → (∀ c ∈ j.deliveries, c.role ≠ role) →
      P (renderer.recorded role text j).2)
    (v : View) (j : Journal σ) (hj : P j) (hfresh : j.deliveries = []) :
    P (v.renderPanes renderer.recorded j).2 := by
  apply foldlM_renderPane_preserves (by decide) hcall v j hj
  intro c hc
  rw [hfresh] at hc
  cases hc

end Preserved
end View
end AutomatonChart
