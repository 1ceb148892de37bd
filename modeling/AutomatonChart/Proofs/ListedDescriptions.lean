import AutomatonChart.Proofs.Fields
import AutomatonChart.Proofs.SavedReply

/-! # Lists that pass for descriptions

Of the values that are no objects, a list of at most four items is read too: as the object that has
its items under the names of the fields, in order. A longer list and any other value is refused.
What is read that way is drawn, in a pane and by a command alike.
-/
namespace AutomatonChart

namespace Decoding

def named (vs : List Json) : List (String × Json) :=
  (Field.all.zip vs).map fun p => (p.1.name, p.2)

theorem nodup_fields_zip (vs : List Json) : ((Field.all.zip vs).map Prod.fst).Nodup := by
  have hsublist (fs : List Field) : ((fs.zip vs).map Prod.fst).Sublist fs := by
    induction fs generalizing vs with
    | nil => exact .slnil
    | cons f fs ih =>
      cases vs with
      | nil => exact List.nil_sublist _
      | cons v vs => exact (ih vs).cons_cons f
  exact (hsublist Field.all).nodup (by decide)

theorem Draft.member_name {d : Draft} {f : Field} {v : Json} (h : d.holds f = false) :
    d.member (f.name, v) = d.set f v := by
  have hkey : Field.ofKey? f.name = some f := Field.ofKey?_eq_some.mpr (.inl rfl)
  simp only [member, hkey, h, Bool.false_eq_true, if_false]

theorem foldlM_set_eq_member {ps : List (Field × Json)} (hps : (ps.map Prod.fst).Nodup)
    {value? : Field → Option Json} (hfree : ∀ p ∈ ps, value? p.1 = none) :
    ps.foldlM (fun (d : Draft) p => d.set p.1 p.2) (.ofValues value?) =
      (ps.map fun p => (p.1.name, p.2)).foldlM Draft.member (.ofValues value?) := by
  -- Setting one field leaves the others as they were, so none of the rest is there already.
  induction ps generalizing value? with
  | nil => rfl
  | cons p rest ih =>
    obtain ⟨hp, hrest⟩ := List.nodup_cons.mp hps
    obtain ⟨hfreep, hfreerest⟩ := List.forall_mem_cons.mp hfree
    have hmember := Draft.member_name (f := p.1) (v := p.2) (d := .ofValues value?)
      (by rw [Draft.holds_ofValues, hfreep, Option.isSome_none])
    rw [List.map_cons, List.foldlM_cons, List.foldlM_cons, hmember]
    cases hset : (Draft.ofValues value?).set p.1 p.2 with
    | error e => rfl
    | ok d =>
      obtain ⟨-, rfl⟩ := Draft.set_ofValues.mp hset
      refine ih hrest fun q hq => ?_
      have hne : q.1 ≠ p.1 := fun he => hp (he ▸ List.mem_map_of_mem hq)
      exact update_some_eq_none.mpr ⟨hne, hfreerest q hq⟩

theorem foldlM_set_isOk_iff {ps : List (Field × Json)} {value? : Field → Option Json} :
    (∃ d, ps.foldlM (fun (d : Draft) p => d.set p.1 p.2) (.ofValues value?) = .ok d) ↔
      ∀ p ∈ ps, p.1.Takes p.2 := by
  induction ps generalizing value? with
  | nil => exact ⟨nofun, fun _ => ⟨_, rfl⟩⟩
  | cons p rest ih =>
    simp only [List.foldlM_cons, except_bind_eq_ok, Draft.set_ofValues, List.forall_mem_cons]
    constructor
    · rintro ⟨d, _, ⟨htakes, rfl⟩, hrest⟩
      exact ⟨htakes, ih.mp ⟨d, hrest⟩⟩
    · rintro ⟨htakes, hrest⟩
      obtain ⟨d, hd⟩ := ih.mpr hrest
      exact ⟨d, _, ⟨htakes, rfl⟩, hd⟩

theorem ofItems_eq_ofMembers {vs : List Json} (h : vs.length ≤ Field.all.length) :
    ofItems vs = ofMembers (named vs) := by
  have hfold := @foldlM_set_eq_member _ (nodup_fields_zip vs) (fun _ => none) (fun _ _ => rfl)
  rw [ofItems, ofMembers, named, Draft.empty_eq_ofValues, ← hfold]
  cases (Field.all.zip vs).foldlM (fun (d : Draft) p => d.set p.1 p.2)
      (.ofValues fun _ => none) with
  | error e => rfl
  | ok d => exact if_neg (Nat.not_lt.mpr h)

/-- A list is accepted if it is not longer than the fields and each takes the item at its place. -/
theorem ofItems_isOk_iff {vs : List Json} : (∃ d, ofItems vs = .ok d) ↔
    vs.length ≤ Field.all.length ∧ ∀ p ∈ Field.all.zip vs, p.1.Takes p.2 := by
  have hfold := @foldlM_set_isOk_iff (Field.all.zip vs) fun _ => none
  rw [← hfold, ofItems, Draft.empty_eq_ofValues]
  cases (Field.all.zip vs).foldlM (fun (d : Draft) p => d.set p.1 p.2)
      (.ofValues fun _ => none) with
  | error e => simp
  | ok d => by_cases h : Field.all.length < vs.length <;> simp [h, Nat.not_lt.mp]

end Decoding

/-- A list that has at each place what the field of that place takes, and no more places. -/
def Json.IsFieldList (v : Json) : Prop :=
  ∃ vs, v = .array vs ∧ vs.length ≤ Field.all.length ∧ ∀ p ∈ Field.all.zip vs, p.1.Takes p.2

namespace Description
variable {v : Json}

theorem ofJson_array {vs : List Json} (h : vs.length ≤ Field.all.length) :
    ofJson (.array vs) = ofJson (.object (Decoding.named vs)) := by
  rw [ofJson, ofJson, Decoding.ofItems_eq_ofMembers h]

theorem isOk_ofJson_iff_of_not_object (hv : v.isObject = false) :
    (∃ d, ofJson v = .ok d) ↔ v.IsFieldList := by
  cases v with
  | object ms => cases hv
  | array vs =>
    simp only [ofJson, except_mapError_eq_ok, Decoding.ofItems_isOk_iff, Json.IsFieldList,
      Json.array.injEq, exists_eq_left']
  | _ =>
    refine iff_of_false ?_ ?_
    · rintro ⟨d, hd⟩
      cases hd
    · rintro ⟨vs, hvs, -⟩
      cases hvs

theorem ofJson_eq_error_of_ne_null (hnull : v ≠ .null) {e : DescriptionError}
    (h : ofJson v = .error e) : ∃ s, e = .shape s := by
  cases v with
  | null => exact absurd rfl hnull
  | array vs =>
    obtain ⟨s, -, hs⟩ := except_mapError_eq_error.mp h
    exact ⟨s, hs⟩
  | object ms =>
    obtain ⟨s, -, hs⟩ := except_mapError_eq_error.mp h
    exact ⟨s, hs⟩
  | _ => exact ⟨_, (Except.error.inj h).symm⟩

end Description
namespace Session
variable {σ : Type} (renderer : Renderer (StateM σ)) {reply : Reply} {role : Role} (world : σ)

theorem replay_recorded (reply : Reply) : ∃ (v : View) (calls : List Delivery) (world' : σ),
    View.Rendered Role.all reply.view v calls ∧
      replay renderer.recorded reply { world } = (v, { world := world', deliveries := calls }) :=
  View.renderPanes_recorded renderer reply.view { world }

theorem replay_recorded_of_refused {e : DescriptionError}
    (h : Description.ofJson (reply.describing role) = .error e) :
    (replay renderer.recorded reply { world }).1.pane role = .failed e.message ∧
      ∀ c ∈ (replay renderer.recorded reply { world }).2.deliveries, c.role ≠ role := by
  obtain ⟨v, calls, world', hrendered, hrun⟩ := replay_recorded renderer world reply
  rw [hrun]
  exact ⟨hrendered.pane_of_unreadable h, hrendered.uncalled_of_unreadable h⟩

theorem replay_recorded_of_read {d : Description}
    (h : Description.ofJson (reply.describing role) = .ok d) :
    ∃ c ∈ (replay renderer.recorded reply { world }).2.deliveries,
      c.role = role ∧ c.text = d.flowchart := by
  obtain ⟨v, calls, world', hrendered, hrun⟩ := replay_recorded renderer world reply
  obtain ⟨outcome, hc, -⟩ := hrendered.pane_of_read h
  rw [hrun]
  exact ⟨_, hc, rfl, rfl⟩

end Session

namespace Transcript

/-- Of the values that are no objects just the lists that fit the fields are read, as the objects
that have their items under the names of the fields; null is missing and any other value has the
wrong shape. A pane with a refused value fails and is not rendered, one with such a list is. The
command that draws a document prints the drawing of such a list, which ends the run as any print
does, and for any other value that is no object it prints nothing and fails. -/
theorem value_read_iff_fieldList {v : Json} (hv : v.isObject = false) :
    ((∃ d, Description.ofJson v = .ok d) ↔ v.IsFieldList) ∧
    (∀ vs, v = .array vs → vs.length ≤ 4 →
      Description.ofJson v = Description.ofJson (.object (Decoding.named vs))) ∧
    (v = .null → Description.ofJson v = .error .missing) ∧
    (v ≠ .null → ∀ e, Description.ofJson v = .error e → ∃ s, e = .shape s) ∧
    (∀ (σ : Type) (renderer : Renderer (StateM σ)) (world : σ) (reply : Reply) (role : Role),
      reply.describing role = v →
        let run := Session.replay renderer.recorded reply { world }
        (¬v.IsFieldList → (∃ message, run.1.pane role = .failed message) ∧
          ∀ c ∈ run.2.deliveries, c.role ≠ role) ∧
        ∀ d, Description.ofJson v = .ok d →
          ∃ c ∈ run.2.deliveries, c.role = role ∧ c.text = d.flowchart) ∧
    ∀ (stdin : Bytes) (exchange : Exchange) (env : Environment) (t : Transcript)
      (name text : String), Holds stdin t.files name text → Json.parse text = .ok v →
        let run := (platform stdin exchange).run env (.compile name) t
        (¬v.IsFieldList → ∃ e, run = (.error (.description e), t)) ∧
        ∀ d, Description.ofJson v = .ok d → Prints t d.flowchart run := by
  have hread := Description.isOk_ofJson_iff_of_not_object hv
  have hrefused (h : ¬v.IsFieldList) : ∃ e, Description.ofJson v = .error e := by
    cases hd : Description.ofJson v with
    | error e => exact ⟨e, rfl⟩
    | ok d => exact absurd (hread.mp ⟨d, hd⟩) h
  have horiginal : v.member? "original" = none := by
    cases v with
    | object ms => cases hv
    | _ => rfl
  refine ⟨hread, ?_, ?_, fun hnull e => Description.ofJson_eq_error_of_ne_null hnull, ?_, ?_⟩
  · rintro vs rfl hlength
    exact Description.ofJson_array hlength
  · rintro rfl
    rfl
  · rintro σ renderer world reply role rfl
    refine ⟨fun h => ?_, fun d hd => Session.replay_recorded_of_read renderer world hd⟩
    obtain ⟨e, he⟩ := hrefused h
    obtain ⟨hpane, hcalls⟩ := Session.replay_recorded_of_refused renderer world he
    exact ⟨⟨_, hpane⟩, hcalls⟩
  · intro stdin exchange env t name text hholds hparse
    refine ⟨fun h => ?_, fun d hd => ?_⟩
    · obtain ⟨e, he⟩ := hrefused h
      exact ⟨e, run_compile_of_unreadable hholds hparse exchange env horiginal he⟩
    · rw [run_compile_of_description hholds hparse exchange env horiginal hd]
      exact printed_prints t d.flowchart

def listedState : String := "[[\"q0\"]]"

theorem parse_listedState :
    Json.parse listedState = .ok (.array [.array [.string "q0"]]) :=
  Json.parse_of_holds (by decide +kernel)

theorem listedState_read_and_word_refused :
    Description.ofJson (.array [.array [.string "q0"]]) =
        Description.ofJson (.object [("states", .array [.string "q0"])]) ∧
      ((platform (Utf8.encode listedState) (answering 500 "")).run (fun _ => none)
        (.compile "-") {}).1 = .ok .success ∧
      ∃ e, (platform (Utf8.encode "true") (answering 500 "")).run (fun _ => none)
        (.compile "-") {} = (.error (.description e), {}) := by
  have hlist : (Json.array [.array [.string "q0"]]).isObject = false := rfl
  have hword : (Json.bool true).isObject = false := rfl
  have hparse : Json.parse "true" = .ok (.bool true) :=
    Json.parse_of_holds (by decide +kernel)
  have hrefused : ¬(Json.bool true).IsFieldList := by
    rintro ⟨vs, hvs, -⟩
    cases hvs
  obtain ⟨-, hnamed, -, -, -, hcompiled⟩ := value_read_iff_fieldList hlist
  obtain ⟨-, -, -, -, -, hcompiled'⟩ := value_read_iff_fieldList hword
  have hrun := hcompiled (Utf8.encode listedState) (answering 500 "") (fun _ => none) {} "-"
    listedState (holds_standardInput .fresh listedState) parse_listedState
  have hrun' := hcompiled' (Utf8.encode "true") (answering 500 "") (fun _ => none) {} "-" "true"
    (holds_standardInput .fresh "true") hparse
  exact ⟨hnamed _ rfl (by decide), (hrun.2 _ rfl).of_unlimited rfl, hrun'.1 hrefused⟩

/-- No object stands there, and still there is a drawing, with success. -/
theorem listedState_drawn :
    (Json.array [.array [.string "q0"]]).isObject = false ∧
      Description.ofJson (.array [.array [.string "q0"]]) = .ok { states := ["q0"] } ∧
      (platform (Utf8.encode listedState) (answering 500 "")).run (fun _ => none)
        (.compile "-") {} =
          (.ok .success,
            { output := { written := Utf8.encode "graph LR\n    s0(\"q0\")\n" } }) := by
  have hread : Description.ofJson (.array [.array [.string "q0"]]) =
      .ok ({ states := ["q0"] } : Description) := rfl
  have hdrawn : ({ states := ["q0"] } : Description).flowchart =
      "graph LR\n    s0(\"q0\")\n" := by
    decide
  have hrun := run_compile_of_description (t := {})
    (holds_standardInput .fresh listedState) parse_listedState (answering 500 "")
    (fun _ => none) rfl hread
  rw [hdrawn] at hrun
  exact ⟨rfl, hread, hrun⟩

end Transcript
end AutomatonChart
