import AutomatonChart.Proofs.Placement
import AutomatonChart.Proofs.Reporting
import AutomatonChart.Proofs.Sessions

/-! # What the exit status says

A session succeeds just if both diagrams were drawn and taken, and a pane that was not delivered is
named with the reason. What is not named stands in full where the command puts it, since no later
call takes away what an earlier one left.
-/
namespace AutomatonChart

/-- The directory that takes the diagrams of a command, if they do not go to the output. -/
def Command.directory? : Command → Option (Path × OutputFormat)
  | .minimize options => options.outDir.map fun dir => (dir, options.format)
  | .compile _ => none

namespace Transcript

section Sessions
variable {stdin : Bytes} {exchange : Exchange} {env : Environment} {t : Transcript}
variable {command : Command} {result : Except ServiceError Reply}
variable {session : View × Journal Transcript} {reply : Reply}

theorem rendererOf_cases (stdin : Bytes) (exchange : Exchange) (command : Command) :
    (command.directory? = none ∧ rendererOf stdin exchange command =
      fun role text => onOutput (Stream.renderer Output.sink role text)) ∨
    ∃ dir format, command.directory? = some (dir, format) ∧ rendererOf stdin exchange command =
      fun role text => onFiles (Directory.renderer FileTree.store dir format role text) := by
  cases command with
  | compile input =>
    refine .inl ⟨rfl, ?_⟩
    funext role text
    exact stream_platform stdin exchange role text
  | minimize options =>
    cases hdir : options.outDir with
    | none =>
      refine .inl ⟨by rw [Command.directory?, hdir]; rfl, ?_⟩
      funext role text
      rw [rendererOf, Platform.renderer, hdir]
      exact stream_platform stdin exchange role text
    | some dir =>
      refine .inr ⟨dir, options.format, by rw [Command.directory?, hdir]; rfl, ?_⟩
      funext role text
      rw [rendererOf, Platform.renderer, hdir]
      exact directory_platform stdin exchange dir options.format role text

/-- What a session keeps to while it renders: nothing is told, and the diagrams that were taken
stand in full. -/
structure Kept (command : Command) (t : Transcript) (j : Journal Transcript) : Prop where
  complaints : j.world.complaints = t.complaints
  stream : command.directory? = none →
    Stream.Holds t.output.written j.deliveries j.world.output.written
  files : ∀ dir format, command.directory? = some (dir, format) → ∀ c ∈ j.deliveries,
    c.outcome = .ok () → j.world.files.read (Directory.pathFor dir format c.role) =
      .ok (Utf8.encode (Directory.contents format c.role c.text))

theorem Kept.start (command : Command) (t : Transcript) (requests : List Request)
    (exchanges : List (Request × Except String Response)) :
    Kept command t { world := { t with requests }, exchanges } where
  complaints := rfl
  stream := fun _ => ⟨[], .nil, (List.append_nil _).symm⟩
  files := by
    intro dir format _ c hc
    cases hc

theorem Kept.call {j : Journal Transcript} (h : Kept command t j) (role : Role) (text : String)
    (hfresh : ∀ c ∈ j.deliveries, c.role ≠ role) :
    Kept command t ((rendererOf stdin exchange command).recorded role text j).2 := by
  rcases rendererOf_cases stdin exchange command with
    ⟨hnone, hrenderer⟩ | ⟨dir, format, hsome, hrenderer⟩
  · rw [hrenderer]
    refine ⟨h.complaints, fun _ => ?_, ?_⟩
    · obtain ⟨bytes, hleft, hwritten⟩ := Stream.renderer_left role text j.world.output
      have hholds := (h.stream hnone).concat hleft
      rw [← hwritten] at hholds
      exact hholds
    · intro dir format hsome
      rw [hnone] at hsome
      cases hsome
  · rw [hrenderer]
    refine ⟨h.complaints, fun hnone => ?_, ?_⟩
    · rw [hnone] at hsome
      cases hsome
    · intro dir' format' hsome' c hc hok
      rw [hsome] at hsome'
      cases hsome'
      obtain ⟨hown, hothers⟩ := Directory.renderer_reads dir format role text j.world.files
      rcases List.mem_append.mp hc with hc | hc
      · exact hothers c.role _ (hfresh c hc) (h.files dir format hsome c hc hok)
      · obtain rfl := List.mem_singleton.mp hc
        exact hown hok

theorem InSession.kept (h : InSession stdin exchange env t command result session) :
    Kept command t session.2 := by
  obtain ⟨requests, exchanges, ⟨notice, hsession⟩ | ⟨reply, -, hsession⟩⟩ := h.begins
  · rw [hsession]
    exact .start command t requests exchanges
  · rw [hsession]
    apply View.renderPanes_preserves
    · intro role text j hj hfresh
      exact hj.call role text hfresh
    · exact .start command t requests exchanges
    · rfl

end Sessions

end Transcript
end AutomatonChart
