import AutomatonChart.Proofs.Commands
import AutomatonChart.Proofs.FileFrame

/-! # Where diagrams end up

A call that succeeds leaves its diagram in full, and no later call takes it away: on a stream the
blocks follow one another, and in a directory each pane has a file of its own that the calls for
other panes do not touch.
-/
namespace AutomatonChart

namespace Output

theorem write_left (bytes : Bytes) (o : Output) :
    ∃ left, left <+: bytes ∧ ((o.write bytes).1 = .ok () → left = bytes) ∧
      (o.write bytes).2.written = o.written ++ left := by
  obtain ⟨written, room, flushFailure⟩ := o
  cases room with
  | none => exact ⟨bytes, List.prefix_rfl, fun _ => rfl, rfl⟩
  | some n =>
    refine ⟨bytes.take n, List.take_prefix n bytes, fun hok => ?_, rfl⟩
    apply List.take_of_length_le
    by_contra hlong
    simp only [write, if_neg hlong] at hok
    cases hok

end Output

namespace Stream

/-- What a call leaves on a stream: a beginning of its block, and all of it if it succeeds. -/
structure Left (c : Delivery) (bytes : Bytes) : Prop where
  begins : bytes <+: block c.role c.text
  whole : c.outcome = .ok () → bytes = block c.role c.text

theorem renderer_left (role : Role) (text : String) (o : Output) :
    ∃ bytes, Left ((renderer Output.sink).call role text o) bytes ∧
      (renderer Output.sink role text o).2.written = o.written ++ bytes := by
  unfold Renderer.call
  rw [renderer_eq]
  obtain ⟨bytes, hbegins, hwhole, hwritten⟩ := Output.write_left (block role text) o
  refine ⟨bytes, ?_⟩
  rcases hwrite : o.write (block role text) with ⟨reason | ⟨⟩, o₁⟩
  · rw [hwrite] at hwritten
    exact ⟨⟨hbegins, nofun⟩, hwritten⟩
  · rw [hwrite] at hwhole hwritten
    have hflushed := congrArg Output.written (Output.flush_state o₁)
    dsimp only
    rcases hflush : o₁.flush with ⟨reason | ⟨⟩, o₂⟩
    · rw [hflush] at hflushed
      exact ⟨⟨hbegins, nofun⟩, hflushed.trans hwritten⟩
    · rw [hflush] at hflushed
      exact ⟨⟨hbegins, fun _ => hwhole rfl⟩, hflushed.trans hwritten⟩

/-- What calls have left on a stream, one after the other. -/
def Holds (before : Bytes) (calls : List Delivery) (written : Bytes) : Prop :=
  ∃ parts, List.Forall₂ Left calls parts ∧ written = before ++ parts.flatten

theorem Holds.concat {before written bytes : Bytes} {calls : List Delivery} {c : Delivery}
    (h : Holds before calls written) (hc : Left c bytes) :
    Holds before (calls ++ [c]) (written ++ bytes) := by
  obtain ⟨parts, hparts, rfl⟩ := h
  refine ⟨parts ++ [bytes], List.rel_append hparts (.cons hc .nil), ?_⟩
  simp

end Stream

namespace Path

theorem pieces_ne_nil (bytes : Bytes) : pieces bytes ≠ [] := by
  cases bytes with
  | nil => simp [pieces]
  | cons b rest =>
    rw [pieces]
    split
    · simp
    · split <;> simp

theorem pieces_append_slash (front rest : Bytes) :
    pieces (front ++ slash :: rest) = pieces front ++ pieces rest := by
  induction front with
  | nil => simp [pieces]
  | cons b front ih =>
    rw [List.cons_append, pieces, pieces, ih]
    by_cases hb : b = slash
    · simp [hb]
    · cases hp : pieces front with
      | nil => exact absurd hp (pieces_ne_nil front)
      | cons first others => simp [hb]

theorem pieces_of_no_slash {name : Bytes} (h : slash ∉ name) : pieces name = [name] := by
  induction name with
  | nil => rfl
  | cons b rest ih =>
    have hb : b ≠ slash := by
      rintro rfl
      exact h List.mem_cons_self
    have hrest : slash ∉ rest := fun hm => h (List.mem_cons_of_mem b hm)
    rw [pieces, if_neg hb, ih hrest]

theorem names_join (dir : Path) {name : String} (hslash : slash ∉ Utf8.encode name)
    (hname : Utf8.encode name ≠ []) :
    (dir.join name).names = dir.names ++ [Utf8.encode name] := by
  unfold join names
  split
  · rename_i hends
    rcases hends with hempty | hends
    · simp [hempty, pieces_of_no_slash hslash, pieces, hname]
    · have hlast : dir.bytes.getLast? = some slash := of_decide_eq_true hends
      obtain ⟨front, hfront⟩ := List.getLast?_eq_some_iff.mp hlast
      rw [hfront, List.append_assoc, List.singleton_append, pieces_append_slash,
        pieces_append_slash, pieces_of_no_slash hslash]
      simp [pieces, hname]
  · rw [List.append_assoc, List.singleton_append, pieces_append_slash, pieces_of_no_slash hslash]
    simp [hname]

theorem isAbsolute_join (dir : Path) {name : String} (hslash : slash ∉ Utf8.encode name) :
    (dir.join name).isAbsolute = dir.isAbsolute := by
  have hhead : (Utf8.encode name).head? ≠ some slash :=
    fun h => hslash (List.mem_of_head? h)
  unfold join isAbsolute
  cases hdir : dir.bytes with
  | nil => simp [hhead]
  | cons b rest => split <;> simp

theorem getLast?_names_join (dir : Path) {name : String} (hslash : slash ∉ Utf8.encode name)
    (hname : Utf8.encode name ≠ []) :
    (dir.join name).names.getLast? = some (Utf8.encode name) := by
  rw [names_join dir hslash hname, List.getLast?_concat]

end Path

namespace Directory
variable (dir : Path) (format : OutputFormat)

/-- The name of a pane's file names an entry, and no two panes share one. -/
theorem isEntryName_fileName (role : Role) :
    Spot.IsEntryName (Utf8.encode (fileName format role)) := by
  cases format <;> cases role <;> exact ⟨by decide, by decide, by decide⟩

theorem getLast?_names_pathFor (role : Role) :
    (pathFor dir format role).names.getLast? = some (Utf8.encode (fileName format role)) := by
  apply Path.getLast?_names_join
  · cases format <;> cases role <;> decide
  · cases format <;> cases role <;> decide

theorem encode_fileName_injective {role other : Role}
    (h : Utf8.encode (fileName format role) = Utf8.encode (fileName format other)) :
    role = other := by
  revert h
  cases format <;> cases role <;> cases other <;> decide

theorem renderer_eq (role : Role) (text : String) (t : FileTree) :
    renderer FileTree.store dir format role text t =
      match FileTree.makeDirectories dir t with
      | (.error e, t) => (.error (.file (pathFor dir format role) e.message), t)
      | (.ok (), t) =>
        match FileTree.write (pathFor dir format role)
            (Utf8.encode (contents format role text)) t with
        | (.error e, t) => (.error (.file (pathFor dir format role) e.message), t)
        | (.ok (), t) => (.ok (), t) := by
  simp only [renderer, bind, StateT.bind, FileTree.store]
  rcases FileTree.makeDirectories dir t with ⟨e | ⟨⟩, t₁⟩
  · rfl
  · simp only [Except.mapError, StateT.bind]
    rcases FileTree.write (pathFor dir format role)
      (Utf8.encode (contents format role text)) t₁ with ⟨e | ⟨⟩, t₂⟩ <;> rfl

def refused (role : Role) (e : FileError) : Except DeliveryError Unit :=
  .error (.file (pathFor dir format role) e.message)

/-- A call fails to make the directory, or fails to write the file and leaves the directory, or it
writes the file. -/
theorem renderer_cases (role : Role) (text : String) (t : FileTree) :
    (∃ e t₁, FileTree.makeDirectories dir t = (.error e, t₁) ∧
      renderer FileTree.store dir format role text t = (refused dir format role e, t₁)) ∨
    (∃ e t₁, FileTree.makeDirectories dir t = (.ok (), t₁) ∧
      FileTree.write (pathFor dir format role) (Utf8.encode (contents format role text)) t₁ =
        (.error e, t₁) ∧
      renderer FileTree.store dir format role text t = (refused dir format role e, t₁)) ∨
    ∃ t₁ t₂, FileTree.makeDirectories dir t = (.ok (), t₁) ∧
      FileTree.write (pathFor dir format role) (Utf8.encode (contents format role text)) t₁ =
        (.ok (), t₂) ∧
      renderer FileTree.store dir format role text t = (.ok (), t₂) := by
  rw [renderer_eq]
  rcases hmake : FileTree.makeDirectories dir t with ⟨e | ⟨⟩, t₁⟩
  · exact .inl ⟨e, t₁, rfl, rfl⟩
  · rcases FileTree.write_cases (pathFor dir format role)
        (Utf8.encode (contents format role text)) t₁ with ⟨e, hwrite⟩ | ⟨t₂, -, hwrite, -⟩
    · refine .inr (.inl ⟨e, t₁, rfl, hwrite, ?_⟩)
      dsimp only
      rw [hwrite]
      rfl
    · refine .inr (.inr ⟨t₁, t₂, rfl, hwrite, ?_⟩)
      dsimp only
      rw [hwrite]

/-- One call leaves its own file with the diagram in it if it succeeds, and the files of the other
panes are read as before. -/
theorem renderer_reads (role : Role) (text : String) (t : FileTree) :
    ((renderer FileTree.store dir format role text t).1 = .ok () →
      (renderer FileTree.store dir format role text t).2.read (pathFor dir format role) =
        .ok (Utf8.encode (contents format role text))) ∧
    ∀ other content, other ≠ role → t.read (pathFor dir format other) = .ok content →
      (renderer FileTree.store dir format role text t).2.read (pathFor dir format other) =
        .ok content := by
  have hmade := FileTree.extends_makeDirectories dir t
  have hkept : ∀ {p content}, t.read p = .ok content →
      (FileTree.makeDirectories dir t).2.read p = .ok content :=
    fun hread => hmade.read hread fun _ _ h => h
  rcases renderer_cases dir format role text t with
    ⟨e, t₁, hmake, hrun⟩ | ⟨e, t₁, hmake, -, hrun⟩ | ⟨t₁, t₂, hmake, hwrite, hrun⟩
  · rw [hmake] at hkept
    rw [hrun]
    exact ⟨nofun, fun other content _ hread => hkept hread⟩
  · rw [hmake] at hkept
    rw [hrun]
    exact ⟨nofun, fun other content _ hread => hkept hread⟩
  · rw [hmake] at hkept
    rw [hrun]
    obtain ⟨place, hlast, hextends, hread, -⟩ := FileTree.write_eq_ok hwrite
    refine ⟨fun _ => hread, fun other content hne hread => ?_⟩
    apply hextends.read (hkept hread)
    -- The two places end in different names.
    rintro s hwalk rfl
    have hother := FileTree.getLast?_place_of_walk (getLast?_names_pathFor dir format other)
      (isEntryName_fileName format other) hwalk
    rw [hlast, getLast?_names_pathFor] at hother
    exact hne (encode_fileName_injective format (Option.some.inj hother)).symm

end Directory
end AutomatonChart
