import AutomatonChart.Proofs.PaneIsolation

/-! # What rendering into a directory leaves alone

Rendering into a directory adds to a tree: nothing is removed from it, new directories stand on the
way along the path of the directory, and of the files just those that are delivered are written.
-/
namespace AutomatonChart

namespace Path
variable {p q : Path}

/-- The first path stays on the way along the second one. -/
structure Along (q p : Path) : Prop where
  isAbsolute : q.isAbsolute = p.isAbsolute
  names : q.names.filter (· ≠ here) <+: p.names.filter (· ≠ here)

theorem Along.refl (p : Path) : p.Along p where
  isAbsolute := rfl
  names := List.prefix_rfl

theorem Above.along (h : q.Above p) : q.Along p where
  isAbsolute := h.isAbsolute
  names := h.names.trans ((List.dropLast_prefix p.names).filter _)

theorem along_of_mem_parents (h : q ∈ p.parents) : q.Along p :=
  ((List.pairwise_cons.mp p.pairwise_above).1 q h).along

end Path

namespace FileTree
variable {t t' t'' : FileTree} {p q dir : Path} {place : Place} {content : Bytes}
variable {touched touched' : Place → Prop}

/-- The directories that a path passes, the one in which it begins included. -/
def OnWay (t : FileTree) (p : Path) (place : Place) : Prop :=
  ∃ names s, names <+: p.names ∧ t.enter p names = .ok s ∧ s.place = place

theorem Extends.onWay (h : Extends touched t t') (hway : t.OnWay p place) : t'.OnWay p place := by
  obtain ⟨names, s, hnames, henter, hplace⟩ := hway
  obtain ⟨s', henter', hplace'⟩ := h.walk henter
  exact ⟨names, s', hnames, henter', hplace'.trans hplace⟩

theorem onWay_of_along (h : q.Along p) {s : Spot} (henter : t.enter q q.names = .ok s) :
    t.OnWay p s.place := by
  obtain ⟨names, hnames, hfilter⟩ := List.prefix_filter_iff.mp h.names
  refine ⟨names, s, hnames, ?_, rfl⟩
  rw [← enter_filter, ← hfilter, enter_filter, ← enter_congr h.isAbsolute]
  exact henter

/-- The second tree extends the first one, and its new directories are on the way along a path. -/
structure ExtendsAlong (dir : Path) (touched : Place → Prop) (t t' : FileTree) : Prop
    extends Extends touched t t' where
  directories : ∀ place, t'.isDirectoryAt place = true →
    t.isDirectoryAt place = true ∨ t'.OnWay dir place

namespace ExtendsAlong

theorem refl (touched : Place → Prop) (t : FileTree) : ExtendsAlong dir touched t t where
  toExtends := .refl touched t
  directories := fun _ => .inl

theorem trans (h : ExtendsAlong dir touched t t') (h' : ExtendsAlong dir touched t' t'') :
    ExtendsAlong dir touched t t'' where
  toExtends := h.toExtends.trans h'.toExtends
  directories := by
    intro place hplace
    rcases h'.directories place hplace with hbefore | hway
    · exact (h.directories place hbefore).imp_right h'.toExtends.onWay
    · exact .inr hway

theorem mono (h : ExtendsAlong dir touched t t') (himp : ∀ place, touched place → touched' place) :
    ExtendsAlong dir touched' t t' where
  toExtends := h.toExtends.mono himp
  directories := h.directories

end ExtendsAlong

theorem extendsAlong_makeDirectory (h : q.Along dir) (t : FileTree) :
    ExtendsAlong dir (fun _ => False) t (makeDirectory q t).2 := by
  refine ⟨extends_makeDirectory q t, ?_⟩
  intro place hplace
  rcases hmake : makeDirectory q t with ⟨e | ⟨⟩, t'⟩
  · rw [hmake, makeDirectory_error hmake] at hplace
    exact .inl hplace
  · rw [hmake] at hplace
    obtain ⟨-, s, henter, hnew⟩ := makeDirectory_eq_ok hmake
    rcases hnew place hplace with hbefore | rfl
    · exact .inl hbefore
    · exact .inr (onWay_of_along h henter)

theorem extendsAlong_makeDirectories (dir : Path) (t : FileTree) :
    ExtendsAlong dir (fun _ => False) t (makeDirectories dir t).2 := by
  unfold makeDirectories
  split
  · exact .refl _ t
  · refine makeChain_induction (.refl _) .trans (fun q hq => extendsAlong_makeDirectory ?_) t
    rcases List.mem_cons.mp hq with rfl | hq
    · exact .refl q
    · exact Path.along_of_mem_parents hq

theorem isDirectoryAt_of_write (h : (write p content t).2.isDirectoryAt place = true) :
    t.isDirectoryAt place = true := by
  unfold write at h
  split at h
  · exact h
  · exact h
  · rename_i target htarget
    split at h
    · exact h
    · obtain ⟨s, last, -, -, hwalk, hd, -, rfl⟩ := target_eq_entry htarget
      rcases isDirectoryAt_of_put (walk_within hwalk).at? hd rfl h with hbefore | ⟨-, hfile⟩
      · exact hbefore
      · cases hfile

theorem extendsAlong_write (dir : Path) (h : write p content t = (.ok (), t')) :
    ExtendsAlong dir (t'.LeadsTo p) t t' := by
  obtain ⟨place, -, hextends, -, hleads⟩ := write_eq_ok h
  refine ⟨hextends.mono ?_, ?_⟩
  · rintro _ rfl
    exact hleads
  · intro place hplace
    have hafter : (write p content t).2.isDirectoryAt place = true := by
      rw [h]
      exact hplace
    exact .inl (isDirectoryAt_of_write hafter)

end FileTree

namespace Directory
open FileTree
variable {dir : Path} {format : OutputFormat} {role : Role} {t : FileTree}

theorem isFileOf_of_target {place : Place}
    (h : t.target (pathFor dir format role) = .ok (.entry place)) : IsFileOf format role place := by
  obtain ⟨s, last, -, hlast, -, -, -, rfl⟩ := target_eq_entry h
  rw [getLast?_names_pathFor] at hlast
  obtain rfl := Option.some.inj hlast
  exact isFileOf_concat s.place

/-- A call that fails touches no file, and one that succeeds just the file of its pane. -/
theorem extendsAlong_renderer (dir : Path) (format : OutputFormat) (role : Role) (text : String)
    (t : FileTree) :
    let run := renderer FileTree.store dir format role text t
    ExtendsAlong dir (fun place => run.1 = .ok () ∧ run.2.LeadsTo (pathFor dir format role) place)
      t run.2 := by
  dsimp only
  have hmade := extendsAlong_makeDirectories dir t
  rcases renderer_cases dir format role text t with
    ⟨e, t₁, hmake, hrun⟩ | ⟨e, t₁, hmake, -, hrun⟩ | ⟨t₁, t₂, hmake, hwrite, hrun⟩
  · rw [hmake] at hmade
    rw [hrun]
    exact hmade.mono fun _ h => h.elim
  · rw [hmake] at hmade
    rw [hrun]
    exact hmade.mono fun _ h => h.elim
  · rw [hmake] at hmade
    rw [hrun]
    have hwritten := extendsAlong_write dir hwrite
    exact (hmade.mono fun _ h => h.elim).trans (hwritten.mono fun _ h => ⟨rfl, h⟩)

end Directory

namespace View
open Directory FileTree
variable {σ : Type} {renderer : Renderer (StateM σ)} {role : Role} {p : Pane} {text : String}

theorem deliver_eq_diagram {s : σ} : (deliver renderer role p s).1 = .diagram text ↔
    p = .diagram text ∧ (renderer role text s).1 = .ok () := by
  cases p with
  | empty => exact ⟨nofun, nofun⟩
  | failed message => exact ⟨nofun, nofun⟩
  | diagram given =>
    change (renderer.call role given s).pane = .diagram text ↔ _
    rw [Delivery.pane_eq_diagram, Pane.diagram.injEq]
    constructor
    · rintro ⟨hok, rfl⟩
      exact ⟨rfl, hok⟩
    · rintro ⟨rfl, hok⟩
      exact ⟨hok, rfl⟩

theorem extendsAlong_deliver (dir : Path) (format : OutputFormat) (role : Role) (p : Pane)
    (t : FileTree) :
    let after := deliver (Directory.renderer FileTree.store dir format) role p t
    ExtendsAlong dir (fun place => (∃ text, after.1 = .diagram text) ∧
      after.2.LeadsTo (pathFor dir format role) place) t after.2 := by
  intro after
  cases p with
  | empty => exact .refl _ t
  | failed message => exact .refl _ t
  | diagram text =>
    refine (extendsAlong_renderer dir format role text t).mono ?_
    rintro place ⟨hok, hleads⟩
    exact ⟨⟨text, deliver_eq_diagram.mpr ⟨rfl, hok⟩⟩, hleads⟩

theorem extendsAlong_renderPanes (dir : Path) (format : OutputFormat) (v : View) (t : FileTree) :
    let run := v.renderPanes (Directory.renderer FileTree.store dir format) t
    ExtendsAlong dir (fun place => ∃ role, (∃ text, run.1.pane role = .diagram text) ∧
      run.2.LeadsTo (pathFor dir format role) place) t run.2 := by
  rw [renderPanes_eq]
  intro run
  have hfirst := extendsAlong_deliver dir format .original v.original t
  have hsecond := extendsAlong_deliver dir format .minimized v.minimized
    (deliver (Directory.renderer FileTree.store dir format) .original v.original t).2
  -- The first path still leads to the same place after the second call.
  refine (hfirst.mono ?_).trans (hsecond.mono ?_)
  · rintro place ⟨hshown, hleads⟩
    exact ⟨.original, hshown, hsecond.toExtends.leadsTo hleads⟩
  · rintro place ⟨hshown, hleads⟩
    exact ⟨.minimized, hshown, hleads⟩

theorem read_of_delivered {dir : Path} {format : OutputFormat} {v : View} {t : FileTree} :
    let run := v.renderPanes (Directory.renderer FileTree.store dir format) t
    run.1.pane role = .diagram text → v.pane role = .diagram text ∧
      run.2.read (pathFor dir format role) = .ok (Utf8.encode (contents format role text)) := by
  intro run hshown
  obtain ⟨-, hpane, hafter⟩ := renderPanes_cases dir format v role t
  obtain ⟨hdiagram, hok⟩ := deliver_eq_diagram.mp (hpane.symm.trans hshown)
  rw [hdiagram] at hafter
  refine ⟨hdiagram, ?_⟩
  have hread := (renderer_reads dir format role text _).1 hok
  exact hafter.extends.read hread fun s hwalk => not_not_intro (isFileOf_of_walk hwalk)

/-- Rendering into a directory touches only its own files. A diagram that is still shown stands in
the file of its pane, a pane that could not be delivered has changed no file, and no two panes write
to the same place, in whatever trees. All that was there stays there; new directories are on the way
along the path of the directory, and no files are changed but those of the delivered panes. -/
theorem directory_output_confined (dir : Path) (format : OutputFormat) (v : View) (t : FileTree) :
    let renderer := Directory.renderer FileTree.store dir format
    let path := pathFor dir format
    let run := v.renderPanes renderer t
    (∀ role text, run.1.pane role = .diagram text → v.pane role = .diagram text ∧
      run.2.read (path role) = .ok (Utf8.encode (match format with
        | .mmd => text
        | .html => Page.html role.name text))) ∧
    (∀ role message, run.1.pane role = .failed message →
      Extends (fun _ => False) (v.before renderer t role)
        (deliver renderer role (v.pane role) (v.before renderer t role)).2) ∧
    (∀ role other, role ≠ other → ∀ (x y : FileTree) (place : Place),
      x.target (path role) = .ok (.entry place) → y.target (path other) ≠ .ok (.entry place)) ∧
    ExtendsAlong dir (fun place => ∃ role, (∃ text, run.1.pane role = .diagram text) ∧
      run.2.LeadsTo (path role) place) t run.2 := by
  intro renderer path run
  refine ⟨?_, ?_, ?_, extendsAlong_renderPanes dir format v t⟩
  · intro role text hshown
    exact read_of_delivered hshown
  · intro role message hfailed
    obtain ⟨-, hpane, -⟩ := renderPanes_cases dir format v role t
    have hdelivered := extendsAlong_deliver dir format role (v.pane role) (v.before renderer t role)
    refine hdelivered.toExtends.mono ?_
    rintro place ⟨⟨text, hshown⟩, -⟩
    cases (hpane.symm.trans hfailed).symm.trans hshown
  · intro role other hne x y place htarget htarget'
    have hfile : IsFileOf format role place := isFileOf_of_target htarget
    have hfile' : IsFileOf format other place := isFileOf_of_target htarget'
    exact hne (encode_fileName_injective format (Option.some.inj (hfile.symm.trans hfile')))

end View
end AutomatonChart
