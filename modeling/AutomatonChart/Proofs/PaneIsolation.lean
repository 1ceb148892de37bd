import AutomatonChart.Proofs.MakingDirectories

/-! # Panes do not disturb each other

Two replies with the same description of one automaton show the same pane for it, whatever else
they hold. Rendering into a directory keeps that up: the file of one pane never depends on the other
pane. What a pane reports does not either, except that a directory which cannot be made is tried
again for the second pane, and may be refused in other words by then.
-/
namespace AutomatonChart

namespace Directory
open FileTree
variable {dir : Path} {format : OutputFormat} {role other : Role} {t t₁ x y : FileTree}
variable {content : Bytes}

theorem slash_not_mem_fileName (format : OutputFormat) (role : Role) :
    Path.slash ∉ Utf8.encode (fileName format role) := by
  cases format <;> cases role <;> decide

theorem encode_fileName_ne_nil (format : OutputFormat) (role : Role) :
    Utf8.encode (fileName format role) ≠ [] := by
  cases format <;> cases role <;> decide

theorem names_pathFor : (pathFor dir format role).names =
    dir.names ++ [Utf8.encode (fileName format role)] :=
  Path.names_join dir (slash_not_mem_fileName format role) (encode_fileName_ne_nil format role)

theorem enter_pathFor {names : List Bytes} :
    t.enter (pathFor dir format role) names = t.enter dir names :=
  enter_congr (Path.isAbsolute_join dir (slash_not_mem_fileName format role))

theorem endsInSlash_pathFor : (pathFor dir format role).endsInSlash = false := by
  have hlast : ∃ front, (pathFor dir format role).bytes =
      front ++ Utf8.encode (fileName format role) := by
    unfold pathFor Path.join
    split
    · exact ⟨_, rfl⟩
    · exact ⟨_, rfl⟩
  obtain ⟨front, hbytes⟩ := hlast
  apply decide_eq_false
  intro hslash
  rw [hbytes, List.getLast?_append_of_ne_nil _ (encode_fileName_ne_nil format role)] at hslash
  exact slash_not_mem_fileName format role (List.mem_of_getLast? hslash)

theorem write_pathFor_eq : write (pathFor dir format role) content t =
    match checkPath (pathFor dir format role), t.enter dir dir.names with
    | .error e, _ => (.error e, t)
    | .ok (), .error e => (.error e, t)
    | .ok (), .ok s =>
      if t.isDirectoryAt (s.place ++ [Utf8.encode (fileName format role)]) then
        (.error .isADirectory, t)
      else (.ok (), t.put (s.place ++ [Utf8.encode (fileName format role)]) (.file content)) := by
  have hname := isEntryName_fileName format role
  unfold write
  cases hcheck : checkPath (pathFor dir format role) with
  | error e =>
    rw [target_of_checkPath hcheck]
  | ok _ =>
    rw [target_eq hcheck (getLast?_names_pathFor dir format role), enter_pathFor, names_pathFor,
      List.dropLast_concat]
    cases t.enter dir dir.names with
    | error e => rfl
    | ok s =>
      simp only [bind, Except.bind, hname.ne_here, hname.ne_up, or_self, if_false,
        Nat.not_lt.mpr hname.length_le, pure, Except.pure, endsInSlash_pathFor,
        Bool.false_eq_true, or_false]

theorem read_pathFor_eq_ok : t.read (pathFor dir format role) = .ok content ↔
    checkPath (pathFor dir format role) = .ok () ∧ ∃ s, t.enter dir dir.names = .ok s ∧
      t.top.content? (s.place ++ [Utf8.encode (fileName format role)]) = some content := by
  have hname := isEntryName_fileName format role
  have hlast := getLast?_names_pathFor dir format role
  have hfront : t.enter (pathFor dir format role) (pathFor dir format role).names.dropLast =
      t.enter dir dir.names := by
    rw [enter_pathFor, names_pathFor, List.dropLast_concat]
  rw [read_eq_ok]
  constructor
  · rintro ⟨hcheck, -, r, hwalk, hfile⟩
    refine ⟨hcheck, ?_⟩
    rw [walk_names hlast] at hwalk
    cases hs : t.walk (pathFor dir format role) (pathFor dir format role).names.dropLast with
    | error e =>
      rw [hs] at hwalk
      cases hwalk
    | ok s =>
      rw [hs] at hwalk
      obtain ⟨hd, ⟨hhere, -⟩ | ⟨hup, -⟩ | ⟨-, next, found, rfl⟩⟩ := Spot.step_cases hwalk
      · exact absurd hhere hname.ne_here
      · exact absurd hup hname.ne_up
      · obtain rfl : next = .file content := hfile
        have henter : t.enter dir dir.names = .ok s := hfront ▸ enter_eq_ok.mpr ⟨hs, hd⟩
        have hnode := (node?_of_enter henter _).trans found
        rw [node?] at hnode
        exact ⟨s, henter, by rw [FileNode.content?, hnode]⟩
  · rintro ⟨hcheck, s, hs, hcontent⟩
    refine ⟨hcheck, endsInSlash_pathFor, ?_⟩
    have hnode := node?_of_enter hs (Utf8.encode (fileName format role))
    rw [node?] at hnode
    rw [walk_of_enter hlast (hfront.trans hs)]
    rw [FileNode.content?, hnode] at hcontent
    split at hcontent
    · rename_i found hchild
      cases hcontent
      exact ⟨_, Spot.step_entry (enter_eq_ok.mp hs).2 hname hchild, rfl⟩
    · cases hcontent

theorem write_pathFor_eq_ok (h : write (pathFor dir format role) content t = (.ok (), x)) :
    ∃ s, checkPath (pathFor dir format role) = .ok () ∧ t.enter dir dir.names = .ok s ∧
      x = t.put (s.place ++ [Utf8.encode (fileName format role)]) (.file content) ∧
      Extends (· = s.place ++ [Utf8.encode (fileName format role)]) t x ∧
      x.top.content? (s.place ++ [Utf8.encode (fileName format role)]) = some content := by
  rw [write_pathFor_eq] at h
  cases hcheck : checkPath (pathFor dir format role) with
  | error e => rw [hcheck] at h; cases h
  | ok _ =>
    cases hs : t.enter dir dir.names with
    | error e => rw [hcheck, hs] at h; cases h
    | ok s =>
      rw [hcheck, hs] at h
      dsimp only at h
      split at h
      · cases h
      · rename_i hfree
        cases h
        obtain ⟨hwalk, hd⟩ := enter_eq_ok.mp hs
        have hat := (walk_within hwalk).at?
        refine ⟨s, rfl, rfl, rfl, ?_, ?_⟩
        · apply extends_put hat hd rfl
          intro node hnode
          refine ⟨?_, rfl⟩
          simpa [isDirectoryAt, hnode] using hfree
        · rw [top_put, FileNode.content?, FileNode.at?_put hat hd]

/-- The places at which a pane's file can stand. -/
def IsFileOf (format : OutputFormat) (role : Role) (place : Place) : Prop :=
  place.getLast? = some (Utf8.encode (fileName format role))

theorem isFileOf_concat (place : Place) :
    IsFileOf format role (place ++ [Utf8.encode (fileName format role)]) :=
  List.getLast?_concat

theorem not_isFileOf (hne : other ≠ role) (place : Place) :
    ¬IsFileOf format role (place ++ [Utf8.encode (fileName format other)]) := by
  intro h
  rw [IsFileOf, List.getLast?_concat] at h
  exact hne (encode_fileName_injective format (Option.some.inj h))

theorem isFileOf_of_walk {s : Spot}
    (h : t.walk (pathFor dir format role) (pathFor dir format role).names = .ok s) :
    IsFileOf format role s.place :=
  getLast?_place_of_walk (getLast?_names_pathFor dir format role)
    (isEntryName_fileName format role) h

/-- Two trees that hold the same for a pane: the directory is at the same place, or cannot be
reached for the same reason, and wherever the pane's file can stand there is the same in both. -/
structure Agree (dir : Path) (format : OutputFormat) (role : Role) (x y : FileTree) : Prop where
  reached : (x.enter dir dir.names).map Spot.place = (y.enter dir dir.names).map Spot.place
  contents : ∀ place, IsFileOf format role place → x.top.content? place = y.top.content? place

namespace Agree

theorem refl (x : FileTree) : Agree dir format role x x where
  reached := rfl
  contents := fun _ _ => rfl

theorem symm (h : Agree dir format role x y) : Agree dir format role y x where
  reached := h.reached.symm
  contents := fun place hplace => (h.contents place hplace).symm

theorem trans {z : FileTree} (h : Agree dir format role x y) (h' : Agree dir format role y z) :
    Agree dir format role x z where
  reached := h.reached.trans h'.reached
  contents := fun place hplace => (h.contents place hplace).trans (h'.contents place hplace)

theorem enter_eq_ok (h : Agree dir format role x y) {s : Spot}
    (hs : x.enter dir dir.names = .ok s) :
    ∃ s', y.enter dir dir.names = .ok s' ∧ s'.place = s.place := by
  have hreached := h.reached
  rw [hs] at hreached
  cases hs' : y.enter dir dir.names with
  | error e => rw [hs'] at hreached; cases hreached
  | ok s' =>
    rw [hs'] at hreached
    exact ⟨s', rfl, (Except.ok.inj hreached).symm⟩

theorem read (h : Agree dir format role x y)
    (hread : x.read (pathFor dir format role) = .ok content) :
    y.read (pathFor dir format role) = .ok content := by
  obtain ⟨hcheck, s, hs, hcontent⟩ := read_pathFor_eq_ok.mp hread
  obtain ⟨s', hs', hplace⟩ := h.enter_eq_ok hs
  refine read_pathFor_eq_ok.mpr ⟨hcheck, s', hs', ?_⟩
  rw [hplace, ← h.contents _ (isFileOf_concat s.place), hcontent]

theorem write {x' y' : FileTree} (h : Agree dir format role x y)
    (hx : FileTree.write (pathFor dir format role) content x = (.ok (), x'))
    (hy : FileTree.write (pathFor dir format role) content y = (.ok (), y')) :
    Agree dir format role x' y' := by
  obtain ⟨s, -, hs, -, hextends, hcontent⟩ := write_pathFor_eq_ok hx
  obtain ⟨r, -, hr, -, hextends', hcontent'⟩ := write_pathFor_eq_ok hy
  obtain ⟨r', hr', hplace⟩ := h.enter_eq_ok hs
  obtain rfl := Except.ok.inj (hr'.symm.trans hr)
  obtain ⟨s₁, hs₁, hplace₁⟩ := hextends.walk hs
  obtain ⟨r₁, hr₁, hplace₂⟩ := hextends'.walk hr
  refine ⟨?_, ?_⟩
  · rw [enter, hs₁, enter, hr₁]
    simp only [Except.map, hplace₁, hplace₂, hplace]
  · intro place hplaceRole
    rw [hplace] at hextends' hcontent'
    by_cases hsame : place = s.place ++ [Utf8.encode (fileName format role)]
    · rw [hsame, hcontent, hcontent']
    · rw [hextends.contents place hsame, hextends'.contents place hsame]
      exact h.contents place hplaceRole

end Agree

section Beside
variable {given : Bytes} {text : String}

theorem Agree.of_write_beside (hne : other ≠ role)
    (h : FileTree.write (pathFor dir format other) given t = (.ok (), x)) :
    Agree dir format role x t := by
  obtain ⟨s, -, hs, -, hextends, -⟩ := write_pathFor_eq_ok h
  obtain ⟨s', hs', hplace⟩ := hextends.walk hs
  refine ⟨?_, ?_⟩
  · rw [enter, hs', hs]
    simp only [Except.map, hplace]
  · intro place hrole
    apply hextends.contents
    rintro rfl
    exact not_isFileOf hne _ hrole

theorem fst_write_beside (content : Bytes) (hne : other ≠ role)
    (h : FileTree.write (pathFor dir format other) given t = (.ok (), x)) :
    (FileTree.write (pathFor dir format role) content x).1 =
      (FileTree.write (pathFor dir format role) content t).1 := by
  obtain ⟨s, -, hs, rfl, hextends, -⟩ := write_pathFor_eq_ok h
  obtain ⟨hwalk, hd⟩ := enter_eq_ok.mp hs
  obtain ⟨s', hs', hplace⟩ := hextends.walk hs
  have hname : Utf8.encode (fileName format role) ≠ Utf8.encode (fileName format other) :=
    fun heq => hne (encode_fileName_injective format heq).symm
  rw [write_pathFor_eq, write_pathFor_eq, enter, hs', hs]
  cases checkPath (pathFor dir format role) with
  | error e => rfl
  | ok _ =>
    dsimp only
    rw [hplace, isDirectoryAt_put (walk_within hwalk).at? hd hname]
    split <;> rfl

/-- The trees that a call for another pane can leave. -/
inductive Besides (dir : Path) (format : OutputFormat) (role : Role) (t : FileTree) :
    FileTree → Prop
  | same : Besides dir format role t t
  | made : Besides dir format role t (makeDirectories dir t).2
  | written {other : Role} {given : Bytes} {t₁ x : FileTree} (hne : other ≠ role)
      (hmade : makeDirectories dir t = (.ok (), t₁))
      (hwrite : FileTree.write (pathFor dir format other) given t₁ = (.ok (), x)) :
      Besides dir format role t x

theorem besides_renderer (hne : other ≠ role) (text : String) (t : FileTree) :
    Besides dir format role t (renderer FileTree.store dir format other text t).2 := by
  have hmade : Besides dir format role t (makeDirectories dir t).2 := .made
  rcases renderer_cases dir format other text t with
    ⟨e, t₁, hmake, hrun⟩ | ⟨e, t₁, hmake, -, hrun⟩ | ⟨t₁, t₂, hmake, hwrite, hrun⟩
  · rw [hmake] at hmade
    rw [hrun]
    exact hmade
  · rw [hmake] at hmade
    rw [hrun]
    exact hmade
  · rw [hrun]
    exact .written hne hmake hwrite

theorem Besides.extends (h : Besides dir format role t x) :
    Extends (fun place => ¬IsFileOf format role place) t x := by
  have hmade : Extends (fun place => ¬IsFileOf format role place) t (makeDirectories dir t).2 :=
    (extends_makeDirectories dir t).mono fun _ h => h.elim
  cases h with
  | same => exact .refl _ t
  | made => exact hmade
  | written hne hmake hwrite =>
    rw [hmake] at hmade
    obtain ⟨s, -, -, -, hextends, -⟩ := write_pathFor_eq_ok hwrite
    apply hmade.trans (hextends.mono _)
    rintro _ rfl
    exact not_isFileOf hne _

theorem makeDirectories_renderer (dir : Path) (format : OutputFormat) (role : Role) (text : String)
    (t : FileTree) :
    ∃ result, makeDirectories dir (renderer FileTree.store dir format role text t).2 =
      (result, (renderer FileTree.store dir format role text t).2) := by
  rcases renderer_cases dir format role text t with
    ⟨e, t₁, hmake, hrun⟩ | ⟨e, t₁, hmake, -, hrun⟩ | ⟨t₁, t₂, hmake, hwrite, hrun⟩
  · obtain ⟨e', hagain, -⟩ := makeDirectories_again hmake
    rw [hrun]
    exact ⟨.error e', hagain⟩
  · rw [hrun]
    exact ⟨.ok (), makeDirectories_of_ok hmake (.refl (fun _ => False) t₁)⟩
  · obtain ⟨place, -, hextends, -⟩ := FileTree.write_eq_ok hwrite
    rw [hrun]
    exact ⟨.ok (), makeDirectories_of_ok hmake hextends⟩

/-- What comes after the call for a pane changes nothing for it. -/
theorem agree_after (h : Besides dir format role
      (renderer FileTree.store dir format role text t).2 x) :
    Agree dir format role x (renderer FileTree.store dir format role text t).2 := by
  obtain ⟨result, hagain⟩ := makeDirectories_renderer dir format role text t
  cases h with
  | same => exact .refl _
  | made =>
    rw [hagain]
    exact .refl _
  | written hne hmake hwrite =>
    rw [hagain] at hmake
    cases hmake
    exact .of_write_beside hne hwrite

/-- A file stands in the way of the directory, and the later of two calls reports it in other words
than the earlier one. -/
structure Obstructed (dir : Path) (format : OutputFormat) (role : Role) (t : FileTree)
    (early late : Except DeliveryError Unit) : Prop where
  made : (makeDirectories dir t).1 = .error .alreadyExists
  early : early = refused dir format role .alreadyExists
  late : late = refused dir format role .notADirectory

/-- What comes before the call for a pane does not change what comes of it, except for the words in
which a directory with a file in its way is refused. -/
theorem renderer_after (h : Besides dir format role t x) (text : String) :
    let early := renderer FileTree.store dir format role text t
    let late := renderer FileTree.store dir format role text x
    (late.1 = early.1 ∨ Obstructed dir format role t early.1 late.1) ∧
      Agree dir format role late.2 early.2 := by
  dsimp only
  rw [renderer_eq, renderer_eq]
  cases h with
  | same => exact ⟨.inl rfl, .refl _⟩
  | made =>
    rcases hmake : makeDirectories dir t with ⟨e | ⟨⟩, t₁⟩
    · obtain ⟨e', hagain, hfollows⟩ := makeDirectories_again hmake
      rw [hagain]
      refine ⟨?_, .refl _⟩
      rcases hfollows with rfl | ⟨rfl, rfl⟩
      · exact .inl rfl
      · exact .inr ⟨by rw [hmake], rfl, rfl⟩
    · rw [makeDirectories_of_ok hmake (.refl (fun _ => False) t₁)]
      exact ⟨.inl rfl, .refl _⟩
  | written hne hmake hwrite =>
    rename_i t₁
    obtain ⟨s, -, -, -, hextends, -⟩ := write_pathFor_eq_ok hwrite
    rw [hmake, makeDirectories_of_ok hmake hextends]
    dsimp only
    have hsame := fst_write_beside (Utf8.encode (contents format role text)) hne hwrite
    have hagree := Agree.of_write_beside hne hwrite
    -- Both writes fail, with the same reason, or both succeed.
    rcases write_cases (pathFor dir format role) (Utf8.encode (contents format role text)) t₁ with
      ⟨e, hearly⟩ | ⟨y, -, hearly, -⟩ <;>
    rcases write_cases (pathFor dir format role) (Utf8.encode (contents format role text)) x with
      ⟨e', hlate⟩ | ⟨z, -, hlate, -⟩ <;>
    rw [hearly, hlate] at hsame ⊢ <;> cases hsame
    · exact ⟨.inl rfl, hagree⟩
    · exact ⟨.inl rfl, hagree.write hlate hearly⟩

end Beside

end Directory

namespace View

section Deliver
variable {σ : Type} (renderer : Renderer (StateM σ))

/-- What becomes of one pane, and of the surroundings, when it is rendered. -/
def deliver (role : Role) (p : Pane) (s : σ) : Pane × σ :=
  match p with
  | .diagram text => ((renderer.call role text s).pane, (renderer role text s).2)
  | p => (p, s)

theorem deliver_of_no_diagram {role : Role} {p : Pane} (h : ¬∃ text, p = .diagram text) (s : σ) :
    deliver renderer role p s = (p, s) := by
  cases p with
  | diagram text => exact absurd ⟨text, rfl⟩ h
  | empty => rfl
  | failed message => rfl

theorem renderPane_eq (v : View) (role : Role) (s : σ) :
    v.renderPane renderer role s =
      (v.setPane role (deliver renderer role (v.pane role) s).1,
        (deliver renderer role (v.pane role) s).2) := by
  cases hp : v.pane role with
  | diagram text => exact renderPane_of_diagram renderer hp s
  | empty =>
    rw [renderPane_of_no_diagram renderer (by rw [diagram?, hp])]
    exact congrArg (·, s) (setPane_eq_self hp).symm
  | failed message =>
    rw [renderPane_of_no_diagram renderer (by rw [diagram?, hp])]
    exact congrArg (·, s) (setPane_eq_self hp).symm

/-- The surroundings in which a pane is rendered. -/
def before (v : View) (s : σ) : Role → σ
  | .original => s
  | .minimized => (deliver renderer .original v.original s).2

theorem renderPanes_eq (v : View) (s : σ) :
    v.renderPanes renderer s =
      let first := deliver renderer .original v.original s
      let second := deliver renderer .minimized v.minimized first.2
      ((v.setPane .original first.1).setPane .minimized second.1, second.2) := by
  have hfold : v.renderPanes renderer s =
      (v.renderPane renderer .original s).1.renderPane renderer .minimized
        (v.renderPane renderer .original s).2 := rfl
  rw [hfold, renderPane_eq, renderPane_eq]
  rfl

end Deliver

section Isolated
open Directory FileTree
variable {dir : Path} {format : OutputFormat} {role other : Role} {v v' : View} {t : FileTree}

theorem besides_deliver (hne : other ≠ role) (p : Pane) (t : FileTree) :
    Besides dir format role t (deliver (renderer FileTree.store dir format) other p t).2 := by
  cases p with
  | diagram text => exact besides_renderer hne text t
  | empty => exact .same
  | failed message => exact .same

/-- A pane is rendered in what the other one left, and what follows is for the other one. -/
theorem renderPanes_cases (dir : Path) (format : OutputFormat) (v : View) (role : Role)
    (t : FileTree) :
    let renderer := renderer FileTree.store dir format
    let x := v.before renderer t role
    Besides dir format role t x ∧
      (v.renderPanes renderer t).1.pane role = (deliver renderer role (v.pane role) x).1 ∧
      Besides dir format role (deliver renderer role (v.pane role) x).2
        (v.renderPanes renderer t).2 := by
  dsimp only
  rw [renderPanes_eq]
  cases role with
  | original => exact ⟨.same, rfl, besides_deliver (by decide) _ _⟩
  | minimized => exact ⟨besides_deliver (by decide) _ _, rfl, .same⟩

theorem before_eq_of_failed {e : FileError} (hmade : (makeDirectories dir t).1 = .error e)
    (hdrawn : ∃ text, v.original = .diagram text) (hdrawn' : ∃ text, v'.original = .diagram text) :
    v.before (renderer FileTree.store dir format) t role =
      v'.before (renderer FileTree.store dir format) t role := by
  have hcall : ∀ text, (renderer FileTree.store dir format .original text t).2 =
      (makeDirectories dir t).2 := by
    intro text
    rcases renderer_cases dir format .original text t with
      ⟨e', t₁, hmake, hrun⟩ | ⟨e', t₁, hmake, -, hrun⟩ | ⟨t₁, t₂, hmake, -, hrun⟩
    · rw [hrun, hmake]
    · rw [hrun, hmake]
    · rw [hmake] at hmade
      cases hmade
  obtain ⟨text, htext⟩ := hdrawn
  obtain ⟨text', htext'⟩ := hdrawn'
  cases role with
  | original => rfl
  | minimized =>
    unfold before
    rw [htext, htext']
    exact (hcall text).trans (hcall text').symm

theorem before_of_no_diagram (h : ¬∃ text, v.original = .diagram text) :
    v.before (renderer FileTree.store dir format) t role = t := by
  cases role with
  | original => rfl
  | minimized => rw [before, deliver_of_no_diagram _ h]

def refusal (v : View) : FileError :=
  match v.original with
  | .diagram _ => .notADirectory
  | _ => .alreadyExists

theorem refusal_of_diagram (h : ∃ text, v.original = .diagram text) :
    v.refusal = .notADirectory := by
  obtain ⟨text, htext⟩ := h
  rw [refusal, htext]

theorem refusal_of_no_diagram (h : ¬∃ text, v.original = .diagram text) :
    v.refusal = .alreadyExists := by
  unfold refusal
  split
  · rename_i text htext
    exact absurd ⟨text, htext⟩ h
  · rfl

section Outcome
variable {text : String}

def outcome (dir : Path) (format : OutputFormat) (role : Role) (text : String) (t : FileTree)
    (v : View) : Except DeliveryError Unit :=
  (renderer FileTree.store dir format role text
    (v.before (renderer FileTree.store dir format) t role)).1

theorem refused_of_obstructed
    (h : outcome dir format role text t v = (renderer FileTree.store dir format role text t).1)
    (h' : Obstructed dir format role t (renderer FileTree.store dir format role text t).1
      (outcome dir format role text t v'))
    (hne : outcome dir format role text t v ≠ outcome dir format role text t v') :
    outcome dir format role text t v = refused dir format role v.refusal ∧
      outcome dir format role text t v' = refused dir format role v'.refusal := by
  have hdrawn' : ∃ text, v'.original = .diagram text := by
    by_contra hdrawn
    apply hne
    rw [h, outcome, before_of_no_diagram hdrawn]
  have hdrawn : ¬∃ text, v.original = .diagram text := by
    intro hdrawn
    apply hne
    rw [outcome, outcome, before_eq_of_failed h'.made hdrawn hdrawn']
  rw [refusal_of_no_diagram hdrawn, refusal_of_diagram hdrawn']
  exact ⟨h.trans h'.early, h'.late⟩

theorem outcome_isolated (dir : Path) (format : OutputFormat) (role : Role) (text : String)
    (t : FileTree) (v v' : View) :
    outcome dir format role text t v = outcome dir format role text t v' ∨
      role = .minimized ∧ (makeDirectories dir t).1 = .error .alreadyExists ∧
        outcome dir format role text t v = refused dir format role v.refusal ∧
        outcome dir format role text t v' = refused dir format role v'.refusal := by
  by_cases hne : outcome dir format role text t v = outcome dir format role text t v'
  · exact .inl hne
  · right
    have hrole : role = .minimized := by
      cases role with
      | original => exact absurd rfl hne
      | minimized => rfl
    rcases (renderer_after (renderPanes_cases dir format v role t).1 text).1 with h | h <;>
      rcases (renderer_after (renderPanes_cases dir format v' role t).1 text).1 with h' | h'
    · exact absurd (h.trans h'.symm) hne
    · exact ⟨hrole, h'.made, refused_of_obstructed h h' hne⟩
    · exact ⟨hrole, h.made, (refused_of_obstructed h' h (Ne.symm hne)).symm⟩
    · exact absurd (h.late.trans h'.late.symm) hne

end Outcome

/-- A pane is the same after two renderings, or it was refused in both of them and making the
directory was tried before in just one. -/
theorem pane_isolated (dir : Path) (format : OutputFormat) (t : FileTree)
    (hsame : v.pane role = v'.pane role) :
    let run := v.renderPanes (renderer FileTree.store dir format) t
    let run' := v'.renderPanes (renderer FileTree.store dir format) t
    let failed (e : FileError) :=
      Pane.failed (DeliveryError.file (pathFor dir format role) e.message).message
    run.1.pane role = run'.1.pane role ∨
      role = .minimized ∧ (makeDirectories dir t).1 = .error .alreadyExists ∧
        run.1.pane role = failed v.refusal ∧ run'.1.pane role = failed v'.refusal := by
  intro run run' failed
  obtain ⟨-, hpane, -⟩ := renderPanes_cases dir format v role t
  obtain ⟨-, hpane', -⟩ := renderPanes_cases dir format v' role t
  rw [← hsame] at hpane'
  by_cases hdiagram : ∃ text, v.pane role = .diagram text
  · obtain ⟨text, htext⟩ := hdiagram
    rw [htext] at hpane hpane'
    have hpaneOf : ∀ {a b : Except DeliveryError Unit}, a = b →
        Delivery.pane ⟨role, text, a⟩ = Delivery.pane ⟨role, text, b⟩ := by
      rintro _ _ rfl
      rfl
    rcases outcome_isolated dir format role text t v v' with h | ⟨hrole, hmade, h, h'⟩
    · exact .inl (hpane.trans ((hpaneOf h).trans hpane'.symm))
    · exact .inr ⟨hrole, hmade, hpane.trans (hpaneOf h), hpane'.trans (hpaneOf h')⟩
  · left
    rw [deliver_of_no_diagram _ hdiagram] at hpane hpane'
    exact hpane.trans hpane'.symm

/-- The file of a pane is the same after two renderings, wherever it stands. It is also read the
same if there was a diagram to render, and as before if there was none. -/
theorem file_isolated (dir : Path) (format : OutputFormat) (t : FileTree)
    (hsame : v.pane role = v'.pane role) :
    let run := v.renderPanes (renderer FileTree.store dir format) t
    let run' := v'.renderPanes (renderer FileTree.store dir format) t
    (∀ place, IsFileOf format role place →
      run.2.top.content? place = run'.2.top.content? place) ∧
    ((∃ text, v.pane role = .diagram text) → ∀ content,
      run.2.read (pathFor dir format role) = .ok content ↔
        run'.2.read (pathFor dir format role) = .ok content) ∧
    ((¬∃ text, v.pane role = .diagram text) → ∀ content,
      t.read (pathFor dir format role) = .ok content →
        run.2.read (pathFor dir format role) = .ok content ∧
        run'.2.read (pathFor dir format role) = .ok content) := by
  intro run run'
  obtain ⟨hx, -, hafter⟩ := renderPanes_cases dir format v role t
  obtain ⟨hx', -, hafter'⟩ := renderPanes_cases dir format v' role t
  rw [← hsame] at hafter'
  by_cases hdiagram : ∃ text, v.pane role = .diagram text
  · obtain ⟨text, htext⟩ := hdiagram
    rw [htext] at hafter hafter'
    have hagree : Agree dir format role run.2 run'.2 :=
      ((agree_after hafter).trans (renderer_after hx text).2).trans
        ((agree_after hafter').trans (renderer_after hx' text).2).symm
    exact ⟨hagree.contents, fun _ content => ⟨hagree.read, hagree.symm.read⟩,
      fun h => absurd ⟨text, htext⟩ h⟩
  · rw [deliver_of_no_diagram _ hdiagram] at hafter hafter'
    have hextends := hx.extends.trans hafter.extends
    have hextends' := hx'.extends.trans hafter'.extends
    refine ⟨?_, fun h => absurd h hdiagram, fun _ content hread => ⟨?_, ?_⟩⟩
    · intro place hplace
      rw [hextends.contents place (not_not_intro hplace),
        hextends'.contents place (not_not_intro hplace)]
    · exact hextends.read hread fun s hwalk => not_not_intro (isFileOf_of_walk hwalk)
    · exact hextends'.read hread fun s hwalk => not_not_intro (isFileOf_of_walk hwalk)

end Isolated
end View

namespace Reply

theorem exists_diagram_iff {reply : Reply} {role : Role} {p : Pane}
    (h : p = .ofJson (reply.describing role)) :
    (∃ text, p = .diagram text) ↔ reply.drawing? role ≠ none := by
  rw [h, Pane.ofJson, drawing?]
  cases Description.ofJson (reply.describing role) <;> simp

/-- The reason for which a directory with a file in its way is refused to the minimized pane: the
attempt for the original one, if there was any, has left its parents behind. -/
def refusal (reply : Reply) : FileError :=
  if reply.drawing? .original = none then .alreadyExists else .notADirectory

theorem refusal_eq {reply : Reply} {v : View} (h : v.original = .ofJson reply.original) :
    v.refusal = reply.refusal := by
  have hdrawn : (∃ text, v.original = .diagram text) ↔ reply.drawing? .original ≠ none :=
    exists_diagram_iff h
  unfold refusal
  split
  · rename_i hnone
    exact View.refusal_of_no_diagram fun hdiagram => hdrawn.mp hdiagram hnone
  · rename_i hsome
    exact View.refusal_of_diagram (hdrawn.mpr hsome)

/-- Two accepted replies that describe an automaton alike show the same pane for it. Rendering into
the same directory leaves that pane and its file the same, whatever becomes of the other pane, with
one exception: where a file stands in the way of the directory, the second pane is refused, and the
reason tells whether the first one was to be rendered before. A file of a description that cannot be
read is left as it is. -/
theorem panes_isolated {status status' : Nat} {body body' : Json} {reply reply' : Reply}
    {role : Role} (hreply : ofJson status body = .ok reply)
    (hreply' : ofJson status' body' = .ok reply')
    (hsame : reply.describing role = reply'.describing role) (v v' : View) (dir : Path)
    (format : OutputFormat) (t : FileTree) :
    let renderer := Directory.renderer FileTree.store dir format
    let path := Directory.pathFor dir format role
    let failed (e : FileError) := Pane.failed (DeliveryError.file path e.message).message
    let shown := (v.handle (.replyReceived (ofJson status body))).1
    let shown' := (v'.handle (.replyReceived (ofJson status' body'))).1
    let run := shown.renderPanes renderer t
    let run' := shown'.renderPanes renderer t
    shown.pane role = shown'.pane role ∧
    (run.1.pane role = run'.1.pane role ∨
      role = .minimized ∧ (FileTree.makeDirectories dir t).1 = .error .alreadyExists ∧
        run.1.pane role = failed reply.refusal ∧ run'.1.pane role = failed reply'.refusal) ∧
    (∀ place, place.getLast? = some (Utf8.encode (Directory.fileName format role)) →
      run.2.top.content? place = run'.2.top.content? place) ∧
    (reply.drawing? role ≠ none → ∀ content,
      run.2.read path = .ok content ↔ run'.2.read path = .ok content) ∧
    (reply.drawing? role = none → ∀ content, t.read path = .ok content →
      run.2.read path = .ok content ∧ run'.2.read path = .ok content) := by
  rw [hreply, hreply']
  intro renderer path failed shown shown' run run'
  have hshown : ∀ other, shown.pane other = .ofJson (reply.describing other) := reply.pane_view
  have hshown' : ∀ other, shown'.pane other = .ofJson (reply'.describing other) := reply'.pane_view
  have hpane : shown.pane role = shown'.pane role := by
    rw [hshown, hshown', hsame]
  have hrun := View.pane_isolated dir format t hpane
  rw [refusal_eq (hshown .original), refusal_eq (hshown' .original)] at hrun
  obtain ⟨hcontents, hread, hkept⟩ := View.file_isolated dir format t hpane
  have hdrawn := exists_diagram_iff (hshown role)
  exact ⟨hpane, hrun, hcontents, fun h => hread (hdrawn.mpr h),
    fun h => hkept fun hdiagram => hdrawn.mp hdiagram h⟩

def oneState : Json := .object [("states", .array [.string "q0"])]

def bothReadable : Json := .object [("original", oneState), ("minimized", oneState)]

def halfReadable : Json := .object [("original", .string "7"), ("minimized", oneState)]

/-- In a new directory the minimized pane and its file do not tell whether the original could be
read. -/
theorem isolated_in_new_directory :
    let renderer := Directory.renderer FileTree.store (.ofText "out") .mmd
    let path := Directory.pathFor (.ofText "out") .mmd .minimized
    let run := (View.replyReceived {} (ofJson 200 bothReadable)).renderPanes renderer .fresh
    let run' := (View.replyReceived {} (ofJson 200 halfReadable)).renderPanes renderer .fresh
    run.1.minimized = run'.1.minimized ∧
      ∀ content, run.2.read path = .ok content ↔ run'.2.read path = .ok content := by
  obtain ⟨-, hpane, -, hread, -⟩ := @panes_isolated 200 200 bothReadable halfReadable _ _ .minimized
    rfl rfl rfl {} {} (.ofText "out") .mmd .fresh
  refine ⟨hpane.resolve_right ?_, hread (by decide +kernel)⟩
  rintro ⟨-, hmade, -⟩
  revert hmade
  decide +kernel

def fileInTheWay : FileTree where
  root := [(Utf8.encode "home", .directory [(Utf8.encode "notes", .file [])])]
  home := [Utf8.encode "home"]

/-- The way to the directory leads through one that is missing at first, and back again. The second
attempt comes to the file by another path and fails in other words. -/
theorem minimized_pane_told_apart :
    let renderer := Directory.renderer FileTree.store (.ofText "out/../notes/d") .mmd
    let run body := (View.replyReceived {} (ofJson 200 body)).renderPanes renderer fileInTheWay
    ofJson 200 bothReadable = .ok { original := oneState, minimized := oneState } ∧
      ofJson 200 halfReadable = .ok { original := .string "7", minimized := oneState } ∧
      (run bothReadable).1.minimized =
        .failed "failed to write out/../notes/d/minimized.mmd: Not a directory (os error 20)" ∧
      (run halfReadable).1.minimized =
        .failed "failed to write out/../notes/d/minimized.mmd: File exists (os error 17)" := by
  refine ⟨rfl, rfl, ?_, ?_⟩
  · decide +kernel
  · decide +kernel

end Reply
end AutomatonChart
