import Mathlib.Data.List.Basic
import AutomatonChart.Files.Tree

/-! # What operations on files leave alone

Making directories and writing a file only add to a tree: all that is there stays there, and it
stays a file or a directory. A path that led somewhere leads to the same place afterwards, so a file
can be read as before unless it is the one that was written.
-/
namespace AutomatonChart

namespace FileNode
variable {node : FileNode} {front rest : Place} {name : Bytes}

theorem at?_append : node.at? (front ++ rest) = (node.at? front).bind fun n => n.at? rest := by
  induction front generalizing node with
  | nil => rfl
  | cons first front ih =>
    rw [List.cons_append, at?, at?]
    cases node.child? first with
    | none => rfl
    | some next => exact ih

theorem at?_concat : node.at? (front ++ [name]) = (node.at? front).bind fun n => n.child? name := by
  rw [at?_append]
  congr 1
  funext n
  rw [at?]
  cases n.child? name <;> rfl

theorem at?_cons_of_entries_nil (h : node.entries = []) : node.at? (name :: rest) = none := by
  rw [at?, child?, h]
  rfl

theorem entries_eq_nil_of_not_directory (h : node.isDirectory = false) : node.entries = [] := by
  cases node with
  | file content => rfl
  | directory entries => cases h

end FileNode

namespace Spot
variable {top : FileNode} {s r : Spot} {name : Bytes}

/-- The spots to which the ways down from a directory lead. -/
inductive Within (top : FileNode) : Spot → Prop
  | top : Within top ⟨top, []⟩
  | down {s : Spot} {name : Bytes} {next : FileNode} (h : Within top s)
      (found : s.node.child? name = some next) : Within top ⟨next, (name, s.node) :: s.above⟩

theorem place_down (next parent : FileNode) (name : Bytes) (above : List (Bytes × FileNode)) :
    (⟨next, (name, parent) :: above⟩ : Spot).place = (⟨parent, above⟩ : Spot).place ++ [name] := by
  simp [place]

theorem place_up (s : Spot) : s.up.place = s.place.dropLast := by
  obtain ⟨node, above⟩ := s
  cases above with
  | nil => rfl
  | cons e above =>
    obtain ⟨name, parent⟩ := e
    rw [place_down, List.dropLast_concat]
    rfl

namespace Within

theorem at? (h : Within top s) : top.at? s.place = some s.node := by
  induction h with
  | top => rfl
  | @down s name next _ found ih =>
    rw [place_down, FileNode.at?_concat, ih]
    exact found

theorem up (h : Within top s) : Within top s.up := by
  cases h with
  | top => exact .top
  | down h found => exact h

end Within

/-- A name that stands for an entry of a directory, and does not just move. -/
structure IsEntryName (name : Bytes) : Prop where
  ne_here : name ≠ Path.here
  ne_up : name ≠ Path.up
  length_le : name.length ≤ maxName

theorem step_here (hd : s.node.isDirectory = true) : s.step Path.here = .ok s := by
  simp [step, hd]

theorem step_up (hd : s.node.isDirectory = true) : s.step Path.up = .ok s.up := by
  have hne : Path.up ≠ Path.here := by decide
  simp [step, hd, hne]

theorem step_entry (hd : s.node.isDirectory = true) (hname : IsEntryName name) {next : FileNode}
    (found : s.node.child? name = some next) :
    s.step name = .ok ⟨next, (name, s.node) :: s.above⟩ := by
  have hlen : ¬maxName < name.length := Nat.not_lt.mpr hname.length_le
  simp [step, hd, hname.ne_here, hname.ne_up, hlen, found]

theorem step_cases (h : s.step name = .ok r) : s.node.isDirectory = true ∧
    ((name = Path.here ∧ r = s) ∨ (name = Path.up ∧ r = s.up) ∨
      (IsEntryName name ∧ ∃ next, s.node.child? name = some next ∧
        r = ⟨next, (name, s.node) :: s.above⟩)) := by
  unfold step at h
  cases hd : s.node.isDirectory with
  | false =>
    rw [hd] at h
    cases h
  | true =>
    refine ⟨rfl, ?_⟩
    rw [hd] at h
    by_cases hhere : name = Path.here
    · rw [if_neg (by simp), if_pos hhere] at h
      exact .inl ⟨hhere, (Except.ok.inj h).symm⟩
    by_cases hup : name = Path.up
    · rw [if_neg (by simp), if_neg hhere, if_pos hup] at h
      exact .inr (.inl ⟨hup, (Except.ok.inj h).symm⟩)
    by_cases hlen : maxName < name.length
    · rw [if_neg (by simp), if_neg hhere, if_neg hup, if_pos hlen] at h
      cases h
    · rw [if_neg (by simp), if_neg hhere, if_neg hup, if_neg hlen] at h
      cases hc : s.node.child? name with
      | none =>
        rw [hc] at h
        cases h
      | some next =>
        rw [hc] at h
        exact .inr (.inr ⟨⟨hhere, hup, Nat.not_lt.mp hlen⟩, next, rfl, (Except.ok.inj h).symm⟩)

theorem Within.step (hs : Within top s) (h : s.step name = .ok r) : Within top r := by
  obtain ⟨-, ⟨-, rfl⟩ | ⟨-, rfl⟩ | ⟨-, next, found, rfl⟩⟩ := step_cases h
  · exact hs
  · exact hs.up
  · exact hs.down found

theorem Within.walk {names : List Bytes} (hs : Within top s) (h : names.foldlM Spot.step s = .ok r) :
    Within top r := by
  induction names generalizing s with
  | nil =>
    obtain rfl := Except.ok.inj h
    exact hs
  | cons name rest ih =>
    rw [List.foldlM_cons] at h
    cases hstep : s.step name with
    | error e => rw [hstep] at h; cases h
    | ok next =>
      rw [hstep] at h
      exact ih (hs.step hstep) h

end Spot

namespace FileTree

/-- The second tree has all that the first one has, as a file or a directory like before, and the
same files except where it was touched. -/
structure Extends (touched : Place → Prop) (t t' : FileTree) : Prop where
  home : t'.home = t.home
  kinds : ∀ place node, t.node? place = some node →
    ∃ node', t'.node? place = some node' ∧ node'.isDirectory = node.isDirectory
  contents : ∀ place, ¬touched place → t'.top.content? place = t.top.content? place

namespace Extends
variable {touched : Place → Prop} {t t' t'' : FileTree}

theorem refl (touched : Place → Prop) (t : FileTree) : Extends touched t t where
  home := rfl
  kinds := fun _ node h => ⟨node, h, rfl⟩
  contents := fun _ _ => rfl

theorem trans (h : Extends touched t t') (h' : Extends touched t' t'') :
    Extends touched t t'' where
  home := h'.home.trans h.home
  kinds := by
    intro place node hnode
    obtain ⟨node', hnode', hkind⟩ := h.kinds place node hnode
    obtain ⟨node'', hnode'', hkind'⟩ := h'.kinds place node' hnode'
    exact ⟨node'', hnode'', hkind'.trans hkind⟩
  contents := fun place hp => (h'.contents place hp).trans (h.contents place hp)

theorem mono {touched' : Place → Prop} (h : Extends touched t t')
    (himp : ∀ place, touched place → touched' place) : Extends touched' t t' where
  home := h.home
  kinds := h.kinds
  contents := fun place hp => h.contents place fun ht => hp (himp place ht)

theorem step {s s' r : Spot} {name : Bytes} (h : Extends touched t t') (hs : s.Within t.top)
    (hs' : s'.Within t'.top) (hplace : s'.place = s.place) (hstep : s.step name = .ok r) :
    ∃ r', s'.step name = .ok r' ∧ r'.place = r.place := by
  obtain ⟨node', hnode', hkind⟩ := h.kinds s.place s.node hs.at?
  have hsame : node' = s'.node := by
    have hat := hs'.at?
    rw [hplace] at hat
    exact Option.some.inj (hnode'.symm.trans hat)
  obtain ⟨hd, hcases⟩ := Spot.step_cases hstep
  have hd' : s'.node.isDirectory = true := by rw [← hsame, hkind, hd]
  rcases hcases with ⟨rfl, rfl⟩ | ⟨rfl, rfl⟩ | ⟨hname, next, found, rfl⟩
  · exact ⟨s', Spot.step_here hd', hplace⟩
  · refine ⟨s'.up, Spot.step_up hd', ?_⟩
    rw [Spot.place_up, Spot.place_up, hplace]
  · have hnext : t.node? (s.place ++ [name]) = some next := by
      rw [node?, FileNode.at?_concat, hs.at?]
      exact found
    obtain ⟨next', hnext', -⟩ := h.kinds _ next hnext
    have found' : s'.node.child? name = some next' := by
      rw [← hplace, node?, FileNode.at?_concat, hs'.at?] at hnext'
      exact hnext'
    refine ⟨_, Spot.step_entry hd' hname found', ?_⟩
    rw [Spot.place_down, Spot.place_down]
    exact congrArg (· ++ [name]) hplace

theorem foldlM_step {s s' r : Spot} {names : List Bytes} (h : Extends touched t t')
    (hs : s.Within t.top) (hs' : s'.Within t'.top) (hplace : s'.place = s.place)
    (hwalk : names.foldlM Spot.step s = .ok r) :
    ∃ r', names.foldlM Spot.step s' = .ok r' ∧ r'.place = r.place := by
  induction names generalizing s s' with
  | nil =>
    obtain rfl := Except.ok.inj hwalk
    exact ⟨s', rfl, hplace⟩
  | cons name rest ih =>
    rw [List.foldlM_cons] at hwalk
    cases hstep : s.step name with
    | error e => rw [hstep] at hwalk; cases hwalk
    | ok next =>
      rw [hstep] at hwalk
      obtain ⟨next', hstep', hplace'⟩ := h.step hs hs' hplace hstep
      obtain ⟨r', hwalk', hr⟩ := ih (hs.step hstep) (hs'.step hstep') hplace' hwalk
      refine ⟨r', ?_, hr⟩
      rw [List.foldlM_cons, hstep']
      exact hwalk'

end Extends

theorem start_within {t : FileTree} {p : Path} {s : Spot} (h : t.start p = .ok s) :
    s.Within t.top := by
  unfold start at h
  split at h
  · obtain rfl := Except.ok.inj h
    exact .top
  · exact Spot.Within.top.walk h

theorem Extends.start {touched : Place → Prop} {t t' : FileTree} (h : Extends touched t t')
    {p : Path} {s : Spot} (hs : t.start p = .ok s) :
    ∃ s', t'.start p = .ok s' ∧ s'.place = s.place := by
  unfold FileTree.start at hs ⊢
  split at hs
  · rename_i habsolute
    obtain rfl := Except.ok.inj hs
    rw [if_pos habsolute]
    exact ⟨_, rfl, rfl⟩
  · rename_i hrelative
    rw [if_neg hrelative, h.home]
    exact h.foldlM_step .top .top rfl hs

theorem walk_eq_ok {t : FileTree} {p : Path} {names : List Bytes} {s : Spot} :
    t.walk p names = .ok s ↔ ∃ first, t.start p = .ok first ∧ names.foldlM Spot.step first = .ok s := by
  unfold walk
  cases t.start p with
  | error e => exact ⟨nofun, nofun⟩
  | ok first => exact ⟨fun h => ⟨first, rfl, h⟩, fun ⟨_, hf, h⟩ => Except.ok.inj hf ▸ h⟩

theorem walk_within {t : FileTree} {p : Path} {names : List Bytes} {s : Spot}
    (h : t.walk p names = .ok s) : s.Within t.top := by
  obtain ⟨first, hfirst, hwalk⟩ := walk_eq_ok.mp h
  exact (start_within hfirst).walk hwalk

theorem Extends.walk {touched : Place → Prop} {t t' : FileTree} (h : Extends touched t t')
    {p : Path} {names : List Bytes} {s : Spot} (hwalk : t.walk p names = .ok s) :
    ∃ s', t'.walk p names = .ok s' ∧ s'.place = s.place := by
  obtain ⟨first, hfirst, hfold⟩ := walk_eq_ok.mp hwalk
  obtain ⟨first', hfirst', hplace⟩ := h.start hfirst
  obtain ⟨s', hfold', hs⟩ :=
    h.foldlM_step (start_within hfirst) (start_within hfirst') hplace hfold
  exact ⟨s', walk_eq_ok.mpr ⟨first', hfirst', hfold'⟩, hs⟩

/-- Where a path leads. -/
def LeadsTo (t : FileTree) (p : Path) (place : Place) : Prop :=
  ∃ s, t.walk p p.names = .ok s ∧ s.place = place

theorem Extends.leadsTo {touched : Place → Prop} {t t' : FileTree} (h : Extends touched t t')
    {p : Path} {place : Place} (hleads : t.LeadsTo p place) : t'.LeadsTo p place := by
  obtain ⟨s, hwalk, hplace⟩ := hleads
  obtain ⟨s', hwalk', hplace'⟩ := h.walk hwalk
  exact ⟨s', hwalk', hplace'.trans hplace⟩

section Put
variable {t : FileTree} {front : Place} {name : Bytes} {new dir : FileNode}

theorem top_put : (t.put (front ++ [name]) new).top = t.top.put new (front ++ [name]) := by
  cases front <;> rfl

/-- A node without entries may be put into a directory, and a file may take the place of a file. -/
theorem extends_put (hat : t.top.at? front = some dir) (hd : dir.isDirectory = true)
    (hnew : new.entries = [])
    (hfree : ∀ node, t.node? (front ++ [name]) = some node →
      node.isDirectory = false ∧ new.isDirectory = false) :
    Extends (· = front ++ [name]) t (t.put (front ++ [name]) new) := by
  -- Nothing stands below the place, neither before nor after.
  have hbelow : ∀ {below : Bytes} {rest : Place},
      t.top.at? ((front ++ [name]) ++ below :: rest) = none := by
    intro below rest
    rw [FileNode.at?_append]
    cases hnode : t.top.at? (front ++ [name]) with
    | none => rfl
    | some node =>
      exact FileNode.at?_cons_of_entries_nil
        (FileNode.entries_eq_nil_of_not_directory (hfree node hnode).1)
  refine ⟨rfl, ?_, ?_⟩
  · intro place node hnode
    rw [node?, top_put]
    by_cases hprefix : (front ++ [name]) <+: place
    · obtain ⟨rest, rfl⟩ := hprefix
      cases rest with
      | nil =>
        rw [List.append_nil] at hnode ⊢
        obtain ⟨hfile, hnewFile⟩ := hfree node hnode
        exact ⟨new, FileNode.at?_put hat hd, hnewFile.trans hfile.symm⟩
      | cons below rest =>
        rw [node?, hbelow] at hnode
        cases hnode
    · rw [node?] at hnode
      rcases @FileNode.at?_put_of_not_prefix t.top new dir front place name hat hd hprefix with
        hsame | ⟨after, before, hafter, hbefore⟩
      · exact ⟨node, hsame.trans hnode, rfl⟩
      · rw [hbefore] at hnode
        cases hnode
        exact ⟨_, hafter, rfl⟩
  · intro place hplace
    rw [top_put]
    by_cases hprefix : (front ++ [name]) <+: place
    · obtain ⟨rest, rfl⟩ := hprefix
      cases rest with
      | nil => exact absurd (List.append_nil _) hplace
      | cons below rest =>
        have hafter : (t.top.put new (front ++ [name])).at? ((front ++ [name]) ++ below :: rest) =
            none := by
          rw [FileNode.at?_append, FileNode.at?_put hat hd]
          exact FileNode.at?_cons_of_entries_nil hnew
        rw [FileNode.content?, FileNode.content?, hafter, hbelow]
    · exact FileNode.content?_put hat hd hprefix

theorem extends_put_directory (hat : t.top.at? front = some dir) (hd : dir.isDirectory = true)
    (hfree : t.node? (front ++ [name]) = none) :
    Extends (fun _ => False) t (t.put (front ++ [name]) (.directory [])) := by
  have hput : Extends (· = front ++ [name]) t (t.put (front ++ [name]) (.directory [])) := by
    apply extends_put hat hd rfl
    intro node hnode
    rw [hfree] at hnode
    cases hnode
  refine ⟨hput.home, hput.kinds, ?_⟩
  intro place _
  by_cases hplace : place = front ++ [name]
  · subst hplace
    rw [node?] at hfree
    rw [top_put, FileNode.content?, FileNode.content?, FileNode.at?_put hat hd, hfree]
  · exact hput.contents place hplace

theorem isDirectoryAt_iff {place : Place} : t.isDirectoryAt place = true ↔
    ∃ node, t.node? place = some node ∧ node.isDirectory = true := by
  unfold isDirectoryAt
  cases t.node? place with
  | none => exact ⟨nofun, nofun⟩
  | some node => simp

theorem isDirectoryAt_of_put (hat : t.top.at? front = some dir) (hd : dir.isDirectory = true)
    (hnew : new.entries = []) {place : Place}
    (h : (t.put (front ++ [name]) new).isDirectoryAt place = true) :
    t.isDirectoryAt place = true ∨ place = front ++ [name] ∧ new.isDirectory = true := by
  obtain ⟨node, hnode, hkind⟩ := isDirectoryAt_iff.mp h
  rw [node?, top_put] at hnode
  by_cases hprefix : (front ++ [name]) <+: place
  · obtain ⟨rest, rfl⟩ := hprefix
    rw [FileNode.at?_append, FileNode.at?_put hat hd, Option.bind_some] at hnode
    cases rest with
    | nil =>
      obtain rfl := Option.some.inj hnode
      exact .inr ⟨List.append_nil _, hkind⟩
    | cons below rest =>
      rw [FileNode.at?_cons_of_entries_nil hnew] at hnode
      cases hnode
  · left
    rcases @FileNode.at?_put_of_not_prefix t.top new dir front place name hat hd hprefix with
      hsame | ⟨after, before, -, hbefore⟩
    · exact isDirectoryAt_iff.mpr ⟨node, hsame.symm.trans hnode, hkind⟩
    · exact isDirectoryAt_iff.mpr ⟨_, hbefore, rfl⟩

theorem isDirectoryAt_put (hat : t.top.at? front = some dir) (hd : dir.isDirectory = true)
    {other : Bytes} (hne : other ≠ name) :
    (t.put (front ++ [name]) new).isDirectoryAt (front ++ [other]) =
      t.isDirectoryAt (front ++ [other]) := by
  have hbeside : ¬(front ++ [name]) <+: front ++ [other] := by
    intro h
    have hsame := h.eq_of_length (by simp)
    exact hne (by simpa using hsame.symm)
  unfold isDirectoryAt node?
  rw [top_put]
  rcases @FileNode.at?_put_of_not_prefix t.top new dir front (front ++ [other]) name hat hd hbeside
    with hsame | ⟨after, before, hafter, hbefore⟩
  · rw [hsame]
  · rw [hafter, hbefore]
    rfl

end Put

section Operations
variable {t t' : FileTree} {p : Path} {content : Bytes}

theorem target_eq_entry {place : Place} (h : t.target p = .ok (.entry place)) :
    ∃ (s : Spot) (last : Bytes), checkPath p = .ok () ∧ p.names.getLast? = some last ∧
      t.walk p p.names.dropLast = .ok s ∧ s.node.isDirectory = true ∧ Spot.IsEntryName last ∧
      place = s.place ++ [last] := by
  unfold target at h
  cases hcheck : checkPath p with
  | error e => rw [hcheck] at h; cases h
  | ok _ =>
    rw [hcheck] at h
    cases hlast : p.names.getLast? with
    | none =>
      simp only [bind, Except.bind, hlast] at h
      cases h
    | some last =>
      simp only [bind, Except.bind, hlast] at h
      cases hwalk : t.walk p p.names.dropLast with
      | error e => rw [hwalk] at h; cases h
      | ok s =>
        simp only [hwalk] at h
        split at h
        · cases h
        rename_i hd
        split at h
        · cases h
        rename_i hmoves
        split at h
        · cases h
        rename_i hlen
        obtain ⟨hhere, hup⟩ := not_or.mp hmoves
        have hplace : s.place ++ [last] = place := by
          cases h
          rfl
        exact ⟨s, last, rfl, rfl, rfl, by simpa using hd, ⟨hhere, hup, Nat.not_lt.mp hlen⟩,
          hplace.symm⟩

theorem extends_makeDirectory (p : Path) (t : FileTree) :
    Extends (fun _ => False) t (makeDirectory p t).2 := by
  unfold makeDirectory
  split
  · exact .refl _ t
  · exact .refl _ t
  · rename_i place htarget
    split
    · exact .refl _ t
    · rename_i hfree
      obtain ⟨s, last, -, -, hwalk, hd, -, rfl⟩ := target_eq_entry htarget
      exact extends_put_directory (walk_within hwalk).at? hd hfree

/-- What each attempt for a path of the chain comes to, the whole chain comes to. -/
theorem makeChain_induction {R : FileTree → FileTree → Prop} {ps : List Path}
    (hrefl : ∀ t, R t t) (htrans : ∀ {t t' t''}, R t t' → R t' t'' → R t t'')
    (hstep : ∀ p ∈ ps, ∀ t, R t (makeDirectory p t).2) (t : FileTree) :
    R t (makeChain ps t).2 := by
  induction ps generalizing t with
  | nil => exact hrefl t
  | cons p parents ih =>
    obtain ⟨hp, hparents⟩ := List.forall_mem_cons.mp hstep
    have hfirst := hp t
    rw [makeChain]
    split
    · rename_i t₁ hmake
      rw [hmake] at hfirst
      exact hfirst
    · rename_i t₁ hmake
      rw [hmake] at hfirst
      have hchained := htrans hfirst (ih hparents t₁)
      split
      · rename_i e t₂ hchain
        rw [hchain] at hchained
        exact hchained
      · rename_i t₂ hchain
        rw [hchain] at hchained
        have hagain := htrans hchained (hp t₂)
        split
        · rename_i t₃ hmake'
          rw [hmake'] at hagain
          exact hagain
        · rename_i e t₃ hmake'
          rw [hmake'] at hagain
          exact hagain
    · rename_i e t₁ hmake
      rw [hmake] at hfirst
      exact hfirst

theorem extends_makeChain (ps : List Path) (t : FileTree) :
    Extends (fun _ => False) t (makeChain ps t).2 :=
  makeChain_induction (.refl _) .trans (fun p _ => extends_makeDirectory p) t

/-- Making directories touches no file, whether it succeeds or not. -/
theorem extends_makeDirectories (p : Path) (t : FileTree) :
    Extends (fun _ => False) t (makeDirectories p t).2 := by
  unfold makeDirectories
  split
  · exact .refl _ t
  · exact extends_makeChain _ t

theorem read_eq_ok : t.read p = .ok content ↔ checkPath p = .ok () ∧ p.endsInSlash = false ∧
    ∃ s, t.walk p p.names = .ok s ∧ s.node = .file content := by
  unfold read
  cases checkPath p with
  | error e => exact ⟨nofun, nofun⟩
  | ok _ =>
    cases t.walk p p.names with
    | error e => exact ⟨nofun, nofun⟩
    | ok s =>
      obtain ⟨node, above⟩ := s
      simp only [bind, Except.bind]
      cases node with
      | directory entries => simp
      | file found => cases p.endsInSlash <;> simp [pure, Except.pure]

/-- A file that is not touched is read as before. -/
theorem Extends.read {touched : Place → Prop} (h : Extends touched t t')
    (hread : t.read p = .ok content)
    (huntouched : ∀ s, t.walk p p.names = .ok s → ¬touched s.place) :
    t'.read p = .ok content := by
  obtain ⟨hcheck, hslash, s, hwalk, hfile⟩ := read_eq_ok.mp hread
  obtain ⟨s', hwalk', hplace⟩ := h.walk hwalk
  have hbefore : t.top.content? s.place = some content := by
    rw [FileNode.content?, (walk_within hwalk).at?, hfile]
  have hafter := h.contents s.place (huntouched s hwalk)
  rw [hbefore, FileNode.content?, ← hplace, (walk_within hwalk').at?] at hafter
  refine read_eq_ok.mpr ⟨hcheck, hslash, s', hwalk', ?_⟩
  cases hnode : s'.node with
  | directory entries =>
    rw [hnode] at hafter
    cases hafter
  | file found =>
    rw [hnode] at hafter
    cases hafter
    rfl

theorem walk_names {last : Bytes} (hlast : p.names.getLast? = some last) :
    t.walk p p.names = t.walk p p.names.dropLast >>= (·.step last) := by
  obtain ⟨front, hnames⟩ := List.getLast?_eq_some_iff.mp hlast
  rw [hnames, List.dropLast_concat]
  unfold walk
  cases t.start p with
  | error e => rfl
  | ok first =>
    change (front ++ [last]).foldlM Spot.step first = front.foldlM Spot.step first >>= _
    rw [List.foldlM_append]
    congr 1
    funext dir
    rw [List.foldlM_cons]
    exact bind_pure (dir.step last)

theorem getLast?_place_of_walk {last : Bytes} (hlast : p.names.getLast? = some last)
    (hname : Spot.IsEntryName last) {s : Spot} (h : t.walk p p.names = .ok s) :
    s.place.getLast? = some last := by
  rw [walk_names hlast] at h
  cases hfront : t.walk p p.names.dropLast with
  | error e => rw [hfront] at h; cases h
  | ok dir =>
    rw [hfront] at h
    obtain ⟨-, ⟨hhere, -⟩ | ⟨hup, -⟩ | ⟨-, next, -, rfl⟩⟩ := Spot.step_cases h
    · exact absurd hhere hname.ne_here
    · exact absurd hup hname.ne_up
    · rw [Spot.place_down]
      simp

theorem walk_put {touched : Place → Prop} {place : Place} {new : FileNode}
    (htarget : t.target p = .ok (.entry place))
    (hextends : Extends touched t (t.put place new)) :
    ∃ s, (t.put place new).walk p p.names = .ok s ∧ s.node = new ∧ s.place = place := by
  obtain ⟨s, last, -, hlast, hwalk, hd, hname, rfl⟩ := target_eq_entry htarget
  have hat := (walk_within hwalk).at?
  obtain ⟨s', hwalk', hplace⟩ := hextends.walk hwalk
  have hat' := (walk_within hwalk').at?
  rw [hplace] at hat'
  have hfound : s'.node.child? last = some new := by
    have hput : (t.top.put new (s.place ++ [last])).at? (s.place ++ [last]) = some new :=
      FileNode.at?_put hat hd
    rw [← top_put, FileNode.at?_concat, hat'] at hput
    exact hput
  have hd' : s'.node.isDirectory = true := by
    obtain ⟨node', hnode', hkind⟩ := hextends.kinds s.place s.node hat
    rw [← Option.some.inj (hnode'.symm.trans hat'), hkind, hd]
  refine ⟨⟨new, (last, s'.node) :: s'.above⟩, ?_, rfl, ?_⟩
  · rw [walk_names hlast, hwalk']
    exact Spot.step_entry hd' hname hfound
  · rw [Spot.place_down, ← hplace]

theorem read_put {place : Place} (htarget : t.target p = .ok (.entry place))
    (hslash : p.endsInSlash = false)
    (hextends : Extends (· = place) t (t.put place (.file content))) :
    (t.put place (.file content)).read p = .ok content ∧
      (t.put place (.file content)).LeadsTo p place := by
  obtain ⟨-, -, hcheck, -⟩ := target_eq_entry htarget
  obtain ⟨s, hwalk, hfile, hplace⟩ := walk_put htarget hextends
  exact ⟨read_eq_ok.mpr ⟨hcheck, hslash, s, hwalk, hfile⟩, s, hwalk, hplace⟩

/-- A write fails and changes nothing, or it puts the whole content where it is read again, and
touches no other file. -/
theorem write_cases (p : Path) (content : Bytes) (t : FileTree) :
    (∃ e, write p content t = (.error e, t)) ∨
    ∃ (t' : FileTree) (place : Place), write p content t = (.ok (), t') ∧
      place.getLast? = p.names.getLast? ∧ Extends (· = place) t t' ∧ t'.read p = .ok content ∧
      t'.LeadsTo p place := by
  unfold write
  split
  · exact .inl ⟨_, rfl⟩
  · exact .inl ⟨_, rfl⟩
  · rename_i place htarget
    split
    · exact .inl ⟨_, rfl⟩
    · rename_i hfile
      obtain ⟨hnoDirectory, hslash⟩ := not_or.mp hfile
      obtain ⟨s, last, -, hlast, hwalk, hd, -, rfl⟩ := target_eq_entry htarget
      have hextends :
          Extends (· = s.place ++ [last]) t (t.put (s.place ++ [last]) (.file content)) := by
        apply extends_put (walk_within hwalk).at? hd rfl
        intro node hnode
        refine ⟨?_, rfl⟩
        simpa [isDirectoryAt, hnode] using hnoDirectory
      refine .inr ⟨_, s.place ++ [last], rfl, ?_, hextends, ?_⟩
      · rw [hlast, List.getLast?_concat]
      · exact read_put htarget (Bool.eq_false_iff.mpr hslash) hextends

theorem write_eq_ok (h : write p content t = (.ok (), t')) :
    ∃ place : Place, place.getLast? = p.names.getLast? ∧ Extends (· = place) t t' ∧
      t'.read p = .ok content ∧ t'.LeadsTo p place := by
  rcases write_cases p content t with ⟨e, hwrite⟩ | ⟨t'', place, hwrite, hplace⟩
  · rw [hwrite] at h
    cases h
  · rw [hwrite] at h
    cases h
    exact ⟨place, hplace⟩

end Operations

end FileTree
end AutomatonChart
