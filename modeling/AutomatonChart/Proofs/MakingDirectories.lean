import AutomatonChart.Proofs.Placement

/-! # Making directories again

A directory that was made with all its parents is still there at the next attempt, which then does
nothing. If it could not be made, the next attempt fails again and changes nothing. The reason is
the same one, except where a file stood in the way of a parent: it exists at first, and is no
directory for whoever comes to it by a longer path afterwards.
-/
namespace AutomatonChart

/-- What a second attempt may fail with. -/
def FileError.Follows (e e' : FileError) : Prop :=
  e' = e ∨ (e = .alreadyExists ∧ e' = .notADirectory)

namespace Path

theorem slash_not_mem_of_mem_pieces {bytes name : Bytes} (h : name ∈ pieces bytes) :
    slash ∉ name := by
  induction bytes generalizing name with
  | nil =>
    obtain rfl := List.mem_singleton.mp h
    exact List.not_mem_nil
  | cons b rest ih =>
    rw [pieces] at h
    split at h
    · rcases List.mem_cons.mp h with rfl | h
      · exact List.not_mem_nil
      · exact ih h
    · rename_i hb
      cases hp : pieces rest with
      | nil => exact absurd hp (pieces_ne_nil rest)
      | cons first others =>
        rw [hp] at h ih
        rcases List.mem_cons.mp h with rfl | h
        · intro hmem
          rcases List.mem_cons.mp hmem with heq | hmem
          · exact hb heq.symm
          · exact ih List.mem_cons_self hmem
        · exact ih (List.mem_cons_of_mem first h)

/-- What can stand between slashes and is walked by its name. -/
def IsName (name : Bytes) : Prop := slash ∉ name ∧ name ≠ []

theorem isName_of_mem_names {p : Path} {name : Bytes} (h : name ∈ p.names) : IsName name := by
  obtain ⟨hpiece, hne⟩ := List.mem_filter.mp h
  exact ⟨slash_not_mem_of_mem_pieces hpiece, of_decide_eq_true hne⟩

section OfNames
variable {names : List Bytes} (h : ∀ name ∈ names, IsName name)
include h

theorem pieces_intercalate (hne : names ≠ []) : pieces ([slash].intercalate names) = names := by
  induction names with
  | nil => exact absurd rfl hne
  | cons name rest ih =>
    obtain ⟨hname, hrest⟩ := List.forall_mem_cons.mp h
    by_cases hempty : rest = []
    · subst hempty
      simp [pieces_of_no_slash hname.1]
    · rw [List.intercalate_cons_of_ne_nil hempty, List.append_assoc, List.singleton_append,
        pieces_append_slash, pieces_of_no_slash hname.1, ih hrest hempty]
      rfl

theorem names_ofNames (absolute : Bool) : (ofNames absolute names).names = names := by
  have hfilter : (pieces ([slash].intercalate names)).filter (· ≠ []) = names := by
    by_cases hempty : names = []
    · subst hempty
      rfl
    · rw [pieces_intercalate h hempty]
      exact List.filter_eq_self.mpr fun name hname => decide_eq_true (h name hname).2
  rw [Path.names, ofNames]
  cases absolute with
  | false => exact hfilter
  | true =>
    simp only [if_true, List.singleton_append, pieces]
    exact hfilter

theorem isAbsolute_ofNames (absolute : Bool) : (ofNames absolute names).isAbsolute = absolute := by
  rw [isAbsolute, ofNames]
  cases absolute with
  | true => rfl
  | false =>
    cases names with
    | nil => rfl
    | cons name rest =>
      obtain ⟨⟨hslash, hne⟩, -⟩ := List.forall_mem_cons.mp h
      obtain ⟨b, bytes, rfl⟩ := List.exists_cons_of_ne_nil hne
      have hb : b ≠ slash := fun heq => hslash (heq ▸ List.mem_cons_self)
      cases rest <;> simp [hb]

end OfNames

theorem plainNames_sublist (p : Path) : p.plainNames.Sublist p.names := by
  unfold plainNames
  cases p.names with
  | nil => exact .slnil
  | cons first rest =>
    dsimp only
    split
    · exact List.filter_sublist.cons first
    · exact List.filter_sublist.cons_cons first

/-- The first path leads no further than the directory in which the second one ends, on the same
way. -/
structure Above (q p : Path) : Prop where
  isAbsolute : q.isAbsolute = p.isAbsolute
  names : q.names.filter (· ≠ here) <+: p.names.dropLast.filter (· ≠ here)

theorem filter_dropLast_plainNames (p : Path) :
    p.plainNames.dropLast.filter (· ≠ here) <+: p.names.dropLast.filter (· ≠ here) := by
  unfold plainNames
  cases p.names with
  | nil => exact List.prefix_rfl
  | cons first rest =>
    rcases List.eq_nil_or_concat rest with rfl | ⟨front, last, rfl⟩
    · dsimp only
      split <;> exact List.nil_prefix
    · have hdrop : (first :: (front ++ [last])).dropLast = first :: front := by
        rw [← List.cons_append, List.dropLast_concat]
      rw [List.concat_eq_append, hdrop]
      have hrest : ((front ++ [last]).filter (· ≠ here)).dropLast <+: front.filter (· ≠ here) := by
        by_cases hlast : last = here
        · simpa [hlast] using List.dropLast_prefix (front.filter (· ≠ here))
        · simp [hlast]
      dsimp only
      split
      · rename_i hfirst
        simpa [hfirst.1] using hrest.filter (· ≠ here)
      · cases hplain : (front ++ [last]).filter (· ≠ here) with
        | nil => exact List.nil_prefix
        | cons second others =>
          rw [hplain] at hrest
          rw [List.dropLast_cons_cons]
          have hfirst := (List.prefix_cons_inj first).mpr hrest
          simpa [List.filter_cons] using hfirst.filter (· ≠ here)

theorem pairwise_above (p : Path) : (p :: p.parents).Pairwise fun p q => q.Above p := by
  have hnames : ∀ n, ∀ name ∈ p.plainNames.take n, IsName name := fun n name hname =>
    isName_of_mem_names (p.plainNames_sublist.subset (List.mem_of_mem_take hname))
  refine List.pairwise_cons.mpr ⟨?_, ?_⟩
  · intro q hq
    obtain ⟨hq, -⟩ := List.mem_filter.mp hq
    obtain ⟨n, hn, rfl⟩ := List.mem_map.mp hq
    have hn : n < p.plainNames.length := List.mem_range.mp (List.mem_reverse.mp hn)
    refine ⟨isAbsolute_ofNames (hnames n) _, ?_⟩
    rw [names_ofNames (hnames n)]
    refine List.IsPrefix.trans ?_ p.filter_dropLast_plainNames
    apply List.IsPrefix.filter
    rw [List.dropLast_eq_take]
    exact List.take_prefix_take_left (Nat.le_sub_one_of_lt hn)
  · apply List.Pairwise.filter
    apply List.pairwise_map.mpr
    apply List.pairwise_reverse.mpr
    refine List.Pairwise.imp_of_mem ?_ List.pairwise_lt_range
    intro m n _ hn hmn
    refine ⟨?_, ?_⟩
    · rw [isAbsolute_ofNames (hnames m), isAbsolute_ofNames (hnames n)]
    · rw [names_ofNames (hnames m), names_ofNames (hnames n)]
      apply List.IsPrefix.filter
      rw [List.dropLast_take (List.mem_range.mp hn)]
      exact List.take_prefix_take_left (Nat.le_sub_one_of_lt hmn)

theorem bytes_ne_nil_of_mem_parents {p q : Path} (h : q ∈ p.parents) : q.bytes ≠ [] :=
  of_decide_eq_true (List.mem_filter.mp h).2

end Path

namespace Spot
variable {top : FileNode} {s r : Spot} {names : List Bytes}

theorem Within.isDirectory_up (h : Within top s) (hd : s.node.isDirectory = true) :
    s.up.node.isDirectory = true := by
  cases h with
  | top => exact hd
  | @down s name next h found =>
    change s.node.isDirectory = true
    by_contra hfile
    rw [FileNode.child?,
      FileNode.entries_eq_nil_of_not_directory (Bool.eq_false_iff.mpr hfile)] at found
    cases found

theorem step_of_file {name : Bytes} (hfile : s.node.isDirectory = false) :
    s.step name = .error .notADirectory := by
  simp [step, hfile]

theorem step_here_eq_ok : s.step Path.here = .ok r ↔ s.node.isDirectory = true ∧ r = s := by
  constructor
  · intro h
    obtain ⟨hd, -⟩ := step_cases h
    rw [step_here hd] at h
    exact ⟨hd, (Except.ok.inj h).symm⟩
  · rintro ⟨hd, rfl⟩
    exact step_here hd

theorem foldlM_step_of_file (hfile : s.node.isDirectory = false) :
    (names ++ [Path.here]).foldlM step s = .error .notADirectory := by
  cases names with
  | nil => rw [List.nil_append, List.foldlM_cons, step_of_file hfile]; rfl
  | cons name rest => rw [List.cons_append, List.foldlM_cons, step_of_file hfile]; rfl

theorem foldlM_step_filter : ((names.filter (· ≠ Path.here)) ++ [Path.here]).foldlM step s =
    (names ++ [Path.here]).foldlM step s := by
  induction names generalizing s with
  | nil => rfl
  | cons name rest ih =>
    by_cases hname : name = Path.here
    · subst hname
      rw [List.filter_cons_of_neg (by simp), ih, List.cons_append, List.foldlM_cons]
      cases hd : s.node.isDirectory with
      | true => rw [step_here hd]; rfl
      | false => rw [step_of_file hd, foldlM_step_of_file hd]; rfl
    · rw [List.filter_cons_of_pos (by simpa using hname), List.cons_append, List.cons_append,
        List.foldlM_cons, List.foldlM_cons]
      congr 1
      funext next
      exact ih

end Spot

namespace FileTree
variable {t t' : FileTree} {p q : Path} {names more : List Bytes} {e e' : FileError}

/-- Follows names to a directory. -/
def enter (t : FileTree) (p : Path) (names : List Bytes) : Except FileError Spot :=
  t.walk p (names ++ [Path.here])

theorem walk_append : t.walk p (names ++ more) = t.walk p names >>= more.foldlM Spot.step := by
  unfold walk
  cases t.start p with
  | error e => rfl
  | ok first => exact List.foldlM_append

theorem enter_eq_ok {s : Spot} :
    t.enter p names = .ok s ↔ t.walk p names = .ok s ∧ s.node.isDirectory = true := by
  rw [enter, walk_append]
  cases t.walk p names with
  | error e => exact ⟨nofun, nofun⟩
  | ok r =>
    change [Path.here].foldlM Spot.step r = .ok s ↔ _
    rw [List.foldlM_cons]
    change r.step Path.here >>= pure = .ok s ↔ _
    rw [bind_pure, Spot.step_here_eq_ok, Except.ok.injEq]
    constructor
    · rintro ⟨hd, rfl⟩
      exact ⟨rfl, hd⟩
    · rintro ⟨rfl, hd⟩
      exact ⟨hd, rfl⟩

theorem enter_filter : t.enter p (names.filter (· ≠ Path.here)) = t.enter p names := by
  unfold enter walk
  cases t.start p with
  | error e => rfl
  | ok first => exact Spot.foldlM_step_filter

theorem enter_of_walk_error (h : t.walk p names = .error e) : t.enter p names = .error e := by
  rw [enter, walk_append, h]
  rfl

theorem enter_of_file {s : Spot} (h : t.walk p names = .ok s) (hfile : s.node.isDirectory = false)
    (rest : List Bytes) : t.enter p (names ++ rest) = .error .notADirectory := by
  rw [enter, List.append_assoc, walk_append, h]
  exact Spot.foldlM_step_of_file hfile

/-- Where names do not lead to a directory, longer names do not lead further. -/
theorem enter_error_mono (h : names <+: more) (he : t.enter p names = .error e) :
    t.enter p more = .error e := by
  obtain ⟨rest, rfl⟩ := h
  cases hwalk : t.walk p names with
  | error e' =>
    rw [enter_of_walk_error hwalk] at he
    cases he
    apply enter_of_walk_error
    rw [walk_append, hwalk]
    rfl
  | ok s =>
    have hfile : s.node.isDirectory = false := by
      by_contra hd
      rw [enter_eq_ok.mpr ⟨hwalk, Bool.not_eq_false _ ▸ hd⟩] at he
      cases he
    have hstop := enter_of_file hwalk hfile []
    rw [List.append_nil, he] at hstop
    cases hstop
    exact enter_of_file hwalk hfile rest

theorem enter_congr (h : q.isAbsolute = p.isAbsolute) : t.enter q names = t.enter p names := by
  unfold enter walk start
  rw [h]

/-- What lies above a path stops that path where it stops itself. -/
theorem enter_error_of_above (h : q.Above p) (he : t.enter q q.names = .error e) :
    t.enter p p.names.dropLast = .error e := by
  rw [enter_congr h.isAbsolute, ← enter_filter] at he
  rw [← enter_filter]
  exact enter_error_mono h.names he

theorem isDirectory_iff :
    t.isDirectory p = true ↔ checkPath p = .ok () ∧ ∃ s, t.enter p p.names = .ok s := by
  unfold isDirectory
  cases checkPath p with
  | error e => exact ⟨nofun, nofun⟩
  | ok _ =>
    simp only [enter_eq_ok, true_and]
    cases t.walk p p.names with
    | error e => exact ⟨nofun, nofun⟩
    | ok s =>
      simp only [Except.ok.injEq]
      constructor
      · intro hd
        exact ⟨s, rfl, hd⟩
      · rintro ⟨_, rfl, hd⟩
        exact hd

theorem target_of_checkPath (hcheck : checkPath p = .error e) : t.target p = .error e := by
  unfold target
  rw [hcheck]
  rfl

theorem target_of_no_name (hcheck : checkPath p = .ok ()) (hlast : p.names.getLast? = none) :
    t.target p = .ok .standing := by
  unfold target
  rw [hcheck]
  simp only [hlast]
  rfl

theorem target_eq (hcheck : checkPath p = .ok ()) {last : Bytes}
    (hlast : p.names.getLast? = some last) :
    t.target p = t.enter p p.names.dropLast >>= fun s =>
      if last = Path.here ∨ last = Path.up then pure .standing
      else if Spot.maxName < last.length then .error .nameTooLong
      else pure (.entry (s.place ++ [last])) := by
  unfold target
  rw [hcheck, enter, walk_append]
  simp only [hlast]
  change (t.walk p p.names.dropLast >>= _) = _
  cases t.walk p p.names.dropLast with
  | error e => rfl
  | ok s =>
    change _ = (([Path.here] : List Bytes).foldlM Spot.step s >>= _)
    rw [List.foldlM_cons]
    cases hd : s.node.isDirectory with
    | true =>
      rw [Spot.step_here hd]
      simp only [bind, Except.bind, hd]
      rfl
    | false =>
      rw [Spot.step_of_file hd]
      simp only [bind, Except.bind, hd]
      rfl

theorem walk_of_enter {last : Bytes} {s : Spot} (hlast : p.names.getLast? = some last)
    (henter : t.enter p p.names.dropLast = .ok s) : t.walk p p.names = s.step last := by
  rw [walk_names hlast, (enter_eq_ok.mp henter).1]
  rfl

theorem Extends.isDirectory {touched : Place → Prop} (h : Extends touched t t')
    (hd : t.isDirectory p = true) : t'.isDirectory p = true := by
  obtain ⟨hcheck, s, henter⟩ := isDirectory_iff.mp hd
  obtain ⟨s', henter', -⟩ := h.walk henter
  exact isDirectory_iff.mpr ⟨hcheck, s', henter'⟩

section Attempt
variable {last : Bytes} {s : Spot}

theorem node?_of_enter (henter : t.enter p names = .ok s) (last : Bytes) :
    t.node? (s.place ++ [last]) = s.node.child? last := by
  rw [node?, FileNode.at?_concat, (walk_within (enter_eq_ok.mp henter).1).at?]
  rfl

theorem makeDirectory_eq (hcheck : checkPath p = .ok ()) (hlast : p.names.getLast? = some last) :
    makeDirectory p t =
      match t.enter p p.names.dropLast with
      | .error e => (.error e, t)
      | .ok s =>
        if last = Path.here ∨ last = Path.up then (.error .alreadyExists, t)
        else if Spot.maxName < last.length then (.error .nameTooLong, t)
        else match s.node.child? last with
          | some _ => (.error .alreadyExists, t)
          | none => (.ok (), t.put (s.place ++ [last]) (.directory [])) := by
  unfold makeDirectory
  rw [target_eq hcheck hlast]
  cases henter : t.enter p p.names.dropLast with
  | error e => rfl
  | ok s =>
    simp only [bind, Except.bind]
    by_cases hmoves : last = Path.here ∨ last = Path.up
    · rw [if_pos hmoves, if_pos hmoves]
      rfl
    · rw [if_neg hmoves, if_neg hmoves]
      by_cases hlong : Spot.maxName < last.length
      · rw [if_pos hlong, if_pos hlong]
      · rw [if_neg hlong, if_neg hlong, ← node?_of_enter henter last]
        rfl

theorem makeDirectory_error (h : makeDirectory p t = (.error e, t')) : t' = t := by
  unfold makeDirectory at h
  split at h
  · exact (congrArg Prod.snd h).symm
  · exact (congrArg Prod.snd h).symm
  · split at h
    · exact (congrArg Prod.snd h).symm
    · cases h

/-- An attempt that succeeds has made one directory, and its path leads there. -/
theorem makeDirectory_eq_ok (h : makeDirectory p t = (.ok (), t')) :
    checkPath p = .ok () ∧ ∃ s, t'.enter p p.names = .ok s ∧
      ∀ place, t'.isDirectoryAt place = true → t.isDirectoryAt place = true ∨ place = s.place := by
  have hextends := extends_makeDirectory p t
  rw [h] at hextends
  unfold makeDirectory at h
  split at h
  · cases h
  · cases h
  · rename_i place htarget
    split at h
    · cases h
    · obtain rfl := congrArg Prod.snd h
      obtain ⟨r, hwalk, hnode, hplace⟩ := walk_put htarget hextends
      obtain ⟨s, last, hcheck, -, hfront, hd, -, rfl⟩ := target_eq_entry htarget
      refine ⟨hcheck, r, enter_eq_ok.mpr ⟨hwalk, by rw [hnode]; rfl⟩, ?_⟩
      intro other hother
      rw [hplace]
      exact (isDirectoryAt_of_put (walk_within hfront).at? hd rfl hother).imp_right And.left

theorem isDirectory_of_makeDirectory (h : makeDirectory p t = (.ok (), t')) :
    t'.isDirectory p = true := by
  obtain ⟨hcheck, s, henter, -⟩ := makeDirectory_eq_ok h
  exact isDirectory_iff.mpr ⟨hcheck, s, henter⟩

theorem makeDirectory_of_isDirectory (h : t.isDirectory p = true) :
    makeDirectory p t = (.error .alreadyExists, t) := by
  obtain ⟨hcheck, r, henter⟩ := isDirectory_iff.mp h
  cases hlast : p.names.getLast? with
  | none =>
    rw [makeDirectory, target_of_no_name hcheck hlast]
  | some last =>
    rw [makeDirectory_eq hcheck hlast]
    cases hfront : t.enter p p.names.dropLast with
    | error e =>
      rw [enter_error_mono (List.dropLast_prefix _) hfront] at henter
      cases henter
    | ok s =>
      have hwalk := (enter_eq_ok.mp henter).1
      rw [walk_of_enter hlast hfront] at hwalk
      dsimp only
      obtain ⟨-, ⟨hhere, -⟩ | ⟨hup, -⟩ | ⟨hname, next, found, -⟩⟩ := Spot.step_cases hwalk
      · rw [if_pos (.inl hhere)]
      · rw [if_pos (.inr hup)]
      · rw [if_neg (not_or.mpr ⟨hname.ne_here, hname.ne_up⟩),
          if_neg (Nat.not_lt.mpr hname.length_le), found]

theorem checkPath_of_notFound (hbytes : p.bytes ≠ [])
    (h : makeDirectory p t = (.error .notFound, t')) :
    checkPath p = .ok () ∧ ∃ last, p.names.getLast? = some last := by
  have hcheck : checkPath p = .ok () := by
    cases hcheck : checkPath p with
    | ok _ => rfl
    | error e =>
      rw [makeDirectory, target_of_checkPath hcheck] at h
      obtain rfl := Except.error.inj (congrArg Prod.fst h)
      unfold checkPath at hcheck
      rw [if_neg hbytes] at hcheck
      split at hcheck
      · cases hcheck
      · split at hcheck <;> cases hcheck
  refine ⟨hcheck, ?_⟩
  cases hlast : p.names.getLast? with
  | some last => exact ⟨last, rfl⟩
  | none =>
    rw [makeDirectory, target_of_no_name hcheck hlast] at h
    cases h

/-- A way that is blocked further up blocks the attempt for the same reason. -/
theorem makeDirectory_of_blocked (hcheck : checkPath p = .ok ())
    (hlast : p.names.getLast? = some last) (he : t.enter p p.names.dropLast = .error e) :
    makeDirectory p t = (.error e, t) ∧ t.isDirectory p = false := by
  refine ⟨by rw [makeDirectory_eq hcheck hlast, he], ?_⟩
  by_contra hd
  obtain ⟨-, s, henter⟩ := isDirectory_iff.mp (Bool.not_eq_false _ ▸ hd)
  rw [enter_error_mono (List.dropLast_prefix _) he] at henter
  cases henter

theorem not_directory_of_step {r : Spot} (hcheck : checkPath p = .ok ())
    (hlast : p.names.getLast? = some last) (hfront : t.enter p p.names.dropLast = .ok s)
    (hd : t.isDirectory p = false) (hstep : s.step last = .ok r) : r.node.isDirectory = false := by
  by_contra hr
  have henter : t.enter p p.names = .ok r :=
    enter_eq_ok.mpr ⟨(walk_of_enter hlast hfront).trans hstep, Bool.not_eq_false _ ▸ hr⟩
  rw [isDirectory_iff.mpr ⟨hcheck, r, henter⟩] at hd
  cases hd

/-- What could not be made blocks the way, for a reason that follows from the first one. -/
theorem blocked_of_makeDirectory (hcheck : checkPath p = .ok ())
    (hlast : p.names.getLast? = some last) (h : makeDirectory p t = (.error e, t'))
    (hd : t.isDirectory p = false) : ∃ e', t.enter p p.names = .error e' ∧ e.Follows e' := by
  rw [makeDirectory_eq hcheck hlast] at h
  cases hfront : t.enter p p.names.dropLast with
  | error e₁ =>
    rw [hfront] at h
    cases h
    exact ⟨e, enter_error_mono (List.dropLast_prefix _) hfront, .inl rfl⟩
  | ok s =>
    obtain ⟨hwalk, hs⟩ := enter_eq_ok.mp hfront
    -- A name that only moves would have led to a directory.
    have hhere : last ≠ Path.here := by
      rintro rfl
      rw [not_directory_of_step hcheck hlast hfront hd (Spot.step_here hs)] at hs
      cases hs
    have hup : last ≠ Path.up := by
      rintro rfl
      have hdirectory := (walk_within hwalk).isDirectory_up hs
      rw [not_directory_of_step hcheck hlast hfront hd (Spot.step_up hs)] at hdirectory
      cases hdirectory
    rw [hfront] at h
    simp only [hhere, hup, or_self, if_false] at h
    by_cases hlong : Spot.maxName < last.length
    · rw [if_pos hlong] at h
      cases h
      refine ⟨.nameTooLong, enter_of_walk_error ?_, .inl rfl⟩
      rw [walk_of_enter hlast hfront]
      simp [Spot.step, hs, hhere, hup, hlong]
    · rw [if_neg hlong] at h
      cases hchild : s.node.child? last with
      | none =>
        rw [hchild] at h
        cases h
      | some next =>
        have hnext := Spot.step_entry hs ⟨hhere, hup, Nat.not_lt.mp hlong⟩ hchild
        have hfile := not_directory_of_step hcheck hlast hfront hd hnext
        have hstop := enter_of_file ((walk_of_enter hlast hfront).trans hnext) hfile []
        rw [hchild] at h
        cases h
        exact ⟨.notADirectory, List.append_nil p.names ▸ hstop, .inr ⟨rfl, rfl⟩⟩

end Attempt

section Chain
variable {ps : List Path}

def ensureDirectory (p : Path) (t : FileTree) : Except FileError Unit × FileTree :=
  match makeDirectory p t with
  | (.ok (), t) => (.ok (), t)
  | (.error e, t) => (if t.isDirectory p then .ok () else .error e, t)

theorem ensureDirectory_eq_ok (h : ensureDirectory p t = (.ok (), t')) :
    t'.isDirectory p = true := by
  unfold ensureDirectory at h
  split at h
  · rename_i t₁ hmake
    cases h
    exact isDirectory_of_makeDirectory hmake
  · split at h
    · cases h
      assumption
    · cases h

theorem ensureDirectory_eq_error : ensureDirectory p t = (.error e, t') ↔
    t' = t ∧ makeDirectory p t = (.error e, t) ∧ t.isDirectory p = false := by
  unfold ensureDirectory
  constructor
  · intro h
    split at h
    · cases h
    · rename_i e₁ t₁ hmake
      obtain rfl := makeDirectory_error hmake
      split at h
      · cases h
      · rename_i hd
        cases h
        exact ⟨rfl, hmake, Bool.eq_false_iff.mpr hd⟩
  · rintro ⟨rfl, hmake, hd⟩
    rw [hmake]
    simp only [hd]
    rfl

theorem makeChain_cons_of_notFound (h : makeDirectory p t = (.error .notFound, t)) :
    makeChain (p :: ps) t =
      match makeChain ps t with
      | (.error e, t) => (.error e, t)
      | (.ok (), t) => ensureDirectory p t := by
  rw [makeChain, h]
  rfl

theorem makeChain_cons_of_ne_notFound (h : makeDirectory p t ≠ (.error .notFound, t)) :
    makeChain (p :: ps) t = ensureDirectory p t := by
  unfold makeChain ensureDirectory
  rcases hmake : makeDirectory p t with ⟨e | ⟨⟩, t₁⟩
  · obtain rfl := makeDirectory_error hmake
    cases e with
    | notFound => exact absurd hmake h
    | _ => rfl
  · rfl

theorem isDirectory_of_makeChain (h : makeChain (p :: ps) t = (.ok (), t')) :
    t'.isDirectory p = true := by
  by_cases hmake : makeDirectory p t = (.error .notFound, t)
  · rw [makeChain_cons_of_notFound hmake] at h
    split at h
    · cases h
    · exact ensureDirectory_eq_ok h
  · rw [makeChain_cons_of_ne_notFound hmake] at h
    exact ensureDirectory_eq_ok h

theorem makeChain_of_isDirectory (h : t.isDirectory p = true) :
    makeChain (p :: ps) t = (.ok (), t) := by
  have hmake := makeDirectory_of_isDirectory h
  rw [makeChain_cons_of_ne_notFound (by rw [hmake]; nofun), ensureDirectory, hmake]
  simp only [h, if_true]

/-- A chain fails without a trace, or one of its directories blocks the way. -/
theorem makeChain_error (hbytes : ∀ q ∈ ps, q.bytes ≠ [])
    (h : makeChain ps t = (.error e, t')) :
    t' = t ∨ ∃ q ∈ ps, ∃ e', t'.enter q q.names = .error e' ∧ e.Follows e' := by
  induction ps generalizing t' with
  | nil => cases h
  | cons p ps ih =>
    obtain ⟨hp, hps⟩ := List.forall_mem_cons.mp hbytes
    by_cases hmake : makeDirectory p t = (.error .notFound, t)
    · rw [makeChain_cons_of_notFound hmake] at h
      split at h
      · rename_i e₁ t₁ hchain
        cases h
        refine (ih hps hchain).imp_right ?_
        rintro ⟨q, hq, hblocked⟩
        exact ⟨q, List.mem_cons_of_mem p hq, hblocked⟩
      · rename_i t₁ hchain
        obtain ⟨rfl, hagain, hd⟩ := ensureDirectory_eq_error.mp h
        obtain ⟨hcheck, last, hlast⟩ := checkPath_of_notFound hp hmake
        exact .inr ⟨p, List.mem_cons_self, blocked_of_makeDirectory hcheck hlast hagain hd⟩
    · rw [makeChain_cons_of_ne_notFound hmake] at h
      exact .inl (ensureDirectory_eq_error.mp h).1

/-- A chain that was made is there at the next attempt. -/
theorem makeChain_of_ok (h : makeChain ps t = (.ok (), t')) : makeChain ps t' = (.ok (), t') := by
  cases ps with
  | nil => rfl
  | cons p ps => exact makeChain_of_isDirectory (isDirectory_of_makeChain h)

/-- A chain that failed fails again. -/
theorem makeChain_again (hbytes : ∀ q ∈ ps, q.bytes ≠ [])
    (habove : ps.Pairwise fun p q => q.Above p)
    (h : makeChain ps t = (.error e, t')) :
    ∃ e', makeChain ps t' = (.error e', t') ∧ e.Follows e' := by
  induction ps with
  | nil => cases h
  | cons p ps ih =>
    obtain ⟨hp, hps⟩ := List.forall_mem_cons.mp hbytes
    obtain ⟨hpAbove, hpsAbove⟩ := List.pairwise_cons.mp habove
    by_cases hmake : makeDirectory p t = (.error .notFound, t)
    · obtain ⟨hcheck, last, hlast⟩ := checkPath_of_notFound hp hmake
      have hfirst := h
      rw [makeChain_cons_of_notFound hmake] at h
      split at h
      · rename_i e₁ t₁ hchain
        cases h
        rcases makeChain_error hps hchain with rfl | ⟨q, hq, e', hblocked, hfollows⟩
        · exact ⟨e, hfirst, .inl rfl⟩
        · -- The way to the first directory is blocked by what stopped the others.
          obtain ⟨hagain, hd⟩ := makeDirectory_of_blocked hcheck hlast
            (enter_error_of_above (hpAbove q hq) hblocked)
          by_cases hnotFound : e' = .notFound
          · subst hnotFound
            obtain ⟨e'', hchain', hfollows'⟩ := ih hps hpsAbove hchain
            refine ⟨e'', ?_, hfollows'⟩
            rw [makeChain_cons_of_notFound hagain, hchain']
          · refine ⟨e', ?_, hfollows⟩
            rw [makeChain_cons_of_ne_notFound (by rw [hagain]; simpa using hnotFound)]
            exact ensureDirectory_eq_error.mpr ⟨rfl, hagain, hd⟩
      · rename_i t₁ hchain
        obtain ⟨rfl, hagain⟩ := ensureDirectory_eq_error.mp h
        refine ⟨e, ?_, .inl rfl⟩
        have hensure := ensureDirectory_eq_error.mpr ⟨rfl, hagain⟩
        by_cases hnotFound : e = .notFound
        · subst hnotFound
          rw [makeChain_cons_of_notFound hagain.1, makeChain_of_ok hchain]
          exact hensure
        · rw [makeChain_cons_of_ne_notFound (by rw [hagain.1]; simpa using hnotFound)]
          exact hensure
    · have hfirst := h
      rw [makeChain_cons_of_ne_notFound hmake] at h
      obtain ⟨rfl, -⟩ := ensureDirectory_eq_error.mp h
      exact ⟨e, hfirst, .inl rfl⟩

theorem makeDirectories_of_ok {touched : Place → Prop} {t₁ : FileTree}
    (h : makeDirectories p t = (.ok (), t₁)) (hextends : Extends touched t₁ t') :
    makeDirectories p t' = (.ok (), t') := by
  unfold makeDirectories at h ⊢
  split at h
  · rename_i hbytes
    rw [if_pos hbytes]
  · rename_i hbytes
    rw [if_neg hbytes]
    exact makeChain_of_isDirectory (hextends.isDirectory (isDirectory_of_makeChain h))

theorem makeDirectories_again (h : makeDirectories p t = (.error e, t')) :
    ∃ e', makeDirectories p t' = (.error e', t') ∧ e.Follows e' := by
  unfold makeDirectories at h ⊢
  split at h
  · cases h
  · rename_i hbytes
    rw [if_neg hbytes]
    refine makeChain_again ?_ p.pairwise_above h
    exact List.forall_mem_cons.mpr ⟨hbytes, fun q => Path.bytes_ne_nil_of_mem_parents⟩

end Chain

end FileTree
end AutomatonChart
