import AutomatonChart.Collection.OrderedMap
import AutomatonChart.Files.Path

/-! # Files and directories

A file with its content, or a directory with its named entries. A place is the list of names that
leads to a node; putting a node at a place changes nothing at the places that do not go through it.
-/
namespace AutomatonChart

inductive FileNode where
  | file (content : Bytes)
  | directory (entries : List (Bytes × FileNode))

/-- The names from a directory down to a file or directory. -/
abbrev Place := List Bytes

namespace FileNode

instance : Inhabited FileNode := ⟨.directory []⟩

def isDirectory : FileNode → Bool
  | .file _ => false
  | .directory _ => true

def entries : FileNode → List (Bytes × FileNode)
  | .file _ => []
  | .directory entries => entries

def child? (node : FileNode) (name : Bytes) : Option FileNode := node.entries.lookup name

def at? (node : FileNode) : Place → Option FileNode
  | [] => some node
  | name :: rest =>
    match node.child? name with
    | some next => next.at? rest
    | none => none

def content? (node : FileNode) (place : Place) : Option Bytes :=
  match node.at? place with
  | some (.file content) => some content
  | _ => none

/-- Puts a node at a place, in the stead of what was there; directories on the way are made if they
are missing, and nothing is put below a file. -/
def put (node : FileNode) (new : FileNode) : Place → FileNode
  | [] => new
  | name :: rest =>
    match node with
    | .file content => .file content
    | .directory entries =>
      .directory (upsertEntry name (fun found => (found.getD default).put new rest) entries)

mutual

/-- All that is found from a node on, with its path; the path of a directory ends in a slash. -/
def listed (path : Bytes) : FileNode → List (Bytes × Bytes)
  | .file content => [(path, content)]
  | .directory entries =>
    (path ++ [Path.slash], []) :: listedEntries (path ++ [Path.slash]) entries

def listedEntries (front : Bytes) : List (Bytes × FileNode) → List (Bytes × Bytes)
  | [] => []
  | e :: rest => listed (front ++ e.1) e.2 ++ listedEntries front rest

end

theorem child?_put_directory (entries : List (Bytes × FileNode)) (new : FileNode)
    (name other : Bytes) (rest : Place) :
    ((directory entries).put new (name :: rest)).child? other =
      if other = name then some (((entries.lookup name).getD default).put new rest)
      else entries.lookup other :=
  lookup_upsertEntry name _ entries other

theorem at?_put {node new dir : FileNode} {front : Place} {name : Bytes}
    (h : node.at? front = some dir) (hd : dir.isDirectory = true) :
    (node.put new (front ++ [name])).at? (front ++ [name]) = some new := by
  induction front generalizing node with
  | nil =>
    have hn := Option.some.inj h
    subst hn
    cases node with
    | file content => cases hd
    | directory entries =>
      rw [List.nil_append, at?, child?_put_directory, if_pos rfl]
      rfl
  | cons n rest ih =>
    cases node with
    | file content => cases h
    | directory entries =>
      rw [List.cons_append, at?, child?_put_directory, if_pos rfl]
      cases hc : entries.lookup n with
      | none => rw [at?, child?, FileNode.entries, hc] at h; cases h
      | some next =>
        rw [at?, child?, FileNode.entries, hc] at h
        exact ih h

theorem at?_put_of_not_prefix {node new dir : FileNode} {front other : Place} {name : Bytes}
    (h : node.at? front = some dir) (hd : dir.isDirectory = true)
    (ho : ¬(front ++ [name]) <+: other) :
    (node.put new (front ++ [name])).at? other = node.at? other ∨
      ∃ after before, (node.put new (front ++ [name])).at? other = some (.directory after) ∧
        node.at? other = some (.directory before) := by
  induction front generalizing node other with
  | nil =>
    have hn := Option.some.inj h
    subst hn
    cases node with
    | file content => cases hd
    | directory entries =>
      cases other with
      | nil => exact .inr ⟨_, entries, rfl, rfl⟩
      | cons o others =>
        have hne : o ≠ name := fun he => ho (by simp [he])
        rw [List.nil_append, at?, child?_put_directory, if_neg hne, at?, child?, FileNode.entries]
        exact .inl rfl
  | cons n rest ih =>
    cases node with
    | file content => cases h
    | directory entries =>
      cases hc : entries.lookup n with
      | none => rw [at?, child?, FileNode.entries, hc] at h; cases h
      | some next =>
        rw [at?, child?, FileNode.entries, hc] at h
        cases other with
        | nil => exact .inr ⟨_, entries, rfl, rfl⟩
        | cons o others =>
          rw [List.cons_append, at?, child?_put_directory, at?, child?, FileNode.entries]
          by_cases hn : o = n
          · subst hn
            have hrest : ¬(rest ++ [name]) <+: others := fun hp => ho (by simpa using hp)
            rw [if_pos rfl, hc]
            exact ih h hrest
          · rw [if_neg hn]
            exact .inl rfl

theorem content?_put {node new dir : FileNode} {front other : Place} {name : Bytes}
    (h : node.at? front = some dir) (hd : dir.isDirectory = true)
    (ho : ¬ (front ++ [name]) <+: other) :
    (node.put new (front ++ [name])).content? other = node.content? other := by
  unfold content?
  rcases at?_put_of_not_prefix h hd ho with hsame | ⟨after, before, hafter, hbefore⟩
  · rw [hsame]
  · rw [hafter, hbefore]

end FileNode
end AutomatonChart
