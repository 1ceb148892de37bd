import AutomatonChart.Files.Error
import AutomatonChart.Files.Node

/-! # File trees

All files and directories, and the directory in which relative paths begin. A path is walked name
by name; each operation either takes place as a whole or leaves the tree alone and says why, except
that making a directory may have made some of its parents.
-/
namespace AutomatonChart

/-- Where a walk stands: a node, and the directories that were left behind on the way down to it,
each with the name that was followed in it, nearest first. -/
structure Spot where
  node : FileNode
  above : List (Bytes × FileNode)

namespace Spot

def place (s : Spot) : Place := (s.above.map Prod.fst).reverse

def maxName : Nat := 255

def up (s : Spot) : Spot :=
  match s.above with
  | [] => s
  | (_, parent) :: rest => ⟨parent, rest⟩

def step (s : Spot) (name : Bytes) : Except FileError Spot :=
  if !s.node.isDirectory then .error .notADirectory
  else if name = Path.here then .ok s
  else if name = Path.up then .ok s.up
  else if maxName < name.length then .error .nameTooLong
  else match s.node.child? name with
    | some next => .ok ⟨next, (name, s.node) :: s.above⟩
    | none => .error .notFound

end Spot

structure FileTree where
  root : List (Bytes × FileNode)
  /-- Where relative paths begin. -/
  home : Place

namespace FileTree

def fresh : FileTree where
  root := [(Utf8.encode "home", .directory [])]
  home := [Utf8.encode "home"]

instance : Inhabited FileTree := ⟨fresh⟩

def top (t : FileTree) : FileNode := .directory t.root

def node? (t : FileTree) (place : Place) : Option FileNode := t.top.at? place

def isDirectoryAt (t : FileTree) (place : Place) : Bool :=
  match t.node? place with
  | some node => node.isDirectory
  | none => false

def put (t : FileTree) (place : Place) (node : FileNode) : FileTree :=
  { t with root := (t.top.put node place).entries }

def start (t : FileTree) (p : Path) : Except FileError Spot :=
  if p.isAbsolute then .ok ⟨t.top, []⟩ else t.home.foldlM Spot.step ⟨t.top, []⟩

def walk (t : FileTree) (p : Path) (names : List Bytes) : Except FileError Spot := do
  names.foldlM Spot.step (← t.start p)

def maxPath : Nat := 4096

def checkPath (p : Path) : Except FileError Unit :=
  if 0 ∈ p.bytes then .error .zeroByte
  else if p.bytes = [] then .error .notFound
  else if maxPath ≤ p.bytes.length then .error .nameTooLong
  else .ok ()

/-- What the last name of a path refers to. -/
inductive Target where
  /-- A place below an existing directory; something may be there or not. -/
  | entry (place : Place)
  /-- The root, or a directory reached by a name that only moves. -/
  | standing

def target (t : FileTree) (p : Path) : Except FileError Target := do
  checkPath p
  let names := p.names
  match names.getLast? with
  | none => pure .standing
  | some last =>
    let spot ← t.walk p names.dropLast
    if !spot.node.isDirectory then .error .notADirectory
    else if last = Path.here ∨ last = Path.up then pure .standing
    else if Spot.maxName < last.length then .error .nameTooLong
    else pure (.entry (spot.place ++ [last]))

def isDirectory (t : FileTree) (p : Path) : Bool :=
  match checkPath p with
  | .error _ => false
  | .ok () =>
    match t.walk p p.names with
    | .ok spot => spot.node.isDirectory
    | .error _ => false

def makeDirectory (p : Path) (t : FileTree) : Except FileError Unit × FileTree :=
  match t.target p with
  | .error e => (.error e, t)
  | .ok .standing => (.error .alreadyExists, t)
  | .ok (.entry place) =>
    match t.node? place with
    | some _ => (.error .alreadyExists, t)
    | none => (.ok (), t.put place (.directory []))

/-- Makes the first directory of the list, after those that follow it if they are missing. -/
def makeChain : List Path → FileTree → Except FileError Unit × FileTree
  | [], t => (.ok (), t)
  | p :: parents, t =>
    match makeDirectory p t with
    | (.ok (), t) => (.ok (), t)
    | (.error .notFound, t) =>
      match makeChain parents t with
      | (.error e, t) => (.error e, t)
      | (.ok (), t) =>
        match makeDirectory p t with
        | (.ok (), t) => (.ok (), t)
        | (.error e, t) => (if t.isDirectory p then .ok () else .error e, t)
    | (.error e, t) => (if t.isDirectory p then .ok () else .error e, t)

/-- Makes a directory with all its parents; the empty path stands for the directory to begin in. -/
def makeDirectories (p : Path) (t : FileTree) : Except FileError Unit × FileTree :=
  if p.bytes = [] then (.ok (), t) else makeChain (p :: p.parents) t

def write (p : Path) (content : Bytes) (t : FileTree) : Except FileError Unit × FileTree :=
  match t.target p with
  | .error e => (.error e, t)
  | .ok .standing => (.error .isADirectory, t)
  | .ok (.entry place) =>
    if t.isDirectoryAt place ∨ p.endsInSlash then (.error .isADirectory, t)
    else (.ok (), t.put place (.file content))

def read (t : FileTree) (p : Path) : Except FileError Bytes := do
  checkPath p
  let spot ← t.walk p p.names
  match spot.node with
  | .file content => if p.endsInSlash then .error .notADirectory else pure content
  | .directory _ => .error .isADirectory

def listing (t : FileTree) : List (Bytes × Bytes) :=
  match t.node? t.home with
  | some node => (FileNode.listedEntries [] node.entries).mergeSort fun a b => !decide (b.1 < a.1)
  | none => []

end FileTree
end AutomatonChart
