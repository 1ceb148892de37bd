import AutomatonChart.Delivery.Page
import AutomatonChart.Delivery.Renderer
import AutomatonChart.Files.Tree

/-! # Directories

Diagrams written as files of one directory, which is made when it is needed. Each pane has a file
of its own.
-/
namespace AutomatonChart

inductive OutputFormat where
  | mmd
  | html
deriving DecidableEq, Repr

namespace OutputFormat

def text : OutputFormat → String
  | .mmd => "mmd"
  | .html => "html"

def ofText? (s : String) : Option OutputFormat := [mmd, html].find? (·.text = s)

end OutputFormat

/-- Operations on files; each may fail with a reason. -/
structure FileStore (m : Type → Type) where
  makeDirectories : Path → m (Except String Unit)
  write : Path → Bytes → m (Except String Unit)

namespace Directory

def fileName (format : OutputFormat) (role : Role) : String := role.name ++ "." ++ format.text

def pathFor (dir : Path) (format : OutputFormat) (role : Role) : Path :=
  dir.join (fileName format role)

def contents (format : OutputFormat) (role : Role) (diagram : String) : String :=
  match format with
  | .mmd => diagram
  | .html => Page.html role.name diagram

def renderer {m : Type → Type} [Monad m] (store : FileStore m) (dir : Path)
    (format : OutputFormat) : Renderer m := fun role diagram => do
  let path := pathFor dir format role
  match ← store.makeDirectories dir with
  | .error reason => pure (.error (.file path reason))
  | .ok () =>
    match ← store.write path (Utf8.encode (contents format role diagram)) with
    | .error reason => pure (.error (.file path reason))
    | .ok () => pure (.ok ())

end Directory

def FileTree.store : FileStore (StateM FileTree) where
  makeDirectories p t := ((FileTree.makeDirectories p t).1.mapError FileError.message,
    (FileTree.makeDirectories p t).2)
  write p content t := ((FileTree.write p content t).1.mapError FileError.message,
    (FileTree.write p content t).2)

end AutomatonChart
