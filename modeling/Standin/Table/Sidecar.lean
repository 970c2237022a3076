import Standin.FileTree
import Standin.Table.Saved

/-!
# Tables in files

* `Path.sidecar`: the path beside a document at which its table is kept;
* `Table.save`, `Table.load`: a table in a file; `Table.saveBeside`, `Table.loadBeside`: a table
  beside its document.
-/

namespace Standin

/-- Why a table cannot be kept in a file or had from it. -/
inductive KeepFault
  | file (fault : FileFault)
  | saved (fault : SavedFault)
  | path (fault : PathFault)
  /-- The texts of the table are not all characters. -/
  | lone (fault : Utf8.LoneFault)
deriving DecidableEq, Repr

/-- The path beside a document at which its table is kept. -/
def Path.sidecar (document : Path) : Except PathFault Path :=
  if document.name = [] then .error (.noName document)
  else .ok (document.withName (document.name ++ ".fragments.json".toList))

namespace Table

/-- The octets of a file that holds the table: its saved form with a line feed at the end. -/
def content (t : Table) : Except Utf8.LoneFault (List Utf8.Octet) :=
  t.write.map fun saved => Utf8.encode (saved ++ ['\n'])

/-- The table saved in a file. -/
def save (t : Table) (tree : FileTree) (p : Path) (host : Host := {}) :
    FileTree × Except KeepFault Unit :=
  let (tree, result) := tree.replace p t.content host
  (tree, result.mapError (Sum.elim .file .lone))

def load (tree : FileTree) (p : Path) : Except KeepFault Table :=
  match tree.read p with
  | .error fault => .error (.file fault)
  | .ok octets => (Table.read octets).mapError .saved

/-- The table saved beside a document, and the path of its file. -/
def saveBeside (t : Table) (tree : FileTree) (document : Path) (host : Host := {}) :
    FileTree × Except KeepFault Path :=
  match document.sidecar with
  | .error fault => (tree, .error (.path fault))
  | .ok p =>
    let (tree, result) := t.save tree p host
    (tree, result.map fun _ => p)

def loadBeside (tree : FileTree) (document : Path) : Except KeepFault Table :=
  match document.sidecar with
  | .error fault => .error (.path fault)
  | .ok p => load tree p

end Table

end Standin
