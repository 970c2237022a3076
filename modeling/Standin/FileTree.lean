import Standin.Path
import Standin.Text.Utf8

/-!
# File trees

A file tree is a finite map from locations to files and directories; the empty location is the root
and always a directory. Paths are walked part by part.

* `FileTree`, `FileTree.get?`, `FileTree.set`, `FileTree.remove`;
* `FileTree.locate`: the location of a path; all parts but the last have to be directories;
* `FileTree.read`, `FileTree.write`, `FileTree.makeDirectories`, `FileTree.renameTo`;
* `Host`: what the host decides by itself: the names of new files, and what it refuses although the
  tree allows it;
* `FileTree.replace`: a file written at one stroke. The octets go to a new file beside it, which is
  then renamed; if that fails, the new file is removed.
-/

namespace Standin

open Utf8 (Octet)

/-- Where a file or directory is: its name and those of the directories it is in, from the root. -/
abbrev Location := List Name

/-- What stands at a location. -/
inductive Node
  | directory
  | file (octets : List Octet)
deriving DecidableEq, Repr

/-- Why a file operation fails. -/
inductive FileFault
  /-- There is nothing at the place. -/
  | missing
  /-- There is a directory where a file is asked for. -/
  | isDirectory
  /-- There is a file on the way. -/
  | notDirectory
  /-- There is a file where a directory is to be. -/
  | exists
  /-- The last part of a path names no file that could be replaced. -/
  | busy
deriving DecidableEq, Repr

/-- What is asked of the host while a file is replaced. -/
inductive Request
  | makeDirectory (l : Location)
  | createFile (l : Location)
  | writeFile (l : Location)
  | rename (source target : Location)
deriving DecidableEq, Repr

/-- What the host decides by itself. -/
structure Host where
  /-- What tells the names of new files apart, in the order in which the names are tried. -/
  proposal : Nat → Name := fun i => List.replicate i '~'
  /-- Why a request is refused that the tree allows: there are no rights or there is no room. -/
  refusal : Request → Option FileFault := fun _ => none
  /-- How many octets of a file are written before the rest is refused. -/
  room : Nat := 0

/-- Files and directories by their locations. -/
structure FileTree where
  nodes : List (Location × Node) := []
deriving DecidableEq, Repr

namespace FileTree

def get? (t : FileTree) (l : Location) : Option Node :=
  if l = [] then some .directory else (t.nodes.find? fun n => n.1 == l).map Prod.snd

/-- The tree without what stands at a location. -/
def remove (t : FileTree) (l : Location) : FileTree := ⟨t.nodes.filter fun n => n.1 != l⟩

/-- The tree with something put at a location. -/
def set (t : FileTree) (l : Location) (node : Node) : FileTree := ⟨(l, node) :: (t.remove l).nodes⟩

/-! ## Walking -/

/-- The location one part further; two dots lead back. -/
def enter (l : Location) (part : Name) : Location :=
  if part = ['.', '.'] then l.dropLast else l ++ [part]

/-- The directory that the parts lead to. -/
def walk (t : FileTree) (l : Location) : List Name → Except FileFault Location
  | [] => .ok l
  | part :: parts =>
    match t.get? (enter l part) with
    | none => .error .missing
    | some (.file _) => .error .notDirectory
    | some .directory => walk t (enter l part) parts

def locate (t : FileTree) (p : Path) : Except FileFault Location :=
  match p.parts.getLast? with
  | none => .ok []
  | some last => (t.walk [] p.parts.dropLast).map fun l => enter l last

/-! ## Files and directories -/

def read (t : FileTree) (p : Path) : Except FileFault (List Octet) := do
  match t.get? (← t.locate p) with
  | none => .error .missing
  | some .directory => .error .isDirectory
  | some (.file octets) => .ok octets

/-- The tree with a file written at a location. -/
def writeAt (t : FileTree) (l : Location) (octets : List Octet) : Except FileFault FileTree :=
  match t.get? l with
  | some .directory => .error .isDirectory
  | _ => .ok (t.set l (.file octets))

/-- The tree with a file written. -/
def write (t : FileTree) (p : Path) (octets : List Octet) : Except FileFault FileTree := do
  t.writeAt (← t.locate p) octets

/-- The tree with the directories that the parts name, made as far as they are missing; if one
cannot be made, with those before it. Once some have been `made`, every part is to be a directory of
its own, and a file is no longer just on the way. -/
def makeParts (t : FileTree) (host : Host) (made : Bool) (l : Location) :
    List Name → FileTree × Except FileFault Location
  | [] => (t, .ok l)
  | part :: parts =>
    match t.get? (enter l part) with
    | some .directory => makeParts t host made (enter l part) parts
    | some (.file _) => (t, .error (if made ∨ parts = [] then .exists else .notDirectory))
    | none =>
      match host.refusal (.makeDirectory (enter l part)) with
      | some fault => (t, .error fault)
      | none => makeParts (t.set (enter l part) .directory) host true (enter l part) parts

/-- The tree with a directory and all directories above it. -/
def makeDirectories (t : FileTree) (p : Path) (host : Host := {}) :
    FileTree × Except FileFault Location :=
  t.makeParts host false [] p.parts

/-- The file at a location given a name in a directory, in place of a file of that name. -/
def renameTo (t : FileTree) (host : Host) (source directory : Location) (name : Name) :
    Except FileFault FileTree :=
  if name = [] ∨ name = ['.', '.'] then .error .busy
  else
    match t.get? source, t.get? (directory ++ [name]) with
    | none, _ => .error .missing
    | some _, some .directory => .error .isDirectory
    | some node, _ =>
      match host.refusal (.rename source (directory ++ [name])) with
      | some fault => .error fault
      | none => .ok ((t.remove source).set (directory ++ [name]) node)

/-! ## Replacing files -/

def maxTries : Nat := 10000

/-- The name of a new file beside the file of a name. -/
def temporaryName (name proposal : Name) : Name := '.' :: name ++ '.' :: proposal ++ ".tmp".toList

/-- Where a new file goes: to the first name from the `i`-th proposal on at which nothing stands. -/
def vacancy (t : FileTree) (host : Host) (directory : Location) (name : Name) :
    (tries i : Nat) → Except FileFault Location
  | 0, _ => .error .exists
  | tries + 1, i =>
    let l := directory ++ [temporaryName name (host.proposal i)]
    if (t.get? l).isNone then .ok l else vacancy t host directory name tries (i + 1)

/-- The tree with a new file beside the file of a name, still empty, and where it is. -/
def create (t : FileTree) (host : Host) (directory : Location) (name : Name) :
    Except FileFault (FileTree × Location) := do
  let l ← t.vacancy host directory name maxTries 0
  match host.refusal (.createFile l) with
  | some fault => .error fault
  | none => .ok (t.set l (.file []), l)

/-- The tree with octets in a file, or with as many of them as there is room for. -/
def fill (t : FileTree) (host : Host) (l : Location) (octets : List Octet) :
    FileTree × Except FileFault Unit :=
  match host.refusal (.writeFile l) with
  | some fault => (t.set l (.file (octets.take host.room)), .error fault)
  | none => (t.set l (.file octets), .ok ())

/-- The tree with a file written at one stroke, the directories above it made if need be. What is to
be written is asked for when the new file has been made, and there may be a fault instead of it. -/
def replace {ε : Type} (t : FileTree) (p : Path) (content : Except ε (List Octet))
    (host : Host := {}) : FileTree × Except (FileFault ⊕ ε) Unit :=
  match t.makeDirectories p.parent host with
  | (t, .error fault) => (t, .error (.inl fault))
  | (t, .ok directory) =>
    match t.create host directory p.name with
    | .error fault => (t, .error (.inl fault))
    | .ok (t, temporary) =>
      match content with
      | .error fault => (t.remove temporary, .error (.inr fault))
      | .ok octets =>
        match t.fill host temporary octets with
        | (t, .error fault) => (t.remove temporary, .error (.inl fault))
        | (t, .ok ()) =>
          match t.renameTo host temporary directory p.name with
          | .error fault => (t.remove temporary, .error (.inl fault))
          | .ok t => (t, .ok ())

/-! ## Listing -/

/-- The text of a location, a directory with a slash behind it. -/
def shownNode (n : Location × Node) : List Char :=
  List.intercalate ['/'] n.1 ++ if n.2 = .directory then ['/'] else []

/-- All files and directories in the order of their texts. -/
def list (t : FileTree) : List (List Char) :=
  (t.nodes.map shownNode).mergeSort Text.comesFirst

end FileTree

end Standin
