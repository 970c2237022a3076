import Standin.Text.Quoted

/-!
# Paths

A path is its leading slashes and its parts. Empty parts and single dots drop out when a path is
read; double dots stay. Exactly two leading slashes are kept, any larger number counts as one.

* `Path`, `Path.ofText`, `Path.toText`;
* `Path.name`, `Path.parent`, `Path.withName`: the last part, and the path beside or above it.
-/

namespace Standin

/-- A part of a path: characters, of which none is a lone surrogate. -/
abbrev Name := List Char

/-- A path: how many slashes lead it, and its parts. -/
structure Path where
  slashes : Nat
  parts : List Name
deriving DecidableEq, Repr

namespace Path

/-- The slashes that lead a text, as a path keeps them. -/
def leadingSlashes (s : List Char) : Nat :=
  match (s.takeWhile (· = '/')).length with
  | 0 => 0
  | 2 => 2
  | _ => 1

def ofText (s : List Char) : Path where
  slashes := leadingSlashes s
  parts := (List.splitOn '/' s).filter fun p => p ≠ [] && p ≠ ['.']

/-- The text of a path; the empty path is a single dot. -/
def toText (p : Path) : List Char :=
  if p.slashes = 0 ∧ p.parts = [] then ['.']
  else List.replicate p.slashes '/' ++ List.intercalate ['/'] p.parts

/-- The last part, or nothing. -/
def name (p : Path) : Name := p.parts.getLast?.getD []

/-- The path without its last part. -/
def parent (p : Path) : Path := { p with parts := p.parts.dropLast }

/-- The path with another last part. -/
def withName (p : Path) (name : Name) : Path := { p with parts := p.parts.dropLast ++ [name] }

end Path

/-- Why a path has no neighbour of another name. -/
inductive PathFault
  /-- The path has no last part. -/
  | noName (path : Path)
deriving DecidableEq, Repr

def PathFault.message : PathFault → String
  | .noName path => s!"PosixPath({Text.quoted (Text.ofChars path.toText)}) has an empty name"

end Standin
