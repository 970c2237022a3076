import Standin.Text.Quoted

/-!
# Tables

A table says which fragment stands behind which key, in the order in which the keys were made.

* `Entries`: keys and fragments in order, no key twice; `Entries.put` and `Entries.ofList`: a key
  that comes again keeps its place and takes the new fragment;
* `Table`: entries with the stem and the length of their keys;
* `Table.get?`, `Table.tokens`, `Table.same`: its fragments, its tokens, equality up to order.
-/

namespace Standin

def keysOf (l : List (Text × Text)) : List Text := l.map Prod.fst

/-- The entries with a new one, or with a new fragment for a key that is there. -/
def putEntry (key fragment : Text) : List (Text × Text) → List (Text × Text)
  | [] => [(key, fragment)]
  | e :: l => if e.1 = key then (key, fragment) :: l else e :: putEntry key fragment l

theorem keysOf_putEntry (key fragment : Text) (l : List (Text × Text)) :
    keysOf (putEntry key fragment l) = if key ∈ keysOf l then keysOf l else keysOf l ++ [key] := by
  induction l with
  | nil => simp [putEntry, keysOf]
  | cons e l ih =>
    by_cases h : e.1 = key
    · simp [putEntry, keysOf, h]
    · have h' : ¬ key = e.1 := fun h' => h h'.symm
      simp only [keysOf] at ih ⊢
      simp only [putEntry, if_neg h, List.map_cons, ih, List.mem_cons, h', false_or]
      by_cases hk : key ∈ l.map Prod.fst <;> simp [hk]

/-- Keys and fragments in order, no key twice. -/
structure Entries where
  toList : List (Text × Text) := []
  nodup : (keysOf toList).Nodup := by exact List.nodup_nil
deriving DecidableEq, Repr

namespace Entries

/-- A new fragment for a key; a key that is there keeps its place. -/
def put (e : Entries) (key fragment : Text) : Entries where
  toList := putEntry key fragment e.toList
  nodup := by
    rw [keysOf_putEntry]
    split
    · exact e.nodup
    · next h =>
      refine List.nodup_append.mpr ⟨e.nodup, by simp, fun a ha b hb hab => h ?_⟩
      rw [List.mem_singleton.mp hb] at hab
      exact hab ▸ ha

/-- The entries of a list, put one after another. -/
def ofList (l : List (Text × Text)) : Entries :=
  l.foldl (fun e (key, fragment) => e.put key fragment) {}

def keys (e : Entries) : List Text := keysOf e.toList

def get? (e : Entries) (key : Text) : Option Text :=
  (e.toList.find? fun entry => entry.1 == key).map Prod.snd

/-- Every entry of the first is one of the second. -/
def subset (e f : Entries) : Bool := e.toList.all fun (key, fragment) => f.get? key == some fragment

end Entries

/-- The schema of tables that can be read. -/
def tableSchema : Int := 0

/-- Which fragment stands behind which key, and how tokens are made of keys. -/
structure Table where
  entries : Entries := {}
  stem : Text := ['F', 'R', 'A', 'G', 'M', 'E', 'N', 'T']
  keyLength : Int := 7
  schema : Int := tableSchema
deriving DecidableEq, Repr

/-- What can be wrong with a look-up in a table. -/
inductive LookupFault
  /-- The table has no such key. -/
  | noKey (key : Text)
deriving DecidableEq, Repr

def LookupFault.message : LookupFault → String
  | .noKey key => Text.quoted key

namespace Table

def size (t : Table) : Nat := t.entries.toList.length

def contains (t : Table) (key : Text) : Bool := t.entries.keys.elem key

def fragment (t : Table) (key : Text) : Except LookupFault Text :=
  match t.entries.get? key with
  | some fragment => .ok fragment
  | none => .error (.noKey key)

def token (t : Table) (key : Text) : Text := t.stem ++ key

def tokens (t : Table) : List Text := t.entries.keys.map t.token

/-- The tables agree but, perhaps, for the order of their entries. -/
def same (t u : Table) : Bool :=
  t.size == u.size && t.entries.subset u.entries &&
    t.stem == u.stem && t.keyLength == u.keyLength && t.schema == u.schema

end Table

end Standin
