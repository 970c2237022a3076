import Standin.Json.Quoted
import Standin.Json.Token
import Standin.Table.Basic
import Standin.Text.Numeral

/-!
# Saved tables

A table is saved as a JSON object with the fields entries, prefix, key_length and schema.

* `Table.write`: the saved form, without blanks, the fields always all and in this order;
* `Table.read`: the table of octets. Fields may stand in any order and may be missing; of a field or
  key that stands twice the last value counts; unknown fields are skipped. The reader goes through
  the tokens with one `step` each, so the first fault from the left is the one it reports;
* `SavedFault`: why octets are no saved table.
-/

namespace Standin

open Json (Token)
open Utf8 (Octet)

namespace Table

/-! ## Writing -/

/-- A text as a string, if no surrogate stands alone in it. -/
def writeText (s : Text) : Except Utf8.LoneFault (List Char) := (Utf8.chars? s).map Json.quote

/-- An entry as a member of an object. -/
def writeEntry (entry : Text × Text) : Except Utf8.LoneFault (List Char) := do
  return (← writeText entry.1) ++ ':' :: (← writeText entry.2)

def writeInt (n : Int) : List Char :=
  if n < 0 then '-' :: Text.decimal n.natAbs else Text.decimal n.natAbs

/-- The saved form of a table. -/
def write (t : Table) : Except Utf8.LoneFault (List Char) := do
  let entries ← t.entries.toList.mapM writeEntry
  let stem ← writeText t.stem
  return "\x7b\"entries\":\x7b".toList ++ List.intercalate [','] entries ++
    "\x7d,\"prefix\":".toList ++ stem ++
    ",\"key_length\":".toList ++ writeInt t.keyLength ++
    ",\"schema\":".toList ++ writeInt t.schema ++ ['\x7d']

end Table

/-! ## Faults -/

/-- The kinds of JSON values. -/
inductive JsonKind
  | object
  | array
  | string
  | int
  | float
  | bool
  | null
deriving DecidableEq, Repr

inductive SavedField
  | entries
  | stem
  | keyLength
  | schema
deriving DecidableEq, Repr

/-- A place in a saved table. -/
inductive SavedPlace
  | whole
  | field (field : SavedField)
  | entry
deriving DecidableEq, Repr

/-- Why octets are no saved table. -/
inductive SavedFault
  /-- The octets are no JSON. -/
  | malformed
  /-- A value has another kind than its place asks for. -/
  | kind (expected found : JsonKind) (place : SavedPlace)
  /-- A number is too large for a double. -/
  | tooLarge (place : SavedPlace)
  /-- A string is no text. -/
  | notText (fault : Utf8.Fault)
  /-- The table has a schema that cannot be read. -/
  | schema (found : Int)
deriving DecidableEq, Repr

def JsonKind.name : JsonKind → String
  | object => "object"
  | array => "array"
  | string => "str"
  | int => "int"
  | float => "float"
  | bool => "bool"
  | null => "null"

namespace SavedField

/-- All fields, in the order in which they are written. -/
def all : List SavedField := [entries, stem, keyLength, schema]

def name : SavedField → String
  | entries => "entries"
  | stem => "prefix"
  | keyLength => "key_length"
  | schema => "schema"

/-- The field of a name. -/
def ofOctets? (octets : List Octet) : Option SavedField :=
  all.find? fun f => f.name.toList.map Json.octet == octets

end SavedField

/-- The place at the end of a message; the whole has none. -/
def SavedPlace.suffix : SavedPlace → String
  | whole => ""
  | field f => s!" - at `$.{f.name}`"
  | entry => " - at `$.entries[...]`"

def SavedFault.message : SavedFault → String
  | malformed => "malformed JSON"
  | kind expected found place => s!"Expected `{expected.name}`, got `{found.name}`{place.suffix}"
  | tooLarge place => s!"Number out of range{place.suffix}"
  | notText fault => fault.message
  | schema found => s!"Unsupported fragment table schema {found} (expected {tableSchema})"

/-! ## Skipping values of unknown fields -/

/-- What may come next in a value that is skipped. -/
inductive Await
  /-- A value. -/
  | value
  /-- A value or the end of the array. -/
  | firstItem
  /-- A key or the end of the object. -/
  | firstKey
  /-- A key. -/
  | key
  | colon
  /-- A comma or the end of the array or object. -/
  | more
deriving DecidableEq, Repr

/-- A value that is skipped: the brackets that are open, the innermost one first, an object being
`true`; and what may come next. -/
structure Skip where
  opened : List Bool := []
  await : Await := .value
deriving DecidableEq, Repr

/-- A value has ended. -/
def Skip.ended (opened : List Bool) : Option Skip :=
  if opened.isEmpty then none else some ⟨opened, .more⟩

/-- The value that begins with a token; the inner `none` says that it has ended. -/
def Skip.begin (opened : List Bool) : Token → Option (Option Skip)
  | .braceOpen => some (some ⟨true :: opened, .firstKey⟩)
  | .bracketOpen => some (some ⟨false :: opened, .firstItem⟩)
  | .null | .bool _ | .string _ | .int _ | .float _ => some (Skip.ended opened)
  | _ => none

/-- One more token of a value that is skipped; `none` says that it cannot stand there, the inner
`none` that the value has ended. -/
def Skip.step (s : Skip) (t : Token) : Option (Option Skip) :=
  match s.await, t with
  | .value, t => Skip.begin s.opened t
  | .firstItem, .bracketClose => some (Skip.ended s.opened.tail)
  | .firstItem, t => Skip.begin s.opened t
  | .firstKey, .braceClose => some (Skip.ended s.opened.tail)
  | .firstKey, .string _ => some (some ⟨s.opened, .colon⟩)
  | .key, .string _ => some (some ⟨s.opened, .colon⟩)
  | .colon, .colon => some (some ⟨s.opened, .value⟩)
  | .more, .comma =>
    some (some ⟨s.opened, if s.opened.head? = some true then .key else .value⟩)
  | .more, .braceClose =>
    if s.opened.head? = some true then some (Skip.ended s.opened.tail) else none
  | .more, .bracketClose =>
    if s.opened.head? = some false then some (Skip.ended s.opened.tail) else none
  | _, _ => none

/-! ## Reading -/

/-- How far a saved table has been read. -/
inductive Phase
  | start
  /-- A key; or, right after the opening bracket, the end. -/
  | key (first : Bool)
  | colon (field : Option SavedField)
  | value (field : SavedField)
  /-- A comma or the end. -/
  | more
  | skipping (skip : Skip)
  | entryKey (first : Bool) (entries : Entries)
  | entryColon (key : Text) (entries : Entries)
  | entryValue (key : Text) (entries : Entries)
  | entryMore (entries : Entries)
  | finished
deriving DecidableEq, Repr

/-- The table as far as it has been read. -/
structure Progress where
  table : Table := {}
  phase : Phase := .start
deriving DecidableEq, Repr

/-- The kind of the value that begins with a token. -/
def kindOf? : Token → Option JsonKind
  | .braceOpen => some .object
  | .bracketOpen => some .array
  | .null => some .null
  | .bool _ => some .bool
  | .string _ => some .string
  | .int _ => some .int
  | .float _ => some .float
  | _ => none

/-- The fault of a token where a value of another kind is asked for. -/
def refuse (expected : JsonKind) (place : SavedPlace) (t : Token) : SavedFault :=
  match t, kindOf? t with
  | .float true, _ => .tooLarge place
  | _, some found => .kind expected found place
  | _, none => .malformed

/-- The text of a string. -/
def textOf (octets : List Octet) : Except SavedFault Text :=
  ((Utf8.decode octets).map Text.ofChars).mapError .notText

namespace Progress

/-- The same table in another phase. -/
def goTo (p : Progress) (phase : Phase) : Progress := { p with phase }

/-- The token with which the value of a field begins. -/
def readValue (p : Progress) (field : SavedField) (t : Token) : Except SavedFault Progress :=
  match field, t with
  | .entries, .braceOpen => .ok (p.goTo (.entryKey true {}))
  | .entries, t => .error (refuse .object (.field .entries) t)
  | .stem, .string octets => (textOf octets).map fun stem => ⟨{ p.table with stem }, .more⟩
  | .stem, t => .error (refuse .string (.field .stem) t)
  | .keyLength, .int n => .ok ⟨{ p.table with keyLength := n }, .more⟩
  | .keyLength, t => .error (refuse .int (.field .keyLength) t)
  | .schema, .int n => .ok ⟨{ p.table with schema := n }, .more⟩
  | .schema, t => .error (refuse .int (.field .schema) t)

def step (p : Progress) (t : Token) : Except SavedFault Progress :=
  match p.phase, t with
  | .start, .braceOpen => .ok (p.goTo (.key true))
  | .start, t => .error (refuse .object .whole t)
  | .key _, .string octets => .ok (p.goTo (.colon (SavedField.ofOctets? octets)))
  | .key true, .braceClose => .ok (p.goTo .finished)
  | .colon (some field), .colon => .ok (p.goTo (.value field))
  | .colon none, .colon => .ok (p.goTo (.skipping {}))
  | .value field, t => p.readValue field t
  | .more, .comma => .ok (p.goTo (.key false))
  | .more, .braceClose => .ok (p.goTo .finished)
  | .skipping skip, t =>
    match skip.step t with
    | none => .error .malformed
    | some none => .ok (p.goTo .more)
    | some (some skip) => .ok (p.goTo (.skipping skip))
  | .entryKey _ entries, .string octets =>
    (textOf octets).map fun key => p.goTo (.entryColon key entries)
  | .entryKey true entries, .braceClose => .ok ⟨{ p.table with entries }, .more⟩
  | .entryColon key entries, .colon => .ok (p.goTo (.entryValue key entries))
  | .entryValue key entries, .string octets =>
    (textOf octets).map fun fragment => p.goTo (.entryMore (entries.put key fragment))
  | .entryValue _ _, t => .error (refuse .string .entry t)
  | .entryMore entries, .comma => .ok (p.goTo (.entryKey false entries))
  | .entryMore entries, .braceClose => .ok ⟨{ p.table with entries }, .more⟩
  | _, _ => .error .malformed

/-- The table, if it has been read to its end. -/
def finish (p : Progress) : Except SavedFault Table :=
  if p.phase = .finished then .ok p.table else .error .malformed

end Progress

/-- The saved table of octets, whatever its schema. -/
def Table.readAny (octets : List Octet) : Except SavedFault Table :=
  (Json.tokens octets).foldlM Progress.step {} >>= Progress.finish

/-- The saved table of octets. -/
def Table.read (octets : List Octet) : Except SavedFault Table := do
  let table ← Table.readAny octets
  if table.schema = tableSchema then .ok table else .error (.schema table.schema)

end Standin
