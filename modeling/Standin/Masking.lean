import Standin.Problem
import Standin.Settings.Basic
import Standin.Table.Basic

/-!
# Masking

Masking puts a token in place of each fragment and keeps a table; unmasking puts the fragments back.

* `weave`: gaps and tokens in turn; `maskDocument`, `mask`: keys are drawn for the last fragment
  first, and the table has the same order;
* `unmaskText`, `unmask`: each entry replaces the first occurrence of its token in the text as it
  stands by then. A missing token is a problem in strict unmasking, else it is noticed.
-/

namespace Standin

/-! ## Masking -/

/-- The gaps of the pieces, each with a token behind it, and the tail. -/
def weave (token : Text → Text) : List Piece → List Text → Text → Text
  | p :: ps, key :: keys, tail => p.gap ++ token key ++ weave token ps keys tail
  | _, _, tail => tail

def Settings.keys (s : Settings) : Keys := ⟨s.keyLength, s.stem, s.keyLength_mem.1⟩

/-- A masked document and the table that unmasks it. -/
structure Masked (α : Type) where
  text : α
  table : Table

/-- The text in the form in which the document was handed over. -/
def Form.seal (form : Form) (s : Text) : Except Problem Buffer := (form.wrap s).mapError .lone

/-- The masked document with its text in the given form. -/
def Masked.seal (form : Form) (m : Masked Text) : Except Problem (Masked Buffer) :=
  (form.seal m.text).map fun b => ⟨b, m.table⟩

/-- The document with a token in place of each fragment. -/
def maskDocument (s : Settings) (d : Document) (draws : Draws) :
    Draws × Outcome (Masked Text) :=
  let reading := Reading.ofText s.markers d.text
  let notices := if s.noticeStrays.isOn then reading.notices d s.markers else []
  match reading.complete d s.markers with
  | .error problem => (draws, ⟨notices, .error problem⟩)
  | .ok (pieces, tail) =>
    match s.keys.nextMany d.text pieces.length [] draws with
    | (draws, .error fault) => (draws, ⟨notices, .error (.noKey fault)⟩)
    | (draws, .ok keys) =>
      let fragments := (pieces.map (Piece.fragment s.markers)).reverse
      let table : Table :=
        { entries := Entries.ofList (keys.zip fragments), stem := s.stem, keyLength := s.keyLength }
      (draws, ⟨notices, .ok ⟨weave s.token pieces keys.reverse tail, table⟩⟩)

/-- A document as it is handed over, with a token in place of each fragment. -/
def mask (s : Settings) (supply : Supply) (file : Option Path) (draws : Draws) :
    Draws × Outcome (Masked Buffer) :=
  match supply.read with
  | .error fault => (draws, ⟨[], .error (.unsupported fault)⟩)
  | .ok (text, form) =>
    let (draws, outcome) := maskDocument s ⟨text, file⟩ draws
    (draws, outcome.andThen (Masked.seal form))

/-! ## Unmasking -/

/-- The text with the fragments of the entries in place of their tokens. -/
def unmaskText (strict : Bool) (stem : Text) : List (Text × Text) → Text → Outcome Text
  | [], s => ⟨[], .ok s⟩
  | (key, fragment) :: entries, s =>
    match Text.cut (stem ++ key) s with
    | some (before, after) => unmaskText strict stem entries (before ++ fragment ++ after)
    | none =>
      if strict then ⟨[], .error (.tokenMissing key (stem ++ key))⟩
      else (unmaskText strict stem entries s).note (.tokenDropped (stem ++ key))

/-- A document as it is handed over, with the fragments of a table in place of their tokens. -/
def unmask (s : Settings) (table : Table) (supply : Supply) : Outcome Buffer :=
  match supply.read with
  | .error fault => ⟨[], .error (.unsupported fault)⟩
  | .ok (text, form) =>
    (unmaskText s.strict.isOn table.stem table.entries.toList text).andThen form.seal

/-! ## Both at once -/

/-- The buffer in octets. -/
def Buffer.inOctets : Buffer → Except Problem Buffer
  | .text t => Form.octets.seal t
  | .octets b => .ok (.octets b)

/-- What is handed back for a document: octets, if it was handed over as octets. -/
def Supply.handBack : Supply → Buffer → Except Problem Buffer
  | .buffer (.octets _), b => b.inOctets
  | _, b => .ok b

/-- A document masked, transformed and unmasked. The transform sees text; a text that it returns
is handed back in the form in which the document came. -/
def roundTrip (s : Settings) (transform : Text → Supply) (supply : Supply) (draws : Draws) :
    Draws × Outcome Buffer :=
  match mask s supply none draws with
  | (draws, ⟨notices, .error problem⟩) => (draws, ⟨notices, .error problem⟩)
  | (draws, ⟨notices, .ok masked⟩) =>
    match masked.text.read with
    | .error fault => (draws, ⟨notices, .error (.unsupported fault)⟩)
    | .ok (shown, _) =>
      let outcome := unmask s masked.table (transform shown)
      (draws, ⟨notices ++ outcome.notices, outcome.result.bind supply.handBack⟩)

end Standin
