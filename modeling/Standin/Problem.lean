import Standin.Buffer
import Standin.Diagnostic
import Standin.Key
import Standin.Reading

/-!
# Problems and notices

* `Problem`: why a text cannot be masked or unmasked;
* `Notice`: what is worth a remark but stops nothing;
* `Report`: a code, a message and, if the matter has a place, a diagnostic.
-/

namespace Standin

/-- Why a text cannot be masked or unmasked. -/
inductive Problem
  /-- What was handed over is no text. -/
  | unsupported (fault : SupplyFault)
  /-- The opening marker at `start` is never closed. -/
  | unclosed (document : Document) (markers : Markers) (start : Nat)
  /-- An opening marker stands at `inner` in the fragment that begins at `outer`. -/
  | nested (document : Document) (markers : Markers) (outer inner : Nat)
  /-- The token of an entry does not occur. -/
  | tokenMissing (key token : Text)
  /-- There is no key for a fragment. -/
  | noKey (fault : KeyFault)
  /-- A text that is to be handed back as octets has none. -/
  | lone (fault : Utf8.LoneFault)
deriving DecidableEq, Repr

/-- What is worth a remark. -/
inductive Notice
  /-- A closing marker stands outside all fragments. -/
  | stray (document : Document) (markers : Markers) (start : Nat)
  /-- A token does not occur, and its fragment is left out. -/
  | tokenDropped (token : Text)
deriving DecidableEq, Repr

/-- A code, a message and, perhaps, a diagnostic. -/
structure Report where
  code : Option String := none
  message : String
  diagnostic : Option Diagnostic := none
deriving DecidableEq, Repr

/-- The report in one line. -/
def Report.text (r : Report) : Except SpanFault String :=
  match r.diagnostic with
  | none => .ok r.message
  | some d => d.headline

/-- The words for a token that does not occur. -/
def missingText (token : Text) : String :=
  s!"placeholder {Text.quoted token} not found in text being restored"

namespace Problem

def unclosedDiagnostic (document : Document) (m : Markers) (start : Nat) : Diagnostic where
  message := s!"opening marker {Text.quoted m.opening.symbol} is never closed"
  severity := .error
  span := Span.ofWord start m.opening.symbol m.opening.symbol_ne
  document := document
  code := some "FM001"
  hint := some s!"add {Text.quoted m.closing.symbol} after the fragment"

def nestedDiagnostic (document : Document) (m : Markers) (outer inner : Nat) : Diagnostic where
  message := s!"opening marker {Text.quoted m.opening.symbol} inside an unclosed fragment"
  severity := .error
  span := Span.ofWord inner m.opening.symbol m.opening.symbol_ne
  document := document
  code := some "FM002"
  notes := ["nested or interleaved fragments are not supported"]
  related := [⟨"outer fragment opens here",
    Span.ofWord outer m.opening.symbol m.opening.symbol_ne, document⟩]

def diagnostic? : Problem → Option Diagnostic
  | unclosed document m start => some (unclosedDiagnostic document m start)
  | nested document m outer inner => some (nestedDiagnostic document m outer inner)
  | _ => none

/-- The code of a problem. A missing key and a lone surrogate have none. -/
def code? : Problem → Option String
  | unsupported _ => some "FM004"
  | unclosed .. => some "FM001"
  | nested .. => some "FM002"
  | tokenMissing .. => some "FM003"
  | noKey _ => none
  | lone _ => none

/-- The problem in words, without its place. -/
def message : Problem → String
  | unsupported fault => fault.message
  | unclosed document m start => (unclosedDiagnostic document m start).message
  | nested document m outer inner => (nestedDiagnostic document m outer inner).message
  | tokenMissing _ token => missingText token
  | noKey fault => fault.message
  | lone fault => fault.message

def report (p : Problem) : Report := ⟨p.code?, p.message, p.diagnostic?⟩

end Problem

namespace Notice

def strayDiagnostic (document : Document) (m : Markers) (start : Nat) : Diagnostic where
  message := s!"closing marker {Text.quoted m.closing.symbol} outside any fragment; kept as text"
  severity := .warn
  span := Span.ofWord start m.closing.symbol m.closing.symbol_ne
  document := document

def report : Notice → Report
  | stray document m start =>
    let d := strayDiagnostic document m start
    { message := d.message, diagnostic := some d }
  | tokenDropped token => { message := s!"{missingText token}; fragment dropped" }

end Notice

/-- Notices on the way and, at the end, a value or a problem. -/
structure Outcome (α : Type) where
  notices : List Notice
  result : Except Problem α

/-- The outcome with a notice in front. -/
def Outcome.note {α : Type} (n : Notice) (o : Outcome α) : Outcome α :=
  { o with notices := n :: o.notices }

/-- The outcome with a function applied to its value that may end in a problem. -/
def Outcome.andThen {α β : Type} (f : α → Except Problem β) (o : Outcome α) : Outcome β :=
  ⟨o.notices, o.result.bind f⟩

/-! ## What a reading of a document shows -/

namespace Reading

/-- The stray closing markers of a document as notices. -/
def notices (document : Document) (m : Markers) (r : Reading) : List Notice :=
  (r.strays m).map (Notice.stray document m)

/-- The pieces and the tail of a complete reading, or what stopped it. -/
def complete (document : Document) (m : Markers) (r : Reading) :
    Except Problem (List Piece × Text) :=
  match r.ending with
  | .complete tail => .ok (r.pieces, tail)
  | .unclosed gap _ => .error (.unclosed document m (r.stop m + gap.length))
  | .nested gap _ _ inner =>
    let outer := r.stop m + gap.length
    .error (.nested document m outer (outer + m.opening.length + inner))

end Reading

/-- The spans of the fragments of a document; stray markers are noticed on demand. -/
def Document.fragments (d : Document) (m : Markers) (noticeStrays : Bool) : Outcome (List Span) :=
  let reading := Reading.ofText m d.text
  { notices := if noticeStrays then reading.notices d m else []
    result := (reading.complete d m).map fun _ => reading.spans m }

end Standin
