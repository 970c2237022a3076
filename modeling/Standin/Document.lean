import Standin.Path
import Standin.Span
import Standin.Text.Line

/-!
# Documents

* `Document`: a text and, perhaps, the path it was read from;
* `Document.label`: the name that messages use;
* `Document.slice`, `Document.fullSpan`, `Document.lineCol`: its stretches and places.
-/

namespace Standin

/-- A text and where it was read from. -/
structure Document where
  text : Text
  file : Option Path := none
deriving DecidableEq, Repr

namespace Document

/-- The name of the document in messages. -/
def label (d : Document) : String :=
  match d.file with
  | some path => String.ofList path.toText
  | none => "<string>"

/-- The span of the whole document; an empty one has none. -/
def fullSpan (d : Document) : Except SpanFault Span := Span.between 0 d.text.length

def slice (d : Document) (s : Span) : Except SpanFault Text :=
  if s.stop ≤ d.text.length then .ok ((d.text.drop s.start).take s.length) else .error .outside

/-- The line and column of a position; the end of the text is one, too. -/
def lineCol (d : Document) (p : Int) : Except SpanFault (Nat × Nat) :=
  if 0 ≤ p ∧ p ≤ d.text.length then .ok (Text.lineCol d.text p.toNat)
  else .error (.beyond p d.text.length)

end Document

end Standin
