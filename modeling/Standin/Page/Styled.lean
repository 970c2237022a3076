import Standin.Text.Basic

/-!
# Styled texts

* `Run`, `Styled`: pieces of text, each in a style of its own over the style of the whole;
* `Styled.add`: one more piece, without the controls that move the cursor;
* `Styled.merged`: the runs with neighbours of one style joined.
-/

namespace Standin

/-- A piece of text in a style; the empty style is none. -/
structure Run where
  text : Text
  style : String
deriving DecidableEq, Repr

/-- A text in pieces. -/
structure Styled where
  style : String := ""
  runs : List Run := []
deriving DecidableEq, Repr

/-- A control that moves the cursor: bell, backspace, vertical tab, form feed, carriage return. -/
def movesCursor (c : CodePoint) : Bool := c ∈ (['\x07', '\x08', '\x0b', '\x0c', '\r'] : Text)

namespace Styled

/-- The text with one more piece. -/
def add (s : Styled) (style : String) (text : Text) : Styled :=
  { s with runs := s.runs ++ [⟨text.filter fun c => !movesCursor c, style⟩] }

def addPlain (s : Styled) (text : Text) : Styled := s.add "" text

/-- A text in the style of the whole. -/
def ofText (style : String) (text : Text) : Styled := ({ style := style : Styled }).addPlain text

def plain (s : Styled) : Text := s.runs.flatMap Run.text

/-- A run in front of others, joined with the first if their styles agree. -/
def mergeRun (r : Run) : List Run → List Run
  | [] => [r]
  | q :: l => if q.style = r.style then ⟨r.text ++ q.text, r.style⟩ :: l else r :: q :: l

/-- The runs that hold characters, neighbours of one style joined. -/
def merged (s : Styled) : List Run :=
  s.runs.foldr (fun r l => if r.text = [] then l else mergeRun r l) []

end Styled

end Standin
