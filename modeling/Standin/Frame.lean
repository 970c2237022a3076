import Standin.Diagnostic
import Standin.Text.Slice
import Standin.Text.Tab

/-!
# Code frames

A code frame shows the lines around a span, tabs expanded and long lines clipped, with carets below
the lines that the span touches. Columns count characters of the shown line from one.

* `FrameSettings`, `FrameFault`: how much is shown, and how; why that cannot be done;
* `clip`: a long line cut down around two columns;
* `FrameRow`, `rowOf`, `frameRow`, `frameRows`: the rows of a frame.
-/

namespace Standin

/-- How a code frame is drawn. -/
structure FrameSettings where
  /-- Lines shown before and after those of the span. -/
  contextLines : Int := 1
  tabWidth : Int := 4
  lineNumbers : Bool := true
  /-- How many related places are shown; below zero, how many of the last are left out. -/
  maxRelated : Int := 4
  /-- Lines that have more characters are clipped. -/
  maxLineWidth : Int := 72
deriving DecidableEq, Repr

/-- Why a frame cannot be drawn. -/
inductive FrameFault
  /-- The span reaches beyond the document. -/
  | span (fault : SpanFault)
  /-- The number of the last line is too long to be written. -/
  | lineNumber
  /-- The table of line starts has no such entry. -/
  | index
  /-- Tabs cannot have this width. -/
  | tabWidth
  /-- Carets would stand further to the left than can be counted. -/
  | indent
deriving DecidableEq, Repr

/-- A shown line and the columns `[first, last)` that carets stand under. -/
structure Clipped where
  text : Text
  first : Int
  last : Int
deriving DecidableEq, Repr

/-- The line cut down to `width` characters from a third of them before the column `first`; an
ellipsis stands in place of what was in front. -/
def clip (line : Text) (first last width : Int) : Clipped :=
  if line.length ≤ width then ⟨line, first, last⟩
  else
    let lo := max 0 (first - 1 - width / 3)
    let mark : Text := if 0 < lo then ['…'] else []
    let shown := mark ++ Text.slice line lo (lo + width)
    let shift := lo - mark.length
    ⟨shown, first - shift, min (last - shift) (shown.length + 1)⟩

/-- A row of a code frame: a line by its number, and the caret row below it, if there is one, as the
characters before the carets and the number of carets. -/
structure FrameRow where
  number : Nat
  shown : Clipped
  marked : Bool
deriving DecidableEq, Repr

/-- The number of carets below a row. -/
def FrameRow.carets (r : FrameRow) : Nat := (max 1 (r.shown.last - r.shown.first)).toNat

/-- How far from the left the carets of a row stand, `gutter` columns being taken by the line
number. -/
def FrameRow.offset (r : FrameRow) (gutter : Nat) : Int := gutter + r.shown.first - 1

/-- The blanks before the carets of a row. -/
def FrameRow.indent (r : FrameRow) (gutter : Nat) : Nat := (r.offset gutter).toNat

/-- A line without the carriage returns and line feeds at its end. -/
def bareLine (line : Text) : Text :=
  (line.reverse.dropWhile fun c : CodePoint => c = '\r' ∨ c = '\n').reverse

/-- An entry of a table of line starts. -/
def lookup (starts : List Nat) (i : Int) : Except FrameFault Nat :=
  if i < 0 then .error .index
  else
    match starts[i.toNat]? with
    | some start => .ok start
    | none => .error .index

/-- The text of a line among the given starts; behind the last entry of the table it goes up to the
end. -/
def lineText (text : Text) (starts : List Nat) (number : Nat) : Except FrameFault Text := do
  let start ← lookup starts (number - 1)
  let stop ← (if number < starts.length then lookup starts number else .ok text.length)
  return bareLine ((text.take stop).drop start)

/-- The column of the shown line at which the character of a column stands. -/
def shownColumn (tab : Text.TabWidth) (line : Text) (col : Nat) : Int :=
  (Text.expandTabs tab (line.take (col - 1))).length + 1

/-- The row of a line, given by its text, for a span from `start` to `stop`, given as lines and
columns. -/
def rowOf (f : FrameSettings) (tab : Text.TabWidth) (line : Text) (start stop : Nat × Nat)
    (number : Nat) : FrameRow :=
  let shown := Text.expandTabs tab line
  let first := if number = start.1 then shownColumn tab line start.2 else 1
  let last := if number = stop.1 then shownColumn tab line stop.2 else shown.length + 1
  ⟨number, clip shown first last f.maxLineWidth, start.1 ≤ number ∧ number ≤ stop.1⟩

/-- The least integer of 64 bits. -/
def leastOffset : Int := -9223372036854775808

/-- The row of a line of a text. Its carets can stand behind any number of blanks, none if the
number is negative, but the number has 64 bits. -/
def frameRow (f : FrameSettings) (text : Text) (starts : List Nat) (start stop : Nat × Nat)
    (gutter number : Nat) : Except FrameFault FrameRow := do
  let line ← lineText text starts number
  match Text.TabWidth.ofInt? f.tabWidth with
  | none => .error .tabWidth
  | some tab =>
    let row := rowOf f tab line start stop number
    if row.marked ∧ row.offset gutter < leastOffset then .error .indent else .ok row

/-- The numbers of the lines of a frame: the first, and the last or one less. -/
def frameLines (f : FrameSettings) (starts : List Nat) (start stop : Nat × Nat) : Int × Int :=
  (max 1 (start.1 - f.contextLines),
    min (max 1 (starts.length - 1 : Int)) (stop.1 + f.contextLines))

/-- The numbers from `lo` to `hi`. -/
def numbersBetween (lo hi : Int) : List Nat :=
  (List.range (hi + 1 - lo).toNat).map fun (i : Nat) => (lo + (i : Int)).toNat

/-- The columns in front of a shown line, by the number of the last line. -/
def FrameSettings.gutter (f : FrameSettings) (last : Int) : Nat :=
  if f.lineNumbers then (toString last).length + 3 else 0

def frameRows (f : FrameSettings) (d : Document) (s : Span) :
    Except FrameFault (List FrameRow) := do
  let start ← (d.lineCol s.start).mapError .span
  let stop ← (d.lineCol s.stop).mapError .span
  let starts := Text.lineStarts d.text
  let (lo, hi) := frameLines f starts start stop
  -- no line of a document has a number that is too long, but below zero there is no bound
  if hi < 0 ∧ ¬ Text.Writable hi.natAbs then .error .lineNumber
  else (numbersBetween lo hi).mapM (frameRow f d.text starts start stop (f.gutter hi))

end Standin
