import Standin.Text.Blank
import Standin.Text.Tab
import Standin.Text.Width

/-!
# Wrapping

Lines are broken between words so that each fits a width, counted in cells.

* `words`: a line as words, each with the blanks behind it;
* `fold`: a word too long for a line, in pieces;
* `crop`: a line cut to a width;
* `wrap`: the lines of a text.
-/

namespace Standin.Page

/-! ## Words -/

/-- A text that begins with no blank, parted where a character that is no blank follows a blank. -/
def wordsFrom : Text → List Text
  | [] => []
  | c :: s =>
    match wordsFrom s with
    | [] => [[c]]
    | w :: ws =>
      if Text.isBlank c && !(w.head?.any Text.isBlank) then [c] :: w :: ws else (c :: w) :: ws

/-- The words of a line, each with the blanks behind it; the first has those in front, too. -/
def words (line : Text) : List Text :=
  match wordsFrom (line.dropWhile Text.isBlank) with
  | [] => [line]
  | w :: ws => (line.takeWhile Text.isBlank ++ w) :: ws

/-- A word in pieces of at most `width` cells, `size` cells of the first being filled by `piece`. -/
def fold (width size : Nat) (piece : Text) : Text → List Text
  | [] => if size = 0 then [] else [piece]
  | c :: s =>
    if size + Text.charCells c ≤ width then fold width (size + Text.charCells c) (piece ++ [c]) s
    else piece :: fold width (Text.charCells c) [c] s

/-! ## Breaking -/

/-- Finished lines, the line that is being filled, and the cells that it takes. -/
structure Broken where
  done : List Text := []
  line : Text := []
  size : Nat := 0

namespace Broken

/-- A word at the end of the line. -/
def append (b : Broken) (word : Text) : Broken :=
  { b with line := b.line ++ word, size := b.size + Text.cells word }

/-- A word on a line of its own; no line is broken before the first word. -/
def next (b : Broken) (word : Text) : Broken :=
  if b.done = [] ∧ b.line = [] then ⟨[], word, Text.cells word⟩
  else ⟨b.done ++ [b.line], word, Text.cells word⟩

/-- One more word. Blanks behind it need no room. -/
def addWord (width : Nat) (b : Broken) (word : Text) : Broken :=
  let need := Text.cells (Text.trimEnd word)
  if b.size + need ≤ width then b.append word
  else if need ≤ width then b.next word
  else (fold width 0 [] word).foldl next b

def lines (b : Broken) : List Text := b.done ++ [b.line]

end Broken

/-! ## Fitting -/

/-- A line without those blanks at its end that go beyond `width` characters. -/
def dropBlanks (width : Nat) (line : Text) : Text :=
  let blanks := line.length - (Text.trimEnd line).length
  Text.dropEnd line (min blanks (line.length - width))

/-- A line cut to `width` cells; a blank stands for a wide character that is cut in two. -/
def crop : Nat → Text → Text
  | _, [] => []
  | width, c :: s =>
    if Text.charCells c ≤ width then c :: crop (width - Text.charCells c) s
    else List.replicate width (.char ' ')

/-- A line with its tabs expanded to every eighth cell. -/
def expandTabs (line : Text) : Text := Text.expandTabsFrom Text.charCells 8 0 line

/-- The lines that one line becomes. -/
def wrapLine (width : Nat) (line : Text) : List Text :=
  ((words (expandTabs line)).foldl (Broken.addWord width) {}).lines.map fun l =>
    crop width (dropBlanks width l)

/-- The lines of a text at a width. -/
def wrap (width : Nat) (s : Text) : List Text :=
  (List.splitOn (.char '\n') s).flatMap (wrapLine width)

end Standin.Page
