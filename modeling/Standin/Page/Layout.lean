import Standin.Page.Part
import Standin.Page.Wrap

/-!
# Layout

* `titled`: a line of a panel's frame with a title in its middle;
* `boxed`: a text in a panel, wide enough for its longest line and its title but no wider than the
  page;
* `Part.lines`, `layout`: the lines of a part, and all parts as one text.
-/

namespace Standin.Page

/-- A line filled with blanks up to `width` cells. -/
def padRight (width : Nat) (line : Text) : Text :=
  line ++ List.replicate (width - Text.cells line) (.char ' ')

/-- The horizontal line of a frame. -/
def dashes (n : Nat) : Text := List.replicate n (.char '─')

/-- A title with a blank on both sides in the middle of a line of `width` cells. -/
def titled (width : Nat) (title : Text) : Text :=
  let shown := crop width (.char ' ' :: title ++ [.char ' '])
  let free := width - Text.cells shown
  dashes (free / 2) ++ shown ++ dashes (free - free / 2)

/-- The title of a panel has one line. -/
def titleLine (title : Text) : Text :=
  expandTabs (title.map fun c : CodePoint => if c = '\n' then .char ' ' else c)

/-- The cells between the sides of a panel. -/
def panelWidth (width : Nat) (body title : Text) : Nat :=
  let longest := ((List.splitOn (.char '\n') body).map Text.cells).foldl max 0
  min (width - 2) (max (longest + 2) (Text.cells title + 4))

/-- A text in a panel. -/
def boxed (width : Nat) (body title : Text) : List Text :=
  let title := titleLine title
  let inner := panelWidth width body title
  let top : Text :=
    if inner ≤ 2 then dashes inner else .char '─' :: titled (inner - 2) title ++ [.char '─']
  let sides (line : Text) : Text :=
    Text.ofString "│ " ++ padRight (inner - 2) line ++ Text.ofString " │"
  (.char '╭' :: top ++ [.char '╮']) :: (wrap (inner - 2) body).map sides ++
    [.char '╰' :: dashes inner ++ [.char '╯']]

end Standin.Page

namespace Standin

/-- The lines of a part on a page of some width. -/
def Part.lines (width : Nat) : Part → List Text
  | .text s => Page.wrap width s.plain
  | .rule _ => [Page.dashes width]
  | .panel body title _ => Page.boxed width body.plain title.plain

/-- Lines, each with a line feed behind it. -/
def Page.ofLines (lines : List Text) : Text := lines.flatMap (· ++ [.char '\n'])

/-- The parts as one text. -/
def Page.layout (width : Nat) (parts : List Part) : Text :=
  Page.ofLines (parts.flatMap (Part.lines width))

end Standin
