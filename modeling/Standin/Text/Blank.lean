import Standin.Text.CharSet

/-!
# Blanks

* `blanks`, `isBlank`: the white space of Unicode 14 and the four ASCII information separators;
* `trimEnd`, `trim`: a text without the blanks at its end, or at both ends;
* `splitWords`: the words between blanks.
-/

namespace Standin.Text

/-- The characters that are blank. -/
def blanks : CharSet :=
  [(0x9, 0xD), (0x1C, 0x20), (0x85, 0x85), (0xA0, 0xA0), (0x1680, 0x1680), (0x2000, 0x200A),
   (0x2028, 0x2029), (0x202F, 0x202F), (0x205F, 0x205F), (0x3000, 0x3000)]

def isBlank (c : CodePoint) : Bool := blanks.mem c

/-- The text without the blanks at its end. -/
def trimEnd (s : Text) : Text := (s.reverse.dropWhile isBlank).reverse

/-- The text without the blanks at its ends. -/
def trim (s : Text) : Text := trimEnd (s.dropWhile isBlank)

/-- The words between blanks. -/
def splitWords (s : Text) : List Text :=
  (List.splitOn (.char ' ') (s.map fun c => if isBlank c then .char ' ' else c)).filter (· ≠ [])

end Standin.Text
