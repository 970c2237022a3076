import Standin.Text.Basic

/-!
# Lines

A line ends at a line feed, a carriage return, the pair of both, a vertical tab, a form feed, one of
the separators U+001C to U+001E, a next-line character or a line or paragraph separator.

* `isLineEnd`, `lines`: the lines of a text, each with its terminator;
* `lineStarts`: where each line begins, closed by the end of the text;
* `lineCol`: the line and column of a position, both counted from one.
-/

namespace Standin.Text

/-- A character that ends a line. -/
def isLineEnd (c : CodePoint) : Bool :=
  c ∈ (['\n', '\r', '\x0b', '\x0c', '\x1c', '\x1d', '\x1e', '\u0085', '\u2028', '\u2029'] : Text)

/-- The lines of a text, each with its terminator; only the last one may lack it. -/
def lines : Text → List Text
  | [] => []
  | '\r' :: '\n' :: s => ['\r', '\n'] :: lines s
  | c :: s =>
    if isLineEnd c then [c] :: lines s
    else
      match lines s with
      | [] => [[c]]
      | l :: ls => (c :: l) :: ls

/-- The starts of lines that follow one another from `pos`, closed by the end of the last. -/
def startsFrom (pos : Nat) : List Text → List Nat
  | [] => [pos]
  | l :: ls => pos :: startsFrom (pos + l.length) ls

/-- The start of each line, and then the end of the text. -/
def lineStarts (s : Text) : List Nat := startsFrom 0 (lines s)

/-- How many of the starts are not behind a position. -/
def startsUpTo (starts : List Nat) (p : Nat) : Nat := (starts.takeWhile (· ≤ p)).length

theorem pred_startsUpTo_lt (s : Text) (p : Nat) :
    startsUpTo (lineStarts s) p - 1 < (lineStarts s).length := by
  have hpos : 0 < (lineStarts s).length := by
    unfold lineStarts
    cases lines s <;> exact Nat.succ_pos _
  have hle := (List.takeWhile_prefix (fun i => decide (i ≤ p)) (l := lineStarts s)).length_le
  exact Nat.lt_of_le_of_lt (Nat.sub_le_sub_right hle 1) (Nat.pred_lt_of_lt hpos)

/-- The line and column of a position of the text. The table has an entry for the line. -/
def lineCol (s : Text) (p : Nat) : Nat × Nat :=
  let line := startsUpTo (lineStarts s) p
  (line, p - (lineStarts s).get ⟨line - 1, pred_startsUpTo_lt s p⟩ + 1)

end Standin.Text
