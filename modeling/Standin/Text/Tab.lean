import Standin.Text.Basic

/-!
# Tabs

* `expandTabsFrom`: a text with blanks up to the next tab stop in place of each tab, by a measure of
  characters. Stops stand at every multiple of the width; at a width below one a tab disappears;
* `TabWidth`, `expandTabs`: the same where every character counts one, for a width of 32 bits.
-/

namespace Standin.Text

/-- The blanks that a tab at column `col` stands for. -/
def tabFill (width : Int) (col : Nat) : Nat :=
  if width ≤ 0 then 0 else width.toNat - col % width.toNat

/-- Tabs expanded in a text that begins at column `col`, by the columns of each character. -/
def expandTabsFrom (columns : CodePoint → Nat) (width : Int) (col : Nat) : Text → Text
  | [] => []
  | c :: s =>
    if c = '\t' then
      List.replicate (tabFill width col) (.char ' ') ++
        expandTabsFrom columns width (col + tabFill width col) s
    else
      c :: expandTabsFrom columns width (if c = '\n' ∨ c = '\r' then 0 else col + columns c) s

/-- An integer of 32 bits. -/
def TabWidth.Fits (n : Int) : Prop := -2147483648 ≤ n ∧ n < 2147483648

instance (n : Int) : Decidable (TabWidth.Fits n) :=
  inferInstanceAs (Decidable (-2147483648 ≤ n ∧ n < 2147483648))

/-- A width that tabs can be given. -/
structure TabWidth where
  value : Int
  fits : TabWidth.Fits value
deriving DecidableEq, Repr

def TabWidth.ofInt? (n : Int) : Option TabWidth :=
  if h : TabWidth.Fits n then some ⟨n, h⟩ else none

/-- Tabs expanded, every character taking one column. -/
def expandTabs (width : TabWidth) (s : Text) : Text := expandTabsFrom (fun _ => 1) width.value 0 s

end Standin.Text
