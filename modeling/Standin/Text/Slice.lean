import Standin.Text.Basic

/-!
# Slices

* `slice`: the characters from one bound up to another. A bound below zero counts from the end, and
  bounds beyond the text are moved to its ends.
-/

namespace Standin.Text

/-- The position that a bound means in a text of `n` characters. -/
def bound (n : Nat) (i : Int) : Nat := if i < 0 then (i + n).toNat else min i.toNat n

/-- The characters between two bounds. -/
def slice (s : Text) (start stop : Int) : Text :=
  (s.take (bound s.length stop)).drop (bound s.length start)

end Standin.Text
