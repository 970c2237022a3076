import Standin.Text.Basic

/-!
# Sets of characters

A property of characters that a standard lists as ranges of code points.

* `CharSet`: the ranges, first and last code point each;
* `CharSet.mem`: membership.
-/

namespace Standin

/-- A set of characters as ranges of code points, both ends included. -/
abbrev CharSet := List (Nat × Nat)

/-- The character lies in one of the ranges. -/
def CharSet.mem (set : CharSet) (c : CodePoint) : Bool :=
  set.any fun (lo, hi) => lo ≤ c.toNat && c.toNat ≤ hi

end Standin
