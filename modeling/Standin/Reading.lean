import Standin.Marker
import Standin.Span

/-!
# Readings

A text is read from left to right into gaps of plain text and fragments. Each opening marker goes
with the first closing marker after it; a fragment may hold no opening marker.

* `Piece`, `Ending`, `Reading`: what a text is read into, and how the reading ends;
* `Reading.ofText`: the reading of a text;
* `Reading.spans`, `Reading.strays`: where the fragments stand, and where a closing marker stands
  in a gap.
-/

namespace Standin

/-- A gap and the inside of the fragment that follows it. -/
structure Piece where
  gap : Text
  body : Text
deriving DecidableEq, Repr

/-- How a reading ends. -/
inductive Ending
  /-- No opening marker is left in the tail. -/
  | complete (tail : Text)
  /-- No closing marker follows the opening marker after the gap. -/
  | unclosed (gap rest : Text)
  /-- The fragment after the gap holds an opening marker at the given place of its inside. -/
  | nested (gap body rest : Text) (inner : Nat)
deriving DecidableEq, Repr

/-- The pieces of a text up to its end or up to a fragment that cannot be completed. -/
structure Reading where
  pieces : List Piece
  ending : Ending
deriving DecidableEq, Repr

namespace Piece

/-- The whole fragment. -/
def fragment (m : Markers) (p : Piece) : Text := m.opening.symbol ++ p.body ++ m.closing.symbol

theorem fragment_ne (m : Markers) (p : Piece) : p.fragment m ≠ [] := by
  simp [fragment, m.opening.symbol_ne]

/-- The number of characters of gap and fragment. -/
def length (m : Markers) (p : Piece) : Nat := p.gap.length + (p.fragment m).length

end Piece

/-- The plain text that was read last. -/
def Ending.gap : Ending → Text
  | .complete tail => tail
  | .unclosed gap _ => gap
  | .nested gap _ _ _ => gap

namespace Reading

def push (p : Piece) (r : Reading) : Reading := { r with pieces := p :: r.pieces }

def ofText (m : Markers) (s : Text) : Reading :=
  match h : Text.cut m.opening.symbol s with
  | none => ⟨[], .complete s⟩
  | some (gap, rest) =>
    match h' : Text.cut m.closing.symbol rest with
    | none => ⟨[], .unclosed gap rest⟩
    | some (body, after) =>
      match Text.find? m.opening.symbol body with
      | some inner => ⟨[], .nested gap body after inner⟩
      | none =>
        have := Text.length_lt_of_cut m.opening.symbol_ne h
        have := Text.length_lt_of_cut m.closing.symbol_ne h'
        (ofText m after).push ⟨gap, body⟩
termination_by s.length

/-! ## Places -/

/-- The spans of the fragments of pieces that begin at `pos`. -/
def spansFrom (m : Markers) (pos : Nat) : List Piece → List Span
  | [] => []
  | p :: ps =>
    Span.ofWord (pos + p.gap.length) (p.fragment m) (p.fragment_ne m) ::
      spansFrom m (pos + p.length m) ps

def spans (m : Markers) (r : Reading) : List Span := spansFrom m 0 r.pieces

/-- The position behind the pieces. -/
def stop (m : Markers) (r : Reading) : Nat :=
  r.pieces.foldr (fun p n => p.length m + n) 0

/-- The stray closing markers in the gaps of pieces that begin at `pos` and in the gap `last`. -/
def straysFrom (m : Markers) (last : Text) (pos : Nat) : List Piece → List Nat
  | [] => Text.occurrencesFrom m.closing.symbol pos last
  | p :: ps =>
    Text.occurrencesFrom m.closing.symbol pos p.gap ++ straysFrom m last (pos + p.length m) ps

/-- Where a closing marker stands outside all fragments. -/
def strays (m : Markers) (r : Reading) : List Nat := straysFrom m r.ending.gap 0 r.pieces

end Reading

end Standin
