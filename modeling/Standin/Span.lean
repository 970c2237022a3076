import Standin.Text.Numeral

/-!
# Positions and spans

* `Position`: an integer that counts characters, with its order and differences;
* `Span`: a non-empty stretch `[start, stop)` of positions that are not negative;
* `SpanFault`: why two positions bound no span, or a span or position lies outside a document.
-/

namespace Standin

/-- A position in a document, as a count of characters. -/
structure Position where
  value : Int
deriving DecidableEq, Repr

namespace Position

/-- The position `n` characters further. -/
def advance (p : Position) (n : Int) : Position := ⟨p.value + n⟩

/-- The position `n` characters back. -/
def retreat (p : Position) (n : Int) : Position := ⟨p.value - n⟩

/-- The characters from `q` to `p`. -/
def distance (p q : Position) : Int := p.value - q.value

instance : LT Position := ⟨fun p q => p.value < q.value⟩
instance : LE Position := ⟨fun p q => p.value ≤ q.value⟩
instance (p q : Position) : Decidable (p < q) := inferInstanceAs (Decidable (p.value < q.value))
instance (p q : Position) : Decidable (p ≤ q) := inferInstanceAs (Decidable (p.value ≤ q.value))

/-- The position as a message shows it. -/
def shown (p : Position) : String := s!"SourceIndex({p.value})"

/-- Words about a position, or those for one that is too long to be written. -/
def say (p : Position) (words : String → String) : String :=
  Text.sayNumber p.value fun _ => words p.shown

end Position

/-- A non-empty stretch of a document: `start` belongs to it, `stop` does not. -/
structure Span where
  start : Nat
  stop : Nat
  start_lt_stop : start < stop
deriving DecidableEq, Repr

/-- What can be wrong with positions. -/
inductive SpanFault
  /-- A span cannot begin before the document. -/
  | negative (start : Position)
  /-- A span has to hold a character. -/
  | empty (start stop : Position)
  /-- The span reaches beyond the document. -/
  | outside
  /-- The position lies beyond a document of the given length. -/
  | beyond (position : Int) (length : Nat)
deriving DecidableEq, Repr

def SpanFault.message : SpanFault → String
  | .negative start =>
    start.say fun start => s!"SourceSpan.start cannot be negative (got {start})"
  | .empty start stop =>
    stop.say fun stop => start.say fun start => s!"SourceSpan.end ({stop}) <= start ({start})"
  | .outside => "SourceSpan out of bounds for this Source"
  | .beyond position length =>
    Text.sayNumber position fun position => s!"pos {position} out of range [0, {length}]"

namespace Span

def between (start stop : Int) : Except SpanFault Span :=
  if h₀ : start < 0 then .error (.negative ⟨start⟩)
  else if h : start < stop then .ok ⟨start.toNat, stop.toNat, by omega⟩
  else .error (.empty ⟨start⟩ ⟨stop⟩)

def length (s : Span) : Nat := s.stop - s.start

/-- The span of a word at a position. -/
def ofWord (start : Nat) (word : Text) (h : word ≠ []) : Span :=
  ⟨start, start + word.length, Nat.lt_add_of_pos_right (List.length_pos_iff.mpr h)⟩

/-- The span moved `n` characters further. -/
def shift (s : Span) (n : Nat) : Span :=
  ⟨s.start + n, s.stop + n, Nat.add_lt_add_right s.start_lt_stop n⟩

/-- The span as a message shows it. -/
def shown (s : Span) : String :=
  s!"SourceSpan(start={(Position.mk s.start).shown}, end={(Position.mk s.stop).shown})"

end Span

end Standin
