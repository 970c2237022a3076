import Standin.Text.Numeral

/-!
# Keys

A key is a fixed number of decimal digits; together with a stem it makes a token.

* `Draws`: a source of numbers, and how many have been drawn;
* `Keys`: the keys of one length, with their stem;
* `Keys.search`: the first free key among those of some numbers. A number that is too long to be
  written ends the search;
* `Keys.next`: a key that is not taken and whose token does not occur in a text. Numbers are drawn
  first, thirty-two more than keys are taken; then one more draw says where to start counting
  through all keys.
-/

namespace Standin

/-- A source of numbers. -/
structure Draws where
  source : Nat → Nat
  used : Nat := 0

namespace Draws

/-- The number below `bound` that comes after `i` others. -/
def number (d : Draws) (bound i : Nat) : Nat := d.source (d.used + i) % bound

/-- The source when `n` more numbers have been drawn. -/
def skip (d : Draws) (n : Nat) : Draws := { d with used := d.used + n }

end Draws

/-- The keys of one length, and the stem of their tokens. -/
structure Keys where
  length : Nat
  stem : Text
  length_pos : 0 < length
deriving DecidableEq, Repr

/-- Why there is no key. -/
inductive KeyFault
  /-- A key has at least one digit. -/
  | length (value : Int)
  /-- No key of the length is free. -/
  | exhausted (length : Nat)
  /-- A number has too many digits to be written. -/
  | tooLong
deriving DecidableEq, Repr

def KeyFault.message : KeyFault → String
  | .length n => Text.sayNumber n fun n => s!"key length must be positive (got {n})"
  | .exhausted n => s!"no free {n}-digit key left (key space exhausted)"
  | .tooLong => Text.tooManyDigits

namespace Keys

/-- The keys of the given length. -/
def ofLength (length : Int) (stem : Text) : Except KeyFault Keys :=
  if h : 0 < length.toNat then .ok ⟨length.toNat, stem, h⟩ else .error (.length length)

/-- How many keys there are. -/
def size (k : Keys) : Nat := Nat.pow 10 k.length

/-- The key of a number. -/
def spell (k : Keys) (n : Nat) : Text := Text.ofChars (Text.padded k.length n)

/-- The key of a number, if it can be written. -/
def write (k : Keys) (n : Nat) : Except KeyFault Text :=
  if Text.Writable n then .ok (k.spell n) else .error .tooLong

def token (k : Keys) (key : Text) : Text := k.stem ++ key

/-- The key is not taken, and its token does not occur in the text. -/
def isFree (k : Keys) (taken : List Text) (avoid key : Text) : Bool :=
  !taken.elem key && !Text.contains avoid (k.token key)

/-- The first free key among those of `number i` and the numbers after it, `budget` of them, and how
many numbers there are up to it. -/
def search (k : Keys) (free : Text → Bool) (number : Nat → Nat) :
    (budget i : Nat) → Nat × Except KeyFault (Option Text)
  | 0, i => (i, .ok none)
  | budget + 1, i =>
    match k.write (number i) with
    | .error fault => (i + 1, .error fault)
    | .ok key => if free key then (i + 1, .ok (some key)) else search k free number budget (i + 1)

def next (k : Keys) (taken : List Text) (avoid : Text) (d : Draws) :
    Draws × Except KeyFault Text :=
  let free := k.isFree taken avoid
  match k.search free (d.number k.size) (taken.length + 32) 0 with
  | (used, .error fault) => (d.skip used, .error fault)
  | (used, .ok (some key)) => (d.skip used, .ok key)
  | (used, .ok none) =>
    let start := d.number k.size used
    match (k.search free (fun i => (start + i) % k.size) k.size 0).2 with
    | .error fault => (d.skip (used + 1), .error fault)
    | .ok (some key) => (d.skip (used + 1), .ok key)
    | .ok none => (d.skip (used + 1), .error (.exhausted k.length))

/-- As many keys as asked for, the ones before in `taken`, the last one first. -/
def nextMany (k : Keys) (avoid : Text) :
    (count : Nat) → (taken : List Text) → Draws → Draws × Except KeyFault (List Text)
  | 0, _, d => (d, .ok [])
  | count + 1, taken, d =>
    match k.next taken avoid d with
    | (d, .error fault) => (d, .error fault)
    | (d, .ok key) =>
      match nextMany k avoid count (key :: taken) d with
      | (d, .error fault) => (d, .error fault)
      | (d, .ok keys) => (d, .ok (key :: keys))

end Keys

end Standin
