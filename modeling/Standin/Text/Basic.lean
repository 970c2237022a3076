/-!
# Texts

A text is the list of its code points, so a position counts code points. Among them may be
surrogates of UTF-16 that stand alone; they are no characters.

* `CodePoint`: a character, or a lone surrogate;
* `Text.ofChars`, `Text.ofString`: texts without lone surrogates;
* `cut`: a text parted at the first occurrence of a word; all searching rests on it;
* `find?`, `contains`: where a word first occurs, and whether it does;
* `occurrencesFrom`: the leftmost occurrences that do not overlap;
* `replaceAll`, `replaceFirst`: a word put in place of another;
* `comesFirst`: the order of texts without lone surrogates.
-/

namespace Standin

/-! ## Code points -/

/-- A character, or a surrogate that stands alone. -/
inductive CodePoint
  | char (c : Char)
  | surrogate (n : Fin 0x800)
deriving DecidableEq, Repr

namespace CodePoint

instance : Coe Char CodePoint := ⟨char⟩

/-- The number of the code point. -/
def toNat : CodePoint → Nat
  | char c => c.toNat
  | surrogate n => 0xD800 + n

/-- An ASCII digit. -/
def isDigit : CodePoint → Bool
  | char c => c.isDigit
  | surrogate _ => false

def isSurrogate : CodePoint → Bool
  | char _ => false
  | surrogate _ => true

end CodePoint

/-- A text is the list of its code points. -/
abbrev Text := List CodePoint

namespace Text

instance : LawfulBEq Text := inferInstance

/-- The text of characters. -/
def ofChars (s : List Char) : Text := s.map .char

def ofString (s : String) : Text := ofChars s.toList

@[simp] theorem length_ofChars (s : List Char) : (ofChars s).length = s.length :=
  List.length_map _

@[simp] theorem mem_ofChars {c : CodePoint} {s : List Char} : c ∈ ofChars s ↔ ∃ x ∈ s, ↑x = c :=
  List.mem_map

@[simp] theorem length_ofString (s : String) : (ofString s).length = s.length :=
  (length_ofChars s.toList).trans String.length_toList

theorem ofChars_append (s t : List Char) : ofChars (s ++ t) = ofChars s ++ ofChars t :=
  List.map_append

/-! ## Searching -/

/-- What stands before and after the first occurrence of `w`. -/
def cut (w : Text) : Text → Option (Text × Text)
  | [] => if w = [] then some ([], []) else none
  | c :: s =>
    if w.isPrefixOf (c :: s) then some ([], (c :: s).drop w.length)
    else (cut w s).map fun (before, after) => (c :: before, after)

/-- The two sides of a cut make the text. -/
theorem eq_of_cut {w : Text} : ∀ {s a b : Text}, cut w s = some (a, b) → s = a ++ w ++ b
  | [], a, b, h => by
    by_cases hw : w = []
    · simp only [cut, hw, if_true, Option.some.injEq, Prod.mk.injEq] at h
      simp [← h.1, ← h.2, hw]
    · simp [cut, hw] at h
  | c :: s, a, b, h => by
    rw [cut] at h
    split at h
    · next hp =>
      simp only [Option.some.injEq, Prod.mk.injEq] at h
      obtain ⟨rfl, rfl⟩ := h
      exact List.prefix_iff_eq_append.mp (List.isPrefixOf_iff_prefix.mp hp) |>.symm
    · cases hs : cut w s with
      | none => simp [hs] at h
      | some p =>
        simp only [hs, Option.map_some, Option.some.injEq, Prod.mk.injEq] at h
        obtain ⟨rfl, rfl⟩ := h
        simp [eq_of_cut hs]

/-- What follows a word that is not empty is shorter than the text. -/
theorem length_lt_of_cut {w s a b : Text} (hw : w ≠ []) (h : cut w s = some (a, b)) :
    b.length < s.length := by
  have hl := congrArg List.length (eq_of_cut h)
  have := List.length_pos_iff.mpr hw
  simp only [List.length_append] at hl
  omega

/-- The position of the first occurrence of `w`. -/
def find? (w s : Text) : Option Nat := (cut w s).map fun (before, _) => before.length

/-- The word occurs in the text. -/
def contains (s w : Text) : Bool := (cut w s).isSome

/-- The positions of the leftmost occurrences of `w` that do not overlap, counted from `pos`. -/
def occurrencesFrom (w : Text) (pos : Nat) (s : Text) : List Nat :=
  if hw : w = [] then []
  else
    match h : cut w s with
    | none => []
    | some (before, after) =>
      have := length_lt_of_cut hw h
      (pos + before.length) :: occurrencesFrom w (pos + before.length + w.length) after
termination_by s.length

/-! ## Replacing -/

/-- The new word put before every character and at the end. -/
def interleave (new : Text) : Text → Text
  | [] => new
  | c :: s => new ++ c :: interleave new s

/-- The new word in place of every occurrence of the old one, from left to right. -/
def replaceAll (old new s : Text) : Text :=
  if ho : old = [] then interleave new s
  else
    match h : cut old s with
    | none => s
    | some (before, after) =>
      have := length_lt_of_cut ho h
      before ++ new ++ replaceAll old new after
termination_by s.length

/-- The new word in place of the first occurrence of the old one. -/
def replaceFirst (old new s : Text) : Text :=
  match cut old s with
  | none => s
  | some (before, after) => before ++ new ++ after

/-! ## Parts -/

/-- The characters in front of the last `n`. -/
def dropEnd (s : Text) (n : Nat) : Text := s.take (s.length - n)

/-! ## Order -/

/-- The first list stands before the second one, or both are the same; they are compared character
by character. -/
def comesFirst : List Char → List Char → Bool
  | [], _ => true
  | _ :: _, [] => false
  | c :: s, d :: t => if c = d then comesFirst s t else c.toNat < d.toNat

end Text

end Standin
