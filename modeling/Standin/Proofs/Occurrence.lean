import Standin.Text.Basic
import Mathlib.Data.List.Infix

/-!
# Occurrences

* `OccursAt`: a word stands at a position of a text; overlapping occurrences count;
* `cut_eq_some_iff`, `cut_eq_none_iff`: a cut parts a text at the least position where the word
  occurs, and there is none only if the word does not occur;
* `occursAt_append`: an occurrence in two texts lies in the first, in the second, or across the
  seam;
* `FirstIn`, `NoneIn`: the first occurrence in a stretch, and that there is none;
  `firstIn_iff_find?`, `noneIn_iff_find?` find them by a search in the text of the stretch;
* `Apart`: a text that no occurrence of a word meets, whatever stands around it;
* `cut_replace_left`, `cut_replace_right`: such a text can be replaced by another one without moving
  the first occurrence.
-/

namespace Standin.Text

/-- The word `w` stands at position `p` of the text. -/
def OccursAt (w s : Text) (p : Nat) : Prop := w <+: s.drop p

instance (w s : Text) (p : Nat) : Decidable (OccursAt w s p) :=
  inferInstanceAs (Decidable (w <+: s.drop p))

variable {v w s a b f : Text} {p q i j : Nat}

/-! ## Occurrences in a text and in its parts -/

theorem OccursAt.isInfix (h : OccursAt w s p) : w <:+: s :=
  (List.IsPrefix.isInfix h).trans (List.drop_suffix p s).isInfix

theorem isInfix_iff_occursAt : w <:+: s ↔ ∃ p, OccursAt w s p := by
  constructor
  · rintro ⟨a, b, rfl⟩
    refine ⟨a.length, b, ?_⟩
    rw [List.append_assoc, List.drop_left]
  · rintro ⟨p, h⟩
    exact h.isInfix

theorem occursAt_zero : OccursAt w s 0 ↔ w <+: s := by
  rw [OccursAt, List.drop_zero]

theorem occursAt_cons_succ {c : CodePoint} : OccursAt w (c :: s) (p + 1) ↔ OccursAt w s p := by
  rw [OccursAt, OccursAt, List.drop_succ_cons]

theorem OccursAt.add_length_le (h : OccursAt w s p) (hw : w ≠ []) : p + w.length ≤ s.length := by
  have hl := h.length_le
  have hpos := List.length_pos_iff.mpr hw
  rw [List.length_drop] at hl
  omega

theorem OccursAt.le_length (h : OccursAt w s p) (hw : w ≠ []) : p ≤ s.length := by
  have := h.add_length_le hw
  omega

theorem OccursAt.getElem? (h : OccursAt w s p) {i : Nat} (hi : i < w.length) :
    s[p + i]? = some w[i] := by
  obtain ⟨r, hr⟩ := h
  rw [← List.getElem?_drop, ← hr, List.getElem?_append_left hi, List.getElem?_eq_getElem hi]

theorem OccursAt.append_right (h : OccursAt w a p) (b : Text) : OccursAt w (a ++ b) p := by
  rw [OccursAt, List.drop_append]
  exact h.trans (List.prefix_append _ _)

theorem occursAt_append_add : OccursAt w (a ++ b) (a.length + q) ↔ OccursAt w b q := by
  rw [OccursAt, OccursAt, List.drop_append, List.drop_eq_nil_of_le (Nat.le_add_right _ _),
    Nat.add_sub_cancel_left, List.nil_append]

theorem occursAt_append_length (a w b : Text) : OccursAt w (a ++ w ++ b) a.length := by
  rw [OccursAt, List.append_assoc, List.drop_left]
  exact List.prefix_append _ _

theorem OccursAt.of_append_left (h : OccursAt w (a ++ b) p) (hp : p + w.length ≤ a.length) :
    OccursAt w a p := by
  rw [OccursAt, List.drop_append_of_le_length (by omega)] at h
  exact List.prefix_of_prefix_length_le h (List.prefix_append _ _) (by rw [List.length_drop]; omega)

theorem OccursAt.of_append_right (h : OccursAt w (a ++ b) p) (hp : a.length ≤ p) :
    OccursAt w b (p - a.length) := by
  rw [← occursAt_append_add (a := a), Nat.add_sub_cancel' hp]
  exact h

/-- An occurrence lies in the first text, in the second, or across the seam. -/
theorem occursAt_append (h : OccursAt w (a ++ b) p) :
    OccursAt w a p ∨ (a.length ≤ p ∧ OccursAt w b (p - a.length)) ∨
      (p < a.length ∧ a.length < p + w.length) := by
  by_cases h₁ : p + w.length ≤ a.length
  · exact Or.inl (h.of_append_left h₁)
  by_cases h₂ : a.length ≤ p
  · exact Or.inr (Or.inl ⟨h₂, h.of_append_right h₂⟩)
  · exact Or.inr (Or.inr ⟨by omega, by omega⟩)

/-! ## The first occurrence -/

/-- **A cut is made at the first occurrence.** -/
theorem cut_eq_some_iff : ∀ {s a b : Text}, cut w s = some (a, b) ↔
    s = a ++ w ++ b ∧ ∀ p, OccursAt w s p → a.length ≤ p
  | [], a, b => by
    by_cases hw : w = []
    · subst hw
      simp only [cut, if_true, Option.some.injEq, Prod.mk.injEq, List.append_nil,
        List.nil_eq_append_iff]
      constructor
      · rintro ⟨rfl, rfl⟩
        simp
      · rintro ⟨⟨rfl, rfl⟩, -⟩
        exact ⟨rfl, rfl⟩
    · simp [cut, hw]
  | c :: s, a, b => by
    by_cases hp : w <+: c :: s
    · rw [cut, if_pos (List.isPrefixOf_iff_prefix.mpr hp), Option.some.injEq, Prod.mk.injEq]
      constructor
      · rintro ⟨rfl, rfl⟩
        exact ⟨(List.prefix_iff_eq_append.mp hp).symm, fun p _ => Nat.zero_le p⟩
      · rintro ⟨hs, hmin⟩
        have ha : a = [] := List.length_eq_zero_iff.mp
          (Nat.le_zero.mp (hmin 0 (occursAt_zero.mpr hp)))
        rw [ha, List.nil_append] at hs
        rw [hs, List.drop_left]
        exact ⟨ha.symm, rfl⟩
    · rw [cut, if_neg (mt List.isPrefixOf_iff_prefix.mp hp)]
      constructor
      · intro h
        obtain ⟨⟨a', b'⟩, h', he⟩ := Option.map_eq_some_iff.mp h
        simp only [Prod.mk.injEq] at he
        obtain ⟨rfl, rfl⟩ := he
        obtain ⟨hs, hmin⟩ := cut_eq_some_iff.mp h'
        refine ⟨by rw [hs]; simp, fun p hocc => ?_⟩
        cases p with
        | zero => exact absurd (occursAt_zero.mp hocc) hp
        | succ p => exact Nat.succ_le_succ (hmin p (occursAt_cons_succ.mp hocc))
      · rintro ⟨hs, hmin⟩
        cases a with
        | nil => exact absurd ⟨b, hs.symm⟩ hp
        | cons d a =>
          obtain ⟨rfl, htail⟩ := List.cons.inj hs
          have h' : cut w s = some (a, b) := cut_eq_some_iff.mpr ⟨htail, fun p hocc =>
            Nat.le_of_succ_le_succ (hmin (p + 1) (occursAt_cons_succ.mpr hocc))⟩
          rw [h', Option.map_some]

theorem cut_isSome_iff : ∀ {s : Text}, (cut w s).isSome ↔ w <:+: s
  | [] => by
    by_cases hw : w = [] <;> simp [cut, hw]
  | c :: s => by
    rw [cut, List.infix_cons_iff]
    split
    · next hp => simp [List.isPrefixOf_iff_prefix.mp hp]
    · next hp =>
      rw [Option.isSome_map, cut_isSome_iff]
      simp [mt List.isPrefixOf_iff_prefix.mpr hp]

theorem contains_iff : contains s w = true ↔ w <:+: s := cut_isSome_iff

theorem contains_eq_false_iff : contains s w = false ↔ ¬ w <:+: s := by
  rw [← contains_iff, Bool.not_eq_true]

theorem cut_eq_none_iff : cut w s = none ↔ ¬ w <:+: s := by
  rw [← cut_isSome_iff, Option.not_isSome_iff_eq_none]

theorem find?_eq_none_iff : find? w s = none ↔ ¬ w <:+: s := by
  rw [find?, Option.map_eq_none_iff, cut_eq_none_iff]

theorem find?_eq_some_iff : find? w s = some p ↔ OccursAt w s p ∧ ∀ q, OccursAt w s q → p ≤ q := by
  constructor
  · intro h
    obtain ⟨⟨a, b⟩, hc, rfl⟩ := Option.map_eq_some_iff.mp h
    obtain ⟨hs, hmin⟩ := cut_eq_some_iff.mp hc
    exact ⟨hs ▸ occursAt_append_length a w b, hmin⟩
  · rintro ⟨hocc, hmin⟩
    obtain ⟨⟨a, b⟩, hc⟩ := Option.isSome_iff_exists.mp (cut_isSome_iff.mpr hocc.isInfix)
    obtain ⟨hs, hmin'⟩ := cut_eq_some_iff.mp hc
    rw [find?, hc, Option.map_some, Option.some.injEq]
    exact Nat.le_antisymm (hmin' p hocc) (hmin _ (hs ▸ occursAt_append_length a w b))

/-- A first occurrence stays the first when the text goes on. -/
theorem cut_append (h : find? w (a ++ w) = some a.length) (b : Text) :
    cut w (a ++ w ++ b) = some (a, b) := by
  refine cut_eq_some_iff.mpr ⟨rfl, fun p hocc => ?_⟩
  by_contra hlt
  refine hlt ((find?_eq_some_iff.mp h).2 p (hocc.of_append_left ?_))
  rw [List.length_append]
  omega

theorem find?_append_of_cut (h : cut w s = some (a, b)) : find? w (a ++ w) = some a.length := by
  obtain ⟨rfl, hmin⟩ := cut_eq_some_iff.mp h
  refine find?_eq_some_iff.mpr ⟨?_, fun q hq => hmin q (hq.append_right b)⟩
  have := occursAt_append_length a w []
  rwa [List.append_nil] at this

/-! ## Occurrences in a stretch -/

/-- The first of the occurrences of `w` that begin at `lo` or later and end by `hi`. -/
structure FirstIn (w s : Text) (lo hi p : Nat) : Prop where
  occurs : OccursAt w s p
  le : lo ≤ p
  end_le : p + w.length ≤ hi
  least : ∀ q, lo ≤ q → q + w.length ≤ hi → OccursAt w s q → p ≤ q

/-- No occurrence of `w` begins at `lo` or later and ends by `hi`. -/
def NoneIn (w s : Text) (lo hi : Nat) : Prop :=
  ∀ p, lo ≤ p → p + w.length ≤ hi → ¬ OccursAt w s p

theorem FirstIn.unique (hp : FirstIn w s i j p) (hq : FirstIn w s i j q) : p = q :=
  Nat.le_antisymm (hp.least q hq.le hq.end_le hq.occurs) (hq.least p hp.le hp.end_le hp.occurs)

theorem FirstIn.not_noneIn (h : FirstIn w s i j p) : ¬ NoneIn w s i j := fun hno =>
  hno p h.le h.end_le h.occurs

/-- The occurrences in a stretch are those of the text in between. -/
theorem occursAt_between (a b f : Text) (hp : p + w.length ≤ b.length) :
    OccursAt w (a ++ b ++ f) (a.length + p) ↔ OccursAt w b p := by
  constructor
  · intro h
    have h' := h.of_append_left (by rw [List.length_append]; omega)
    rwa [occursAt_append_add] at h'
  · intro h
    rw [List.append_assoc, occursAt_append_add]
    exact h.append_right f

theorem noneIn_iff_find? (hw : w ≠ []) (a b f : Text) :
    NoneIn w (a ++ b ++ f) a.length (a ++ b).length ↔ find? w b = none := by
  rw [find?_eq_none_iff, isInfix_iff_occursAt, List.length_append]
  constructor
  · rintro h ⟨p, hp⟩
    have hle := hp.add_length_le hw
    exact h (a.length + p) (by omega) (by omega) ((occursAt_between a b f hle).mpr hp)
  · intro h p hlo hhi hp
    obtain ⟨q, rfl⟩ := Nat.exists_eq_add_of_le hlo
    exact h ⟨q, (occursAt_between a b f (by omega)).mp hp⟩

theorem firstIn_iff_find? (hw : w ≠ []) (a b f : Text) :
    FirstIn w (a ++ b ++ f) a.length (a ++ b).length (a.length + p) ↔ find? w b = some p := by
  rw [find?_eq_some_iff, List.length_append]
  constructor
  · rintro ⟨hocc, -, hhi, hleast⟩
    refine ⟨(occursAt_between a b f (by omega)).mp hocc, fun q hq => ?_⟩
    have hle := hq.add_length_le hw
    have := hleast (a.length + q) (by omega) (by omega) ((occursAt_between a b f hle).mpr hq)
    omega
  · rintro ⟨hocc, hmin⟩
    have hle := hocc.add_length_le hw
    refine ⟨(occursAt_between a b f hle).mpr hocc, by omega, by omega, fun q hlo hhi hq => ?_⟩
    obtain ⟨q, rfl⟩ := Nat.exists_eq_add_of_le hlo
    have := hmin q ((occursAt_between a b f (by omega)).mp hq)
    omega

theorem noneIn_tail_iff_find? (hw : w ≠ []) (a b : Text) :
    NoneIn w (a ++ b) a.length (a ++ b).length ↔ find? w b = none := by
  simpa using noneIn_iff_find? hw a b []

theorem firstIn_tail_iff_find? (hw : w ≠ []) (a b : Text) :
    FirstIn w (a ++ b) a.length (a ++ b).length (a.length + p) ↔ find? w b = some p := by
  simpa using firstIn_iff_find? hw a b []

/-! ## Words that keep apart -/

/-- No occurrence of `w` meets `f`, whatever stands around `f`. -/
def Apart (w f : Text) : Prop :=
  ∀ a b p, OccursAt w (a ++ f ++ b) p → p + w.length ≤ a.length ∨ a.length + f.length ≤ p

/-- A word keeps apart from a text that does not hold it, if the ends of the text are not in the
word. -/
theorem apart_of_ends {x z : CodePoint} (hx : f.head? = some x) (hz : f.getLast? = some z)
    (hxw : x ∉ w) (hzw : z ∉ w) (hno : ¬ w <:+: f) : Apart w f := by
  intro a b p hocc
  by_contra hmeet
  have hpos : 0 < f.length := List.length_pos_iff.mpr fun h => by simp [h] at hx
  -- a character of `f` under the word is one of its characters
  have hunder : ∀ {i : Nat} {c : CodePoint}, i < f.length → f[i]? = some c → p ≤ a.length + i →
      a.length + i < p + w.length → c ∈ w := by
    intro i c hi hc hle hlt
    have hw := hocc.getElem? (show a.length + i - p < w.length by omega)
    rw [show p + (a.length + i - p) = a.length + i by omega, List.append_assoc,
      List.getElem?_append_right (Nat.le_add_right _ _), Nat.add_sub_cancel_left,
      List.getElem?_append_left hi, hc, Option.some.injEq] at hw
    exact hw ▸ List.getElem_mem _
  rw [List.head?_eq_getElem?] at hx
  rw [List.getLast?_eq_getElem?] at hz
  by_cases hp : p ≤ a.length
  · exact hxw (hunder hpos hx (by omega) (by omega))
  by_cases hq : a.length + f.length < p + w.length
  · exact hzw (hunder (by omega) hz (by omega) (by omega))
  · have hf := hocc.of_append_left (by rw [List.length_append]; omega)
    exact hno (hf.of_append_right (by omega)).isInfix

/-- A word occurs on either side of what it keeps apart from. -/
theorem occursAt_iff_of_apart (h : Apart v f) :
    OccursAt v (a ++ f ++ b) p ↔
      OccursAt v a p ∨ ∃ q, p = a.length + f.length + q ∧ OccursAt v b q := by
  constructor
  · intro hocc
    rcases h a b p hocc with hle | hge
    · rw [List.append_assoc] at hocc
      exact Or.inl (hocc.of_append_left hle)
    · rw [← List.length_append] at hge ⊢
      exact Or.inr ⟨p - (a ++ f).length, by omega, hocc.of_append_right hge⟩
  · rintro (hocc | ⟨q, rfl, hocc⟩)
    · exact (hocc.append_right f).append_right b
    · rwa [← List.length_append, occursAt_append_add]

theorem isInfix_iff_of_apart (h : Apart v f) : v <:+: a ++ f ++ b ↔ v <:+: a ∨ v <:+: b := by
  constructor
  · intro hin
    obtain ⟨p, hp⟩ := isInfix_iff_occursAt.mp hin
    rcases (occursAt_iff_of_apart h).mp hp with hp | ⟨q, -, hq⟩
    · exact Or.inl hp.isInfix
    · exact Or.inr hq.isInfix
  · rintro (hin | hin)
    · exact (hin.trans (List.prefix_append a f).isInfix).trans (List.prefix_append _ b).isInfix
    · exact hin.trans (List.suffix_append _ b).isInfix

/-- A first occurrence in front of `f` stays the first when `f` is replaced. -/
theorem cut_replace_left {a₁ a₂ : Text} (hw : Apart v w)
    (h : cut v (a₁ ++ v ++ a₂ ++ f ++ b) = some (a₁, a₂ ++ f ++ b)) :
    cut v (a₁ ++ v ++ a₂ ++ w ++ b) = some (a₁, a₂ ++ w ++ b) := by
  refine cut_eq_some_iff.mpr ⟨by simp only [List.append_assoc], fun p hp => ?_⟩
  rcases (occursAt_iff_of_apart hw).mp hp with hp | ⟨q, rfl, -⟩
  · exact (cut_eq_some_iff.mp h).2 p ((hp.append_right f).append_right b)
  · simp only [List.length_append]
    omega

/-- A first occurrence behind `f` stays the first when `f` is replaced. -/
theorem cut_replace_right {b₁ b₂ : Text} (hv : v ≠ []) (hw : Apart v w)
    (h : cut v (a ++ f ++ (b₁ ++ v ++ b₂)) = some (a ++ f ++ b₁, b₂)) :
    cut v (a ++ w ++ (b₁ ++ v ++ b₂)) = some (a ++ w ++ b₁, b₂) := by
  refine cut_eq_some_iff.mpr ⟨by simp only [List.append_assoc], fun p hp => ?_⟩
  have hmin := (cut_eq_some_iff.mp h).2
  simp only [List.length_append] at hmin ⊢
  rcases (occursAt_iff_of_apart hw).mp hp with hp | ⟨q, rfl, hq⟩
  · -- an occurrence in `a` would come before the first one
    have hle := hp.add_length_le hv
    have hge := hmin p ((hp.append_right f).append_right _)
    have := List.length_pos_iff.mpr hv
    omega
  · have hge := hmin (a.length + f.length + q) (by
      rwa [← List.length_append, occursAt_append_add])
    omega

end Standin.Text
