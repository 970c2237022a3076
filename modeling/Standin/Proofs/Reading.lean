import Standin.Reading
import Standin.Proofs.Occurrence

/-!
# Readings and the texts they are of

* `Piece.WellFormed`: the markers that bound a piece are the first ones that can;
* `joined`: the text of pieces, one behind the other;
* `Reading.Halts`: how a text is read that has no complete fragment in front;
* `Reading.ofText_eq_iff`: a text is read into pieces and an ending just when it is made of the
  pieces, which are well formed, and of a text that halts with the ending;
* `Reading.ofText_eq_complete_iff`: a text is read completely into pieces and a tail just when it is
  made of them, the pieces are well formed and the tail holds no opening marker.
-/

namespace Standin

variable {m : Markers} {p : Piece} {ps : List Piece} {s rest tail : Text}

namespace Piece

/-- The gap and the fragment behind it. -/
def text (m : Markers) (p : Piece) : Text := p.gap ++ p.fragment m

/-- The opening marker is the first one behind the gap, the closing one is the first one behind the
body, and the body holds no opening marker. -/
structure WellFormed (m : Markers) (p : Piece) : Prop where
  gap_first : Text.find? m.opening.symbol (p.gap ++ m.opening.symbol) = some p.gap.length
  body_first : Text.find? m.closing.symbol (p.body ++ m.closing.symbol) = some p.body.length
  body_plain : ¬ m.opening.symbol <:+: p.body

theorem length_text (m : Markers) (p : Piece) : (p.text m).length = p.length m := by
  rw [text, List.length_append, length]

end Piece

/-- The text of pieces, one behind the other. -/
def joined (m : Markers) (ps : List Piece) : Text := ps.flatMap (Piece.text m)

theorem joined_cons : joined m (p :: ps) = p.text m ++ joined m ps := rfl

theorem joined_cons_append : joined m (p :: ps) ++ tail =
    p.gap ++ (m.opening.symbol ++ (p.body ++ (m.closing.symbol ++ (joined m ps ++ tail)))) := by
  rw [joined_cons, Piece.text, Piece.fragment]
  simp only [List.append_assoc]

theorem closing_isSuffix_joined :
    m.closing.symbol ++ (joined m ps ++ tail) <:+ joined m (p :: ps) ++ tail := by
  rw [joined_cons_append]
  exact (List.suffix_append p.body _).trans
    ((List.suffix_append m.opening.symbol _).trans (List.suffix_append p.gap _))

theorem gap_isInfix_joined (h : p ∈ ps) : p.gap <:+: joined m ps :=
  (List.prefix_append p.gap (p.fragment m)).isInfix.trans (List.infix_of_mem_flatten
    (List.mem_map_of_mem h))

theorem fragment_isInfix_joined (h : p ∈ ps) : p.fragment m <:+: joined m ps :=
  (List.suffix_append p.gap (p.fragment m)).isInfix.trans (List.infix_of_mem_flatten
    (List.mem_map_of_mem h))

namespace Reading

/-! ## One step of a reading -/

variable {gap body after : Text} {inner : Nat}

theorem ofText_of_plain (h : ¬ m.opening.symbol <:+: s) : ofText m s = ⟨[], .complete s⟩ := by
  rw [← Text.cut_eq_none_iff] at h
  rw [ofText]
  split
  · rfl
  · next h' => rw [h] at h'; cases h'

theorem ofText_of_unclosed (ho : Text.cut m.opening.symbol s = some (gap, rest))
    (hc : Text.cut m.closing.symbol rest = none) : ofText m s = ⟨[], .unclosed gap rest⟩ := by
  rw [ofText]
  split
  · next h => rw [ho] at h; cases h
  · next h =>
    rw [ho, Option.some.injEq, Prod.mk.injEq] at h
    obtain ⟨rfl, rfl⟩ := h
    split
    · rfl
    · next h => rw [hc] at h; cases h

theorem ofText_of_cut (ho : Text.cut m.opening.symbol s = some (gap, rest))
    (hc : Text.cut m.closing.symbol rest = some (body, after)) :
    ofText m s = match Text.find? m.opening.symbol body with
      | some inner => ⟨[], .nested gap body after inner⟩
      | none => (ofText m after).push ⟨gap, body⟩ := by
  rw [ofText]
  split
  · next h => rw [ho] at h; cases h
  · next h =>
    rw [ho, Option.some.injEq, Prod.mk.injEq] at h
    obtain ⟨rfl, rfl⟩ := h
    split
    · next h => rw [hc] at h; cases h
    · next h =>
      rw [hc, Option.some.injEq, Prod.mk.injEq] at h
      obtain ⟨rfl, rfl⟩ := h
      rfl

/-- A well-formed piece in front is read first. -/
theorem ofText_text_append (hp : p.WellFormed m) (rest : Text) :
    ofText m (p.text m ++ rest) = (ofText m rest).push p := by
  have ho : Text.cut m.opening.symbol (p.text m ++ rest) =
      some (p.gap, p.body ++ m.closing.symbol ++ rest) := by
    rw [← Text.cut_append hp.gap_first]
    simp only [Piece.text, Piece.fragment, List.append_assoc]
  rw [ofText_of_cut ho (Text.cut_append hp.body_first rest),
    Text.find?_eq_none_iff.mpr hp.body_plain]

/-! ## Whole readings -/

/-- How a text without a complete fragment in front is read. -/
inductive Halts (m : Markers) : Text → Ending → Prop
  | complete {tail : Text} : ¬ m.opening.symbol <:+: tail → Halts m tail (.complete tail)
  | unclosed {s gap rest : Text} : Text.cut m.opening.symbol s = some (gap, rest) →
      Text.cut m.closing.symbol rest = none → Halts m s (.unclosed gap rest)
  | nested {s gap rest body after : Text} {inner : Nat} :
      Text.cut m.opening.symbol s = some (gap, rest) →
      Text.cut m.closing.symbol rest = some (body, after) →
      Text.find? m.opening.symbol body = some inner → Halts m s (.nested gap body after inner)

variable {e : Ending}

theorem Halts.ofText_eq (h : Halts m s e) : ofText m s = ⟨[], e⟩ := by
  cases h with
  | complete ht => exact ofText_of_plain ht
  | unclosed ho hc => exact ofText_of_unclosed ho hc
  | nested ho hc hb => rw [ofText_of_cut ho hc, hb]

theorem exists_halts_of_ofText {ps : List Piece} (h : ofText m s = ⟨ps, e⟩) :
    ∃ rest, s = joined m ps ++ rest ∧ (∀ p ∈ ps, p.WellFormed m) ∧ Halts m rest e := by
  induction s using ofText.induct m generalizing ps with
  | case1 s hs =>
    have hplain := Text.cut_eq_none_iff.mp hs
    rw [ofText_of_plain hplain] at h
    cases h
    exact ⟨s, rfl, by simp, .complete hplain⟩
  | case2 s gap rest hs hc =>
    rw [ofText_of_unclosed hs hc] at h
    cases h
    exact ⟨s, rfl, by simp, .unclosed hs hc⟩
  | case3 s gap rest hs body after hc inner hb =>
    rw [ofText_of_cut hs hc, hb] at h
    cases h
    exact ⟨s, rfl, by simp, .nested hs hc hb⟩
  | case4 s gap rest hs body after hc hb _ _ ih =>
    have hwf : (⟨gap, body⟩ : Piece).WellFormed m :=
      ⟨Text.find?_append_of_cut hs, Text.find?_append_of_cut hc, Text.find?_eq_none_iff.mp hb⟩
    have htext : s = (⟨gap, body⟩ : Piece).text m ++ after := by
      rw [Text.eq_of_cut hs, Text.eq_of_cut hc]
      simp only [Piece.text, Piece.fragment, List.append_assoc]
    rw [htext, ofText_text_append hwf, push] at h
    cases hr : ofText m after with
    | mk ps' e' =>
      rw [hr] at h
      cases h
      obtain ⟨back, hback, hps, hhalts⟩ := ih hr
      refine ⟨back, ?_, ?_, hhalts⟩
      · rw [htext, hback, joined_cons, List.append_assoc]
      · intro p hp
        rcases List.mem_cons.mp hp with rfl | hp
        · exact hwf
        · exact hps p hp

theorem ofText_joined_append_of_halts : ∀ {ps : List Piece}, (∀ p ∈ ps, p.WellFormed m) →
    Halts m rest e → ofText m (joined m ps ++ rest) = ⟨ps, e⟩
  | [], _, h => h.ofText_eq
  | p :: ps, hps, h => by
    have hback := ofText_joined_append_of_halts (fun q hq => hps q (List.mem_cons_of_mem p hq)) h
    rw [joined_cons, List.append_assoc, ofText_text_append (hps p List.mem_cons_self), hback]
    rfl

/-- **A reading is** the well-formed pieces in front of the place where it halts. -/
theorem ofText_eq_iff : ofText m s = ⟨ps, e⟩ ↔
    ∃ rest, s = joined m ps ++ rest ∧ (∀ p ∈ ps, p.WellFormed m) ∧ Halts m rest e := by
  constructor
  · exact exists_halts_of_ofText
  · rintro ⟨rest, rfl, hps, h⟩
    exact ofText_joined_append_of_halts hps h

/-! ## Complete readings -/

theorem ofText_joined_append (hps : ∀ p ∈ ps, p.WellFormed m) (ht : ¬ m.opening.symbol <:+: tail) :
    ofText m (joined m ps ++ tail) = ⟨ps, .complete tail⟩ :=
  ofText_joined_append_of_halts hps (.complete ht)

/-- **A reading is complete** with given pieces and tail just when the text is made of them, the
pieces are well formed and no opening marker is left. -/
theorem ofText_eq_complete_iff : ofText m s = ⟨ps, .complete tail⟩ ↔
    s = joined m ps ++ tail ∧ (∀ p ∈ ps, p.WellFormed m) ∧ ¬ m.opening.symbol <:+: tail := by
  constructor
  · intro h
    obtain ⟨rest, hs, hps, hhalts⟩ := exists_halts_of_ofText h
    cases hhalts with
    | complete ht => exact ⟨hs, hps, ht⟩
  · rintro ⟨rfl, hps, ht⟩
    exact ofText_joined_append hps ht

end Reading

end Standin
