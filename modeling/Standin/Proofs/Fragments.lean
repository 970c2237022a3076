import Standin.Problem
import Standin.Proofs.Reading

/-!
# The fragments of a document

* `Parting`: a text as gaps and fragments in turn and a tail, each marker being the first that can
  stand there; `Marks`: spans at the places of the fragments;
* **`fragments_ok_iff_parting`**: a document has fragments just when its text can be parted, and
  the spans mark the fragments of the one parting;
* `Opens`, `Completes`: the scan comes to an opening marker, and its fragment can be completed;
* **`fragments_error_iff_opens`**: where the scan stops, why, and what the problem points at.
-/

namespace Standin

open Text (OccursAt FirstIn NoneIn)

variable {m : Markers} {ps xs ys : List Piece} {p : Piece} {s gap rest : Text} {pos i : Nat}

/-! ## Partings -/

/-- A text as gaps and fragments in turn and a tail. -/
structure Parting (m : Markers) (s : Text) where
  pieces : List Piece
  tail : Text
  text_eq : s = joined m pieces ++ tail
  /-- Behind a gap the opening marker is the first one. -/
  gap_first : ∀ p ∈ pieces, ∀ i, OccursAt m.opening.symbol (p.gap ++ m.opening.symbol) i →
    p.gap.length ≤ i
  /-- Behind the inside of a fragment the closing marker is the first one. -/
  body_first : ∀ p ∈ pieces, ∀ i, OccursAt m.closing.symbol (p.body ++ m.closing.symbol) i →
    p.body.length ≤ i
  body_plain : ∀ p ∈ pieces, ¬ m.opening.symbol <:+: p.body
  tail_plain : ¬ m.opening.symbol <:+: tail

theorem find?_append_self {w a : Text} : Text.find? w (a ++ w) = some a.length ↔
    ∀ i, OccursAt w (a ++ w) i → a.length ≤ i := by
  have hocc : OccursAt w (a ++ w) a.length := by
    simpa using Text.occursAt_append_length a w []
  rw [Text.find?_eq_some_iff, and_iff_right hocc]

theorem Piece.wellFormed_iff : p.WellFormed m ↔
    (∀ i, OccursAt m.opening.symbol (p.gap ++ m.opening.symbol) i → p.gap.length ≤ i) ∧
    (∀ i, OccursAt m.closing.symbol (p.body ++ m.closing.symbol) i → p.body.length ≤ i) ∧
    ¬ m.opening.symbol <:+: p.body := by
  rw [← find?_append_self, ← find?_append_self]
  exact ⟨fun h => ⟨h.gap_first, h.body_first, h.body_plain⟩, fun h => ⟨h.1, h.2.1, h.2.2⟩⟩

namespace Parting

theorem wellFormed (y : Parting m s) : ∀ p ∈ y.pieces, p.WellFormed m := fun p hp =>
  Piece.wellFormed_iff.mpr ⟨y.gap_first p hp, y.body_first p hp, y.body_plain p hp⟩

theorem ofText_eq (y : Parting m s) : Reading.ofText m s = ⟨y.pieces, .complete y.tail⟩ :=
  Reading.ofText_eq_complete_iff.mpr ⟨y.text_eq, y.wellFormed, y.tail_plain⟩

/-- The parting that well-formed pieces and a plain tail make. -/
def ofPieces (hs : s = joined m ps ++ rest) (hps : ∀ p ∈ ps, p.WellFormed m)
    (ht : ¬ m.opening.symbol <:+: rest) : Parting m s where
  pieces := ps
  tail := rest
  text_eq := hs
  gap_first p hp := (Piece.wellFormed_iff.mp (hps p hp)).1
  body_first p hp := (Piece.wellFormed_iff.mp (hps p hp)).2.1
  body_plain p hp := (hps p hp).body_plain
  tail_plain := ht

/-- There is one way to part a text. -/
theorem subsingleton (m : Markers) (s : Text) : Subsingleton (Parting m s) := by
  constructor
  intro y z
  have h := y.ofText_eq.symm.trans z.ofText_eq
  cases y
  cases z
  simp only [Reading.mk.injEq, Ending.complete.injEq] at h
  obtain ⟨rfl, rfl⟩ := h
  rfl

end Parting

/-! ## Places of fragments -/

/-- The spans are the places of the fragments of pieces with which a text begins, in order. -/
def Marks (m : Markers) (ps : List Piece) (spans : List Span) : Prop :=
  spans.length = ps.length ∧ ∀ xs p ys, ps = xs ++ p :: ys → ∃ span, spans[xs.length]? = some span ∧
    span.start = (joined m xs ++ p.gap).length ∧
    span.stop = (joined m xs ++ p.gap ++ p.fragment m).length

theorem length_spansFrom (m : Markers) : ∀ (pos : Nat) (ps : List Piece),
    (Reading.spansFrom m pos ps).length = ps.length
  | _, [] => rfl
  | _, _ :: ps => congrArg (· + 1) (length_spansFrom m _ ps)

theorem getElem?_spansFrom : ∀ {xs : List Piece} {pos : Nat},
    (Reading.spansFrom m pos (xs ++ p :: ys))[xs.length]? = some
      (Span.ofWord (pos + (joined m xs ++ p.gap).length) (p.fragment m) (p.fragment_ne m))
  | [], pos => by
    rw [joined, List.flatMap_nil, List.nil_append]
    rfl
  | x :: xs, pos => by
    have hlen : (joined m (x :: xs) ++ p.gap).length =
        x.length m + (joined m xs ++ p.gap).length := by
      rw [joined_cons, List.append_assoc, List.length_append, Piece.length_text]
    rw [List.cons_append, Reading.spansFrom, List.length_cons, List.getElem?_cons_succ,
      getElem?_spansFrom, hlen, Nat.add_assoc]

theorem marks_spansFrom (m : Markers) (ps : List Piece) :
    Marks m ps (Reading.spansFrom m 0 ps) := by
  refine ⟨length_spansFrom m 0 ps, ?_⟩
  rintro xs p ys rfl
  refine ⟨_, getElem?_spansFrom, Nat.zero_add _, ?_⟩
  simp [Span.ofWord, Nat.add_assoc]

theorem mem_spansFrom {span : Span} : ∀ {ps : List Piece} {pos : Nat},
    span ∈ Reading.spansFrom m pos ps →
      pos ≤ span.start ∧ span.stop ≤ pos + (joined m ps).length
  | x :: ps, pos, h => by
    rw [joined_cons, List.length_append, Piece.length_text]
    rcases List.mem_cons.mp h with rfl | h
    · simp only [Span.ofWord, Piece.length]
      omega
    · have := mem_spansFrom h
      omega

theorem pairwise_spansFrom (m : Markers) : ∀ (ps : List Piece) (pos : Nat),
    (Reading.spansFrom m pos ps).Pairwise fun a b => a.stop ≤ b.start
  | [], _ => .nil
  | x :: ps, pos => by
    refine .cons ?_ (pairwise_spansFrom m ps _)
    intro span h
    have := (mem_spansFrom h).1
    simp only [Span.ofWord, Piece.length] at this ⊢
    omega

/-- The spans of pieces are the places of their fragments. -/
theorem slice_of_spansFrom {m : Markers} {file : Option Path} {span : Span} {piece : Piece} :
    ∀ {ps : List Piece} {front back : Text} {i : Nat}, ps[i]? = some piece →
      (Reading.spansFrom m front.length ps)[i]? = some span →
        Document.slice ⟨front ++ joined m ps ++ back, file⟩ span = .ok (piece.fragment m)
  | x :: ps, front, back, 0, hp, hs => by
    obtain rfl := Option.some.inj hp
    obtain rfl := Option.some.inj hs
    have htext : front ++ joined m (x :: ps) ++ back =
        (front ++ x.gap) ++ (x.fragment m ++ (joined m ps ++ back)) := by
      simp [joined_cons, Piece.text]
    have hstart : front.length + x.gap.length = (front ++ x.gap).length := by simp
    simp only [Document.slice, Span.ofWord, Span.length, Nat.add_sub_cancel_left]
    rw [htext, hstart, List.drop_left, List.take_left, if_pos]
    simp only [List.length_append]
    omega
  | x :: ps, front, back, i + 1, hp, hs => by
    have htext : front ++ joined m (x :: ps) ++ back =
        (front ++ x.text m) ++ joined m ps ++ back := by
      rw [joined_cons, ← List.append_assoc front]
    rw [Reading.spansFrom, List.getElem?_cons_succ, ← Piece.length_text, ← List.length_append] at hs
    rw [htext]
    exact slice_of_spansFrom hp hs

/-! ## Documents that have fragments -/

theorem Reading.stop_eq (m : Markers) (e : Ending) (ps : List Piece) :
    Reading.stop m ⟨ps, e⟩ = (joined m ps).length := by
  induction ps with
  | nil => rfl
  | cons p ps ih =>
    rw [joined_cons, List.length_append, Piece.length_text, ← ih]
    rfl

theorem fragments_of_parting (d : Document) (noticeStrays : Bool) (y : Parting m d.text) :
    (d.fragments m noticeStrays).result = .ok (Reading.spansFrom m 0 y.pieces) := by
  unfold Document.fragments
  rw [y.ofText_eq]
  rfl

theorem parting_of_fragments {d : Document} {noticeStrays : Bool} {spans : List Span}
    (h : (d.fragments m noticeStrays).result = .ok spans) : Nonempty (Parting m d.text) := by
  unfold Document.fragments at h
  cases hr : Reading.ofText m d.text with
  | mk ps e =>
    rw [hr] at h
    cases e with
    | complete tail =>
      obtain ⟨hs, hps, ht⟩ := Reading.ofText_eq_complete_iff.mp hr
      exact ⟨.ofPieces hs hps ht⟩
    | unclosed gap rest => cases h
    | nested gap body rest inner => cases h

/-- **A document has fragments just when its text can be parted.** There is one parting, and the
spans mark its fragments, in order and clear of one another. -/
theorem fragments_ok_iff_parting (d : Document) (m : Markers) (noticeStrays : Bool) :
    ((∃ spans, (d.fragments m noticeStrays).result = .ok spans) ↔ Nonempty (Parting m d.text)) ∧
    Subsingleton (Parting m d.text) ∧
    ∀ y : Parting m d.text, ∃ spans, (d.fragments m noticeStrays).result = .ok spans ∧
      Marks m y.pieces spans ∧ (spans.Pairwise fun a b => a.stop ≤ b.start) ∧
      ∀ span ∈ spans, span.start < span.stop ∧ span.stop ≤ d.text.length := by
  refine ⟨⟨fun ⟨_, h⟩ => parting_of_fragments h, fun ⟨y⟩ => ⟨_, fragments_of_parting d _ y⟩⟩,
    Parting.subsingleton m d.text, fun y => ?_⟩
  refine ⟨_, fragments_of_parting d _ y, marks_spansFrom m y.pieces,
    pairwise_spansFrom m y.pieces 0, ?_⟩
  intro span hspan
  have hstop := (mem_spansFrom hspan).2
  have hlen := congrArg List.length y.text_eq
  rw [List.length_append] at hlen
  exact ⟨span.start_lt_stop, by omega⟩

/-! ## Where the scan stops -/

/-- The scan comes to an opening marker at `p`: what stands in front of it is parted, and it is the
first opening marker behind the last fragment there. -/
def Opens (m : Markers) (s : Text) (p : Nat) : Prop :=
  ∃ y : Parting m (s.take p), FirstIn m.opening.symbol s (joined m y.pieces).length s.length p

/-- A closing marker stands behind the opening marker at `p`, and no opening marker before it. -/
def Completes (m : Markers) (s : Text) (p : Nat) : Prop :=
  ∃ q, FirstIn m.closing.symbol s (p + m.opening.length) s.length q ∧
    NoneIn m.opening.symbol s (p + m.opening.length) q

/-- A text with well-formed pieces, and a gap and an opening marker behind them. -/
structure Opening (m : Markers) (s : Text) (ps : List Piece) (gap rest : Text) : Prop where
  text_eq : s = joined m ps ++ (gap ++ m.opening.symbol ++ rest)
  wellFormed : ∀ x ∈ ps, x.WellFormed m
  cut_eq : Text.cut m.opening.symbol (gap ++ m.opening.symbol ++ rest) = some (gap, rest)

theorem Opening.of_cut {back : Text} (hs : s = joined m ps ++ back)
    (hps : ∀ x ∈ ps, x.WellFormed m) (hc : Text.cut m.opening.symbol back = some (gap, rest)) :
    Opening m s ps gap rest := by
  obtain rfl := Text.eq_of_cut hc
  exact ⟨hs, hps, hc⟩

theorem Opens.exists_opening {p : Nat} (h : Opens m s p) :
    ∃ ps gap rest, Opening m s ps gap rest ∧ p = (joined m ps ++ gap).length := by
  obtain ⟨y, hfirst⟩ := h
  obtain ⟨rest, hrest⟩ := hfirst.occurs
  have hp : p = (joined m y.pieces ++ y.tail).length := by
    have hle := hfirst.occurs.add_length_le m.opening.symbol_ne
    rw [← y.text_eq, List.length_take]
    omega
  have hs : s = joined m y.pieces ++ (y.tail ++ m.opening.symbol ++ rest) := by
    rw [List.append_assoc y.tail, hrest, ← List.append_assoc, ← y.text_eq, List.take_append_drop]
  have hfind : Text.find? m.opening.symbol (y.tail ++ m.opening.symbol ++ rest) =
      some y.tail.length := by
    rw [← Text.firstIn_tail_iff_find? m.opening.symbol_ne (joined m y.pieces), ← hs,
      ← List.length_append, ← hp]
    exact hfirst
  exact ⟨y.pieces, y.tail, rest,
    ⟨hs, y.wellFormed, Text.cut_eq_some_iff.mpr ⟨rfl, (Text.find?_eq_some_iff.mp hfind).2⟩⟩, hp⟩

namespace Opening

theorem gap_plain (h : Opening m s ps gap rest) : ¬ m.opening.symbol <:+: gap := by
  rw [Text.isInfix_iff_occursAt]
  rintro ⟨i, hi⟩
  have hle := hi.add_length_le m.opening.symbol_ne
  have hmin := (Text.cut_eq_some_iff.mp h.cut_eq).2 i ((hi.append_right _).append_right rest)
  have := List.length_pos_iff.mpr m.opening.symbol_ne
  omega

theorem opens (h : Opening m s ps gap rest) : Opens m s (joined m ps ++ gap).length := by
  have htake : s.take (joined m ps ++ gap).length = joined m ps ++ gap := by
    rw [h.text_eq, List.append_assoc gap, ← List.append_assoc, List.take_left]
  have hfirst : FirstIn m.opening.symbol s (joined m ps).length s.length
      (joined m ps ++ gap).length := by
    rw [List.length_append, h.text_eq, Text.firstIn_tail_iff_find? m.opening.symbol_ne, Text.find?,
      h.cut_eq, Option.map_some]
  exact ⟨.ofPieces htake h.wellFormed h.gap_plain, hfirst⟩

/-- The text up to the end of the opening marker, and what follows. -/
theorem text_eq' (h : Opening m s ps gap rest) :
    s = joined m ps ++ gap ++ m.opening.symbol ++ rest := by
  rw [h.text_eq]
  simp only [List.append_assoc]

theorem length_front (m : Markers) (ps : List Piece) (gap : Text) :
    (joined m ps ++ gap).length + m.opening.length =
      (joined m ps ++ gap ++ m.opening.symbol).length :=
  List.length_append.symm

theorem noneIn_closing_iff (h : Opening m s ps gap rest) :
    NoneIn m.closing.symbol s ((joined m ps ++ gap).length + m.opening.length) s.length ↔
      Text.cut m.closing.symbol rest = none := by
  rw [length_front, h.text_eq', Text.noneIn_tail_iff_find? m.closing.symbol_ne, Text.find?,
    Option.map_eq_none_iff]

variable {body after : Text}

theorem firstIn_closing (h : Opening m s ps gap rest)
    (hc : Text.cut m.closing.symbol rest = some (body, after)) :
    FirstIn m.closing.symbol s ((joined m ps ++ gap).length + m.opening.length) s.length
      ((joined m ps ++ gap).length + m.opening.length + body.length) := by
  rw [length_front, h.text_eq', Text.firstIn_tail_iff_find? m.closing.symbol_ne, Text.find?, hc,
    Option.map_some]

theorem text_eq_of_cut (h : Opening m s ps gap rest)
    (hc : Text.cut m.closing.symbol rest = some (body, after)) :
    s = joined m ps ++ gap ++ m.opening.symbol ++ body ++ (m.closing.symbol ++ after) := by
  rw [h.text_eq', Text.eq_of_cut hc]
  simp only [List.append_assoc]

theorem noneIn_opening_iff (h : Opening m s ps gap rest)
    (hc : Text.cut m.closing.symbol rest = some (body, after)) :
    NoneIn m.opening.symbol s ((joined m ps ++ gap).length + m.opening.length)
      ((joined m ps ++ gap).length + m.opening.length + body.length) ↔
        Text.find? m.opening.symbol body = none := by
  rw [length_front, ← List.length_append, h.text_eq_of_cut hc,
    Text.noneIn_iff_find? m.opening.symbol_ne]

theorem firstIn_opening_iff (h : Opening m s ps gap rest)
    (hc : Text.cut m.closing.symbol rest = some (body, after)) :
    FirstIn m.opening.symbol s ((joined m ps ++ gap).length + m.opening.length)
      ((joined m ps ++ gap).length + m.opening.length + body.length)
      ((joined m ps ++ gap).length + m.opening.length + i) ↔
        Text.find? m.opening.symbol body = some i := by
  rw [length_front, ← List.length_append, h.text_eq_of_cut hc,
    Text.firstIn_iff_find? m.opening.symbol_ne]

end Opening

theorem Opening.completes_iff (h : Opening m s ps gap rest) :
    Completes m s (joined m ps ++ gap).length ↔ ∃ body after,
      Text.cut m.closing.symbol rest = some (body, after) ∧
        Text.find? m.opening.symbol body = none := by
  constructor
  · rintro ⟨q, hq, hnone⟩
    cases hc : Text.cut m.closing.symbol rest with
    | none => exact absurd (h.noneIn_closing_iff.mpr hc) hq.not_noneIn
    | some parts =>
      obtain ⟨body, after⟩ := parts
      rw [hq.unique (h.firstIn_closing hc)] at hnone
      exact ⟨body, after, rfl, (h.noneIn_opening_iff hc).mp hnone⟩
  · rintro ⟨body, after, hc, hb⟩
    exact ⟨_, h.firstIn_closing hc, (h.noneIn_opening_iff hc).mpr hb⟩

/-! ## Problems of a scan -/

section Problems

variable {d : Document} {noticeStrays : Bool} {body after : Text}

theorem fragments_unclosed (h : Opening m d.text ps gap rest)
    (hc : Text.cut m.closing.symbol rest = none) : (d.fragments m noticeStrays).result =
      .error (.unclosed d m (joined m ps ++ gap).length) := by
  have hr : Reading.ofText m d.text = ⟨ps, .unclosed gap rest⟩ :=
    Reading.ofText_eq_iff.mpr ⟨_, h.text_eq, h.wellFormed, .unclosed h.cut_eq hc⟩
  unfold Document.fragments
  simp only [hr, Reading.complete, Reading.stop_eq, List.length_append, Except.map]

theorem fragments_nested (h : Opening m d.text ps gap rest)
    (hc : Text.cut m.closing.symbol rest = some (body, after))
    (hb : Text.find? m.opening.symbol body = some i) : (d.fragments m noticeStrays).result =
      .error (.nested d m (joined m ps ++ gap).length
        ((joined m ps ++ gap).length + m.opening.length + i)) := by
  have hr : Reading.ofText m d.text = ⟨ps, .nested gap body after i⟩ :=
    Reading.ofText_eq_iff.mpr ⟨_, h.text_eq, h.wellFormed, .nested h.cut_eq hc hb⟩
  unfold Document.fragments
  simp only [hr, Reading.complete, Reading.stop_eq, List.length_append, Except.map]

/-- A scan that fails has come to an opening marker whose fragment cannot be completed. -/
theorem exists_opening_of_error {problem : Problem}
    (h : (d.fragments m noticeStrays).result = .error problem) : ∃ ps gap rest,
      Opening m d.text ps gap rest ∧ ¬ Completes m d.text (joined m ps ++ gap).length := by
  cases hr : Reading.ofText m d.text with
  | mk ps e =>
    obtain ⟨back, hs, hps, hhalts⟩ := Reading.ofText_eq_iff.mp hr
    cases hhalts with
    | complete ht =>
      rw [fragments_of_parting d _ (.ofPieces hs hps ht)] at h
      cases h
    | @unclosed gap rest ho hc =>
      have hop := Opening.of_cut hs hps ho
      refine ⟨ps, gap, rest, hop, ?_⟩
      rw [hop.completes_iff, hc]
      rintro ⟨_, _, h, _⟩
      cases h
    | @nested gap rest body after inner ho hc hb =>
      have hop := Opening.of_cut hs hps ho
      refine ⟨ps, gap, rest, hop, ?_⟩
      rw [hop.completes_iff, hc]
      rintro ⟨_, _, h, hnone⟩
      cases h
      rw [hb] at hnone
      cases hnone

theorem Opening.cut_of_not_completes (h : Opening m s ps gap rest)
    (hno : ¬ Completes m s (joined m ps ++ gap).length) :
    Text.cut m.closing.symbol rest = none ∨ ∃ body after i,
      Text.cut m.closing.symbol rest = some (body, after) ∧
        Text.find? m.opening.symbol body = some i := by
  cases hc : Text.cut m.closing.symbol rest with
  | none => exact Or.inl rfl
  | some parts =>
    obtain ⟨body, after⟩ := parts
    cases hb : Text.find? m.opening.symbol body with
    | none => exact absurd (h.completes_iff.mpr ⟨body, after, hc, hb⟩) hno
    | some i => exact Or.inr ⟨body, after, i, rfl, hb⟩

/-- All spans of a diagnostic, the one of its own place first. -/
def Diagnostic.spans (diag : Diagnostic) : List Span :=
  diag.span :: diag.related.map Related.span

/-- The spans of a problem hold a word at the given places of a document, and the problem can be
told in one line. -/
structure Problem.PointsAt (problem : Problem) (d : Document) (word : Text) (places : List Nat) :
    Prop where
  diagnostic : ∃ diag, problem.diagnostic? = some diag ∧ diag.document = d ∧
    (∀ r ∈ diag.related, r.document = d) ∧ diag.spans.map Span.start = places ∧
    ∀ span ∈ diag.spans, span.stop = span.start + word.length ∧ d.slice span = .ok word
  line : ∃ line, problem.report.text = .ok line

theorem slice_ofWord {w : Text} (hw : w ≠ []) (h : OccursAt w d.text i) :
    d.slice (Span.ofWord i w hw) = .ok w := by
  have hle := h.add_length_le hw
  obtain ⟨r, hr⟩ := h
  simp only [Document.slice, Span.ofWord, Span.length, Nat.add_sub_cancel_left]
  rw [if_pos hle, ← hr, List.take_left]

theorem exists_headline {diag : Diagnostic} (h : diag.span.start ≤ diag.document.text.length) :
    ∃ line, diag.headline = .ok line := by
  have hrange : (0 : Int) ≤ diag.span.start ∧ (diag.span.start : Int) ≤ diag.document.text.length :=
    by omega
  unfold Diagnostic.headline Diagnostic.location Document.lineCol
  rw [if_pos hrange]
  exact ⟨_, rfl⟩

theorem pointsAt_unclosed {p : Nat} (hp : OccursAt m.opening.symbol d.text p) :
    (Problem.unclosed d m p).PointsAt d m.opening.symbol [p] := by
  have hslice := slice_ofWord m.opening.symbol_ne hp
  constructor
  · refine ⟨_, rfl, rfl, List.forall_mem_nil _, rfl, ?_⟩
    exact List.forall_mem_singleton.mpr ⟨rfl, hslice⟩
  · exact exists_headline (hp.le_length m.opening.symbol_ne)

theorem pointsAt_nested {p r : Nat} (hp : OccursAt m.opening.symbol d.text p)
    (hr : OccursAt m.opening.symbol d.text r) :
    (Problem.nested d m p r).PointsAt d m.opening.symbol [r, p] := by
  have hinner := slice_ofWord m.opening.symbol_ne hr
  have houter := slice_ofWord m.opening.symbol_ne hp
  constructor
  · refine ⟨_, rfl, rfl, List.forall_mem_singleton.mpr rfl, rfl, ?_⟩
    exact List.forall_mem_cons.mpr ⟨⟨rfl, hinner⟩, List.forall_mem_singleton.mpr ⟨rfl, houter⟩⟩
  · exact exists_headline (hr.le_length m.opening.symbol_ne)

/-- **A scan fails just when it comes to an opening marker whose fragment cannot be completed.**
What stands in front is parted. Without a closing marker behind it the marker is unclosed; else the
first opening marker in front of the first closing one is nested. -/
theorem fragments_error_iff_opens (d : Document) (m : Markers) (noticeStrays : Bool) :
    ((∃ problem, (d.fragments m noticeStrays).result = .error problem) ↔
      ∃ p, Opens m d.text p ∧ ¬ Completes m d.text p) ∧
    ∀ p, Opens m d.text p → ¬ Completes m d.text p →
      Nonempty (Parting m (d.text.take p)) ∧
      ((d.fragments m noticeStrays).result = .error (.unclosed d m p) ↔
        NoneIn m.closing.symbol d.text (p + m.opening.length) d.text.length) ∧
      (Problem.unclosed d m p).PointsAt d m.opening.symbol [p] ∧
      ∀ q, FirstIn m.closing.symbol d.text (p + m.opening.length) d.text.length q →
        ∃ r, FirstIn m.opening.symbol d.text (p + m.opening.length) q r ∧
          (d.fragments m noticeStrays).result = .error (.nested d m p r) ∧
          (Problem.nested d m p r).PointsAt d m.opening.symbol [r, p] := by
  constructor
  · constructor
    · rintro ⟨problem, h⟩
      obtain ⟨ps, gap, rest, hop, hno⟩ := exists_opening_of_error h
      exact ⟨_, hop.opens, hno⟩
    · rintro ⟨p, hp, hno⟩
      obtain ⟨ps, gap, rest, hop, rfl⟩ := hp.exists_opening
      rcases hop.cut_of_not_completes hno with hc | ⟨body, after, i, hc, hb⟩
      · exact ⟨_, fragments_unclosed hop hc⟩
      · exact ⟨_, fragments_nested hop hc hb⟩
  · intro p hp hno
    obtain ⟨y, hfirst⟩ := id hp
    obtain ⟨ps, gap, rest, hop, rfl⟩ := hp.exists_opening
    -- behind the marker there is no closing one, or an opening one in front of it
    have hcases := hop.cut_of_not_completes hno
    refine ⟨⟨y⟩, ?_, pointsAt_unclosed hfirst.occurs, ?_⟩
    · rw [hop.noneIn_closing_iff]
      constructor
      · intro h
        rcases hcases with hc | ⟨body, after, i, hc, hb⟩
        · exact hc
        · rw [fragments_nested hop hc hb] at h
          cases h
      · exact fragments_unclosed hop
    · intro q hq
      rcases hcases with hc | ⟨body, after, i, hc, hb⟩
      · exact absurd (hop.noneIn_closing_iff.mpr hc) hq.not_noneIn
      · obtain rfl := hq.unique (hop.firstIn_closing hc)
        have hinner := (hop.firstIn_opening_iff hc).mpr hb
        exact ⟨_, hinner, fragments_nested hop hc hb,
          pointsAt_nested hfirst.occurs hinner.occurs⟩

/-- With no closing marker at all, an opening marker behind another one does not matter. -/
theorem fragments_error_iff_opens_innerOpening :
    let m := Style.jinja.markers
    let d : Document := { text := ['\x7b', '%', 'a', '\x7b', '%', 'b'] }
    Opens m d.text 0 ∧ ¬ Completes m d.text 0 ∧
      NoneIn m.closing.symbol d.text (0 + m.opening.length) d.text.length ∧
      (d.fragments m true).result = .error (.unclosed d m 0) := by
  intro m d
  have hop : Opening m d.text [] [] ['a', '\x7b', '%', 'b'] :=
    .of_cut rfl (List.forall_mem_nil _) (by cbv)
  have hcut : Text.cut m.closing.symbol ['a', '\x7b', '%', 'b'] = none := by cbv
  have hno : ¬ Completes m d.text 0 := by
    intro h
    obtain ⟨_, _, hsome, -⟩ := hop.completes_iff.mp h
    rw [hcut] at hsome
    cases hsome
  have hnone : NoneIn m.closing.symbol d.text (0 + m.opening.length) d.text.length :=
    hop.noneIn_closing_iff.mpr hcut
  exact ⟨hop.opens, hno, hnone,
    ((fragments_error_iff_opens d m true).2 0 hop.opens hno).2.1.mpr hnone⟩

end Problems

end Standin
