import Standin.Proofs.Fragments

/-!
# Outside the fragments

* `Text.between`, `stretches`: the text between two positions, and the stretches that spans leave;
* `between_stretches`: the stretches that the fragments of a text leave hold its gaps and its tail;
* `Text.Leftmost`, `Text.LeftmostIn`: the leftmost occurrences of a word that do not overlap, in one
  stretch, and in stretches one after another;
* `Document.Strays`: places of closing markers that lie in given stretches;
* **`strays_noticed`**: a scan notices the closing markers in the stretches that it has gone through
  and nothing else, and goes the same way without notices.
-/

namespace Standin

variable {m : Markers} {ps : List Piece} {spans : List Span}

/-! ## Leftmost occurrences -/

namespace Text

variable {w s : Text} {lo hi : Nat} {places : List Nat} {bounds : List (Nat × Nat)}

/-- The leftmost occurrences of `w` from `lo` up to `hi` that do not overlap: each is the first one
behind the one before, and there is none behind the last. -/
inductive Leftmost (w s : Text) (hi : Nat) : Nat → List Nat → Prop
  | nil {lo : Nat} : NoneIn w s lo hi → Leftmost w s hi lo []
  | cons {lo p : Nat} {places : List Nat} : FirstIn w s lo hi p →
      Leftmost w s hi (p + w.length) places → Leftmost w s hi lo (p :: places)

/-- The leftmost occurrences of `w` in stretches, one stretch after another. -/
inductive LeftmostIn (w s : Text) : List (Nat × Nat) → List Nat → Prop
  | nil : LeftmostIn w s [] []
  | cons {lo hi : Nat} {bounds : List (Nat × Nat)} {places rest : List Nat} :
      Leftmost w s hi lo places → LeftmostIn w s bounds rest →
      LeftmostIn w s ((lo, hi) :: bounds) (places ++ rest)

theorem Leftmost.mem (h : Leftmost w s hi lo places) :
    ∀ p ∈ places, OccursAt w s p ∧ lo ≤ p ∧ p + w.length ≤ hi := by
  induction h with
  | nil _ => exact List.forall_mem_nil _
  | cons hp _ ih =>
    refine List.forall_mem_cons.mpr ⟨⟨hp.occurs, hp.le, hp.end_le⟩, fun q hq => ?_⟩
    obtain ⟨hocc, hle, hend⟩ := ih q hq
    exact ⟨hocc, hp.le.trans ((Nat.le_add_right _ _).trans hle), hend⟩

theorem Leftmost.pairwise (h : Leftmost w s hi lo places) :
    places.Pairwise fun p q => p + w.length ≤ q := by
  induction h with
  | nil _ => exact .nil
  | cons _ hrest ih => exact .cons (fun q hq => (hrest.mem q hq).2.1) ih

theorem Leftmost.unique {others : List Nat} (h : Leftmost w s hi lo places)
    (h' : Leftmost w s hi lo others) : others = places := by
  induction h generalizing others with
  | nil hnone =>
    cases h' with
    | nil _ => rfl
    | cons hq _ => exact absurd hnone hq.not_noneIn
  | cons hp _ ih =>
    cases h' with
    | nil hnone => exact absurd hnone hp.not_noneIn
    | cons hq hrest =>
      obtain rfl := hp.unique hq
      rw [ih hrest]

theorem LeftmostIn.unique {others : List Nat} (h : LeftmostIn w s bounds places)
    (h' : LeftmostIn w s bounds others) : others = places := by
  induction h generalizing others with
  | nil =>
    cases h'
    rfl
  | cons hfirst _ ih =>
    cases h' with
    | cons hfirst' hrest => rw [hfirst.unique hfirst', ih hrest]

theorem LeftmostIn.mem (h : LeftmostIn w s bounds places) : ∀ p ∈ places, OccursAt w s p ∧
    ∃ b ∈ bounds, b.1 ≤ p ∧ p + w.length ≤ b.2 := by
  induction h with
  | nil => exact List.forall_mem_nil _
  | cons hfirst _ ih =>
    intro p hp
    rcases List.mem_append.mp hp with hp | hp
    · obtain ⟨hocc, hbounds⟩ := hfirst.mem p hp
      exact ⟨hocc, _, List.mem_cons_self, hbounds⟩
    · obtain ⟨hocc, b, hb, hbounds⟩ := ih p hp
      exact ⟨hocc, b, List.mem_cons_of_mem _ hb, hbounds⟩

theorem LeftmostIn.pairwise (h : LeftmostIn w s bounds places)
    (hb : bounds.Pairwise fun a b => a.2 ≤ b.1) : places.Pairwise fun p q => p + w.length ≤ q := by
  induction h with
  | nil => exact .nil
  | cons hfirst hrest ih =>
    obtain ⟨hhead, htail⟩ := List.pairwise_cons.mp hb
    refine List.pairwise_append.mpr ⟨hfirst.pairwise, ih htail, fun p hp q hq => ?_⟩
    obtain ⟨-, b, hmem, hle, -⟩ := hrest.mem q hq
    exact (hfirst.mem p hp).2.2.trans ((hhead b hmem).trans hle)

/-! ### The search for them -/

theorem occurrencesFrom_of_none {pos : Nat} (hw : w ≠ []) (h : cut w s = none) :
    occurrencesFrom w pos s = [] := by
  rw [occurrencesFrom, dif_neg hw]
  split
  · rfl
  · next h' => rw [h] at h'; cases h'

theorem occurrencesFrom_of_cut {pos : Nat} {a b : Text} (hw : w ≠ [])
    (h : cut w s = some (a, b)) : occurrencesFrom w pos s =
      (pos + a.length) :: occurrencesFrom w (pos + a.length + w.length) b := by
  rw [occurrencesFrom, dif_neg hw]
  split
  · next h' => rw [h] at h'; cases h'
  · next h' =>
    rw [h, Option.some.injEq, Prod.mk.injEq] at h'
    obtain ⟨rfl, rfl⟩ := h'
    rfl

/-- The search in the text of a stretch finds the leftmost occurrences in the stretch. -/
theorem leftmost_occurrencesFrom (hw : w ≠ []) (a b f : Text) :
    Leftmost w (a ++ b ++ f) (a ++ b).length a.length (occurrencesFrom w a.length b) := by
  cases h : cut w b with
  | none =>
    rw [occurrencesFrom_of_none hw h]
    refine .nil ((noneIn_iff_find? hw a b f).mpr ?_)
    rw [find?, h, Option.map_none]
  | some parts =>
    obtain ⟨x, y⟩ := parts
    have hfirst : FirstIn w (a ++ b ++ f) a.length (a ++ b).length (a.length + x.length) := by
      rw [firstIn_iff_find? hw, find?, h, Option.map_some]
    have hrest := leftmost_occurrencesFrom hw (a ++ x ++ w) y f
    -- what has been searched and what is left make the same text
    have hjoin : a ++ x ++ w ++ y = a ++ b := by
      rw [eq_of_cut h]
      simp only [List.append_assoc]
    have hpos : (a ++ x ++ w).length = a.length + x.length + w.length := by
      rw [List.length_append, List.length_append]
    rw [hjoin, hpos] at hrest
    rw [occurrencesFrom_of_cut hw h]
    exact .cons hfirst hrest
termination_by b.length
decreasing_by exact length_lt_of_cut hw h

/-- The text from one position up to another. -/
def between (s : Text) (lo hi : Nat) : Text := (s.take hi).drop lo

theorem between_append (a b f : Text) :
    between (a ++ b ++ f) a.length (a ++ b).length = b := by
  rw [between, List.take_left, List.drop_left]

end Text

/-! ## Stretches -/

/-- The stretches between `pos` and `stop` that spans leave. -/
def stretches (stop : Nat) : (pos : Nat) → List Span → List (Nat × Nat)
  | pos, [] => [(pos, stop)]
  | pos, span :: spans => (pos, span.start) :: stretches stop span.stop spans

/-- The text up to a piece and the gap of the piece, its fragment, and what follows. -/
theorem joined_cons_parts (p : Piece) (front back : Text) : front ++ joined m (p :: ps) ++ back =
    front ++ p.gap ++ (p.fragment m ++ (joined m ps ++ back)) := by
  rw [joined_cons, Piece.text]
  simp only [List.append_assoc]

theorem stretches_spansFrom_cons (stop : Nat) (p : Piece) (front : Text) :
    stretches stop front.length (Reading.spansFrom m front.length (p :: ps)) =
      (front.length, (front ++ p.gap).length) :: stretches stop (front ++ p.text m).length
        (Reading.spansFrom m (front ++ p.text m).length ps) := by
  rw [Reading.spansFrom, stretches, List.length_append, List.length_append, Piece.length_text,
    Piece.length, ← Nat.add_assoc]
  rfl

/-- The stretches that the fragments of a text leave hold its gaps and its tail. -/
theorem between_stretches : ∀ (ps : List Piece) (front last back : Text),
    (stretches (front ++ joined m ps ++ last).length front.length
      (Reading.spansFrom m front.length ps)).map
        (fun b => (front ++ joined m ps ++ last ++ back).between b.1 b.2) =
      ps.map Piece.gap ++ [last]
  | [], front, last, back => by
    rw [joined, List.flatMap_nil, List.append_nil]
    exact congrArg (· :: []) (Text.between_append front last back)
  | p :: ps, front, last, back => by
    have ih := between_stretches ps (front ++ p.text m) last back
    have hjoin : front ++ p.text m ++ joined m ps = front ++ joined m (p :: ps) := by
      rw [joined_cons, List.append_assoc]
    rw [hjoin] at ih
    rw [stretches_spansFrom_cons, List.map_cons, ih, List.map_cons, List.cons_append,
      List.append_assoc, joined_cons_parts, Text.between_append]

theorem le_of_mem_stretches {stop : Nat} {b : Nat × Nat} : ∀ {ps : List Piece} {front : Text},
    b ∈ stretches stop front.length (Reading.spansFrom m front.length ps) → front.length ≤ b.1
  | [], front, h => by
    rw [List.mem_singleton.mp h]
  | p :: ps, front, h => by
    rw [stretches_spansFrom_cons] at h
    rcases List.mem_cons.mp h with rfl | h
    · exact le_rfl
    · have hle := le_of_mem_stretches h
      rw [List.length_append] at hle
      omega

theorem pairwise_stretches (stop : Nat) : ∀ (ps : List Piece) (front : Text),
    (stretches stop front.length (Reading.spansFrom m front.length ps)).Pairwise
      fun a b => a.2 ≤ b.1
  | [], _ => List.pairwise_singleton _ _
  | p :: ps, front => by
    rw [stretches_spansFrom_cons]
    refine .cons (fun b hb => ?_) (pairwise_stretches stop ps _)
    have hle := le_of_mem_stretches hb
    simp only [Piece.text, List.length_append] at hle ⊢
    omega

/-! ## Stray closing markers -/

theorem straysFrom_cons (last : Text) (p : Piece) (front : Text) :
    Reading.straysFrom m last front.length (p :: ps) =
      Text.occurrencesFrom m.closing.symbol front.length p.gap ++
        Reading.straysFrom m last (front ++ p.text m).length ps := by
  rw [Reading.straysFrom, List.length_append, Piece.length_text]

/-- The stray markers of pieces are the leftmost ones in the stretches outside the fragments. -/
theorem leftmostIn_straysFrom : ∀ (ps : List Piece) (front last back : Text),
    Text.LeftmostIn m.closing.symbol (front ++ joined m ps ++ last ++ back)
      (stretches (front ++ joined m ps ++ last).length front.length
        (Reading.spansFrom m front.length ps))
      (Reading.straysFrom m last front.length ps)
  | [], front, last, back => by
    have h := Text.leftmost_occurrencesFrom m.closing.symbol_ne front last back
    rw [joined, List.flatMap_nil, List.append_nil, Reading.straysFrom,
      ← List.append_nil (Text.occurrencesFrom _ _ _)]
    exact .cons h .nil
  | p :: ps, front, last, back => by
    have hgap := Text.leftmost_occurrencesFrom m.closing.symbol_ne front p.gap
      (p.fragment m ++ (joined m ps ++ (last ++ back)))
    have hrest := leftmostIn_straysFrom ps (front ++ p.text m) last back
    rw [← joined_cons_parts, ← List.append_assoc] at hgap
    rw [List.append_assoc front, ← joined_cons] at hrest
    rw [stretches_spansFrom_cons, straysFrom_cons]
    exact .cons hgap hrest

/-- Places of closing markers: the leftmost ones in the stretches, each behind the one before, and
each the place at which its notice points. -/
structure Document.Strays (d : Document) (m : Markers) (bounds : List (Nat × Nat))
    (places : List Nat) : Prop where
  leftmost : Text.LeftmostIn m.closing.symbol d.text bounds places
  ascending : places.Pairwise fun p q => p + m.closing.length ≤ q
  pointed : ∀ p ∈ places, ∃ diag, (Notice.stray d m p).report.diagnostic = some diag ∧
    diag.document = d ∧ diag.span.start = p ∧ d.slice diag.span = .ok m.closing.symbol

theorem Document.Strays.unique {d : Document} {bounds : List (Nat × Nat)} {places others : List Nat}
    (h : d.Strays m bounds places) (h' : d.Strays m bounds others) : others = places :=
  h.leftmost.unique h'.leftmost

variable {d : Document} {last back : Text}

theorem strays_straysFrom (hs : d.text = joined m ps ++ last ++ back) :
    d.Strays m (stretches (joined m ps ++ last).length 0 (Reading.spansFrom m 0 ps))
      (Reading.straysFrom m last 0 ps) := by
  have hleft : Text.LeftmostIn m.closing.symbol (joined m ps ++ last ++ back) _ _ :=
    leftmostIn_straysFrom ps [] last back
  rw [← hs] at hleft
  refine ⟨hleft, hleft.pairwise (pairwise_stretches _ ps []), fun p hp => ?_⟩
  exact ⟨_, rfl, rfl, rfl, slice_ofWord m.closing.symbol_ne (hleft.mem p hp).1⟩

/-- How far a scan gets: through pieces and a last gap, and then it is at the end of the text, or at
an opening marker that it cannot go on from. -/
inductive Document.Scanned (d : Document) (m : Markers) (ps : List Piece) (last : Text) :
    Except Problem (List Span) → Prop
  | whole : d.text = joined m ps ++ last → d.Scanned m ps last (.ok (Reading.spansFrom m 0 ps))
  | unclosed : d.Scanned m ps last (.error (.unclosed d m (joined m ps ++ last).length))
  | nested (inner : Nat) :
    d.Scanned m ps last (.error (.nested d m (joined m ps ++ last).length inner))

theorem exists_scanned (d : Document) (m : Markers) : ∃ ps last back,
    d.text = joined m ps ++ last ++ back ∧ (∀ p ∈ ps, p.WellFormed m) ∧
    ¬ m.opening.symbol <:+: last ∧ d.Scanned m ps last (d.fragments m true).result ∧
    (d.fragments m true).notices = (Reading.straysFrom m last 0 ps).map (Notice.stray d m) := by
  cases hr : Reading.ofText m d.text with
  | mk ps e =>
    obtain ⟨rest, hs, hps, hhalts⟩ := Reading.ofText_eq_iff.mp hr
    have hnotices : (d.fragments m true).notices =
        (Reading.straysFrom m e.gap 0 ps).map (Notice.stray d m) := by
      rw [Document.fragments, hr]
      rfl
    cases hhalts with
    | complete ht =>
      refine ⟨ps, rest, [], ?_, hps, ht, ?_, hnotices⟩
      · rw [hs, List.append_nil]
      · rw [fragments_of_parting d _ (.ofPieces hs hps ht)]
        exact .whole hs
    | @unclosed gap rest ho hc =>
      have hop := Opening.of_cut hs hps ho
      refine ⟨ps, gap, m.opening.symbol ++ rest, ?_, hps, hop.gap_plain, ?_, hnotices⟩
      · rw [hop.text_eq', List.append_assoc]
      · rw [fragments_unclosed hop hc]
        exact .unclosed
    | @nested gap rest body after inner ho hc hb =>
      have hop := Opening.of_cut hs hps ho
      refine ⟨ps, gap, m.opening.symbol ++ rest, ?_, hps, hop.gap_plain, ?_, hnotices⟩
      · rw [hop.text_eq', List.append_assoc]
      · rw [fragments_nested hop hc hb]
        exact .nested _

/-- **A scan notices the closing markers outside the fragments**: one for each leftmost place in a
stretch that the scan has gone through, in order, and nothing else. A scan that stops at an opening
marker has gone through the stretches in front of it. Without notices a scan goes the same way. -/
theorem strays_noticed (d : Document) (m : Markers) :
    let scan := d.fragments m true
    (∀ spans, scan.result = .ok spans →
      let bounds := stretches d.text.length 0 spans
      (∃! places, d.Strays m bounds places) ∧
      ∀ places, d.Strays m bounds places → scan.notices = places.map (Notice.stray d m)) ∧
    (∀ problem, scan.result = .error problem → ∃ p spans,
      let bounds := stretches p 0 spans
      (problem = .unclosed d m p ∨ ∃ inner, problem = .nested d m p inner) ∧
      (Document.fragments ⟨d.text.take p, d.file⟩ m true).result = .ok spans ∧
      (∃! places, d.Strays m bounds places) ∧
      ∀ places, d.Strays m bounds places → scan.notices = places.map (Notice.stray d m)) ∧
    (d.fragments m false).notices = [] ∧ (d.fragments m false).result = scan.result := by
  intro scan
  obtain ⟨ps, last, back, hs, hps, hplain, hscan, hnotices⟩ := exists_scanned d m
  change d.Scanned m ps last scan.result at hscan
  have hstrays := strays_straysFrom hs
  have honly : ∀ places, d.Strays m _ places → scan.notices = places.map (Notice.stray d m) :=
    fun places h => by rw [hstrays.unique h, hnotices]
  refine ⟨fun spans hok => ?_, fun problem herror => ?_, rfl, rfl⟩
  · rw [hok] at hscan
    cases hscan with
    | whole hwhole =>
      rw [hwhole]
      exact ⟨⟨_, hstrays, fun _ => hstrays.unique⟩, honly⟩
  · have hfront : d.text.take (joined m ps ++ last).length = joined m ps ++ last := by
      rw [hs, List.take_left]
    have hspans := fragments_of_parting ⟨d.text.take (joined m ps ++ last).length, d.file⟩ true
      (.ofPieces hfront hps hplain)
    refine ⟨_, _, ?_, hspans, ⟨_, hstrays, fun _ => hstrays.unique⟩, honly⟩
    rw [herror] at hscan
    cases hscan with
    | unclosed => exact Or.inl rfl
    | nested inner => exact Or.inr ⟨inner, rfl⟩

/-- Two closing markers that overlap, in front of an opening one that is never closed. -/
theorem strays_noticed_overlapping :
    let m : Markers := ⟨⟨['<'], by decide⟩, ⟨['>', '>'], by decide⟩, by decide⟩
    let d : Document := { text := ['>', '>', '>', '<', 'a'] }
    (d.fragments m true).result = .error (.unclosed d m 3) ∧ d.Strays m [(0, 3)] [0] := by
  intro m d
  have hfails : (d.fragments m true).result = .error (.unclosed d m 3) := by
    cbv
  obtain ⟨p, spans, hp, hspans, ⟨places, hstrays, -⟩, hall⟩ := (strays_noticed d m).2.1 _ hfails
  obtain rfl : 3 = p := by
    rcases hp with hp | ⟨inner, hp⟩
    · exact (Problem.unclosed.inj hp).2.2
    · cases hp
  have hnone : (Document.fragments ⟨d.text.take 3, d.file⟩ m true).result = .ok [] := by
    cbv
  obtain rfl : [] = spans := Except.ok.inj (hnone.symm.trans hspans)
  have hnotices : (d.fragments m true).notices = [0].map (Notice.stray d m) := by
    cbv
  obtain rfl : [0] = places :=
    List.map_injective_iff.mpr (fun _ _ h => (Notice.stray.inj h).2.2)
      (hnotices.symm.trans (hall places hstrays))
  exact ⟨hfails, hstrays⟩

end Standin
