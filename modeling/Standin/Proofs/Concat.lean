import Standin.Proofs.Fragments

/-!
# Documents put together

* `Text.cut_append_of_forall`: in front of a cut there can be more text, if the word does not begin
  there;
* `Reading.precede`, `Reading.follow`: a reading with plain text, or with pieces, in front;
  `Reading.ofText_append`, `Reading.ofText_joined_append_eq`: they are readings of longer texts;
* `Reading.spansFrom_append`, `Reading.spansFrom_add`, `Reading.reach_precede`: the places move by
  the text in front;
* `Diagnostic.moveTo`, `Problem.moveTo`: what is told of a document, told of a longer one;
* **`fragments_append`**: two documents put together have the fragments, or the problem, of both.
-/

namespace Standin

open Text (OccursAt)

variable {m : Markers} {ps : List Piece} {s front : Text} {r : Reading} {pos n : Nat}

/-! ## Text in front of a cut -/

theorem Text.cut_append_of_forall {w a s : Text}
    (h : ∀ p < a.length, ¬ OccursAt w (a ++ s) p) :
    cut w (a ++ s) = (cut w s).map fun (before, after) => (a ++ before, after) := by
  cases hs : cut w s with
  | none =>
    rw [Option.map_none, cut_eq_none_iff, isInfix_iff_occursAt]
    rintro ⟨p, hp⟩
    by_cases hlt : p < a.length
    · exact h p hlt hp
    · exact cut_eq_none_iff.mp hs (hp.of_append_right (Nat.le_of_not_lt hlt)).isInfix
  | some parts =>
    obtain ⟨before, after⟩ := parts
    obtain ⟨rfl, hmin⟩ := cut_eq_some_iff.mp hs
    rw [Option.map_some, cut_eq_some_iff]
    refine ⟨by simp only [List.append_assoc], fun p hp => ?_⟩
    by_cases hlt : p < a.length
    · exact absurd hp (h p hlt)
    · have := hmin _ (hp.of_append_right (Nat.le_of_not_lt hlt))
      rw [List.length_append]
      omega

/-! ## Text and pieces in front of a reading -/

/-- The ending with plain text in front. -/
def Ending.precede (front : Text) : Ending → Ending
  | .complete tail => .complete (front ++ tail)
  | .unclosed gap rest => .unclosed (front ++ gap) rest
  | .nested gap body rest inner => .nested (front ++ gap) body rest inner

theorem Span.ofWord_add {w : Text} (hw : w ≠ []) :
    Span.ofWord (pos + n) w hw = (Span.ofWord pos w hw).shift n := by
  simp only [Span.ofWord, Span.shift, Nat.add_right_comm]

namespace Reading

/-- The reading with plain text in front. -/
def precede (front : Text) (r : Reading) : Reading :=
  match r.pieces with
  | [] => ⟨[], r.ending.precede front⟩
  | p :: ps => ⟨{ p with gap := front ++ p.gap } :: ps, r.ending⟩

/-- The reading with pieces in front. -/
def follow (ps : List Piece) (r : Reading) : Reading := ⟨ps ++ r.pieces, r.ending⟩

/-- Where the gap ends that is read last. -/
def reach (m : Markers) (r : Reading) : Nat := r.stop m + r.ending.gap.length

/-- **Plain text in front goes to the first gap.** -/
theorem ofText_append (h : ∀ p < front.length, ¬ OccursAt m.opening.symbol (front ++ s) p) :
    ofText m (front ++ s) = (ofText m s).precede front := by
  -- the first opening marker moves; the search for what closes it starts behind it and is the same
  have hcut := Text.cut_append_of_forall h
  cases ho : Text.cut m.opening.symbol s with
  | none =>
    rw [ho, Option.map_none] at hcut
    rw [ofText_of_plain (Text.cut_eq_none_iff.mp ho),
      ofText_of_plain (Text.cut_eq_none_iff.mp hcut)]
    rfl
  | some parts =>
    obtain ⟨gap, rest⟩ := parts
    rw [ho, Option.map_some] at hcut
    cases hc : Text.cut m.closing.symbol rest with
    | none =>
      rw [ofText_of_unclosed ho hc, ofText_of_unclosed hcut hc]
      rfl
    | some parts =>
      obtain ⟨body, after⟩ := parts
      rw [ofText_of_cut ho hc, ofText_of_cut hcut hc]
      cases Text.find? m.opening.symbol body <;> rfl

/-- **Well-formed pieces in front are read first**, whatever comes behind them. -/
theorem ofText_joined_append_eq : ∀ {ps : List Piece}, (∀ p ∈ ps, p.WellFormed m) →
    ofText m (joined m ps ++ s) = (ofText m s).follow ps
  | [], _ => rfl
  | p :: ps, hps => by
    rw [joined_cons, List.append_assoc, ofText_text_append (hps p List.mem_cons_self),
      ofText_joined_append_eq fun q hq => hps q (List.mem_cons_of_mem p hq)]
    rfl

/-! ## Places behind the text in front -/

theorem spansFrom_append : ∀ (ps qs : List Piece) (pos : Nat), spansFrom m pos (ps ++ qs) =
    spansFrom m pos ps ++ spansFrom m (pos + (joined m ps).length) qs
  | [], _, _ => rfl
  | p :: ps, qs, pos => by
    rw [List.cons_append, spansFrom, spansFrom, spansFrom_append, joined_cons, List.length_append,
      Piece.length_text, Nat.add_assoc, List.cons_append]

theorem spansFrom_add (n : Nat) : ∀ (ps : List Piece) (pos : Nat),
    spansFrom m (pos + n) ps = (spansFrom m pos ps).map (Span.shift · n)
  | [], _ => rfl
  | p :: ps, pos => by
    rw [spansFrom, spansFrom, List.map_cons, Nat.add_right_comm, Span.ofWord_add,
      Nat.add_right_comm, spansFrom_add]

theorem spansFrom_precede (front : Text) (r : Reading) (pos : Nat) :
    spansFrom m pos (r.precede front).pieces = spansFrom m (pos + front.length) r.pieces := by
  obtain ⟨ps, e⟩ := r
  cases ps with
  | nil => rfl
  | cons p ps =>
    simp only [precede, spansFrom, Piece.length, List.length_append, Piece.fragment, Nat.add_assoc]

theorem reach_follow : (r.follow ps).reach m = (joined m ps).length + r.reach m := by
  obtain ⟨qs, e⟩ := r
  simp only [reach, follow, stop_eq, joined, List.flatMap_append, List.length_append, Nat.add_assoc]

theorem reach_precede (front : Text) (r : Reading) :
    (r.precede front).reach m = front.length + r.reach m := by
  obtain ⟨ps, e⟩ := r
  cases ps with
  | nil => cases e <;> simp [precede, Ending.precede, reach, stop, Ending.gap]
  | cons p ps =>
    simp only [precede, reach, stop, List.foldr_cons, Piece.length, List.length_append,
      Piece.fragment, Nat.add_assoc]

end Reading

/-! ## Problems behind the text in front -/

/-- The diagnostic of a document, told of another one in which all places are `n` characters
further. -/
def Diagnostic.moveTo (document : Document) (n : Nat) (x : Diagnostic) : Diagnostic :=
  { x with
    document
    span := x.span.shift n
    related := x.related.map fun r => { r with document, span := r.span.shift n } }

namespace Problem

/-- The problem of a document, told of another one in which all places are `n` characters
further. -/
def moveTo (document : Document) (n : Nat) : Problem → Problem
  | unclosed _ m start => unclosed document m (start + n)
  | nested _ m outer inner => nested document m (outer + n) (inner + n)
  | other => other

theorem code?_moveTo (d : Document) (n : Nat) (problem : Problem) :
    (problem.moveTo d n).code? = problem.code? := by
  cases problem <;> rfl

theorem unclosedDiagnostic_add (d d' : Document) (m : Markers) (start n : Nat) :
    unclosedDiagnostic d' m (start + n) = (unclosedDiagnostic d m start).moveTo d' n :=
  congrArg (fun span => { unclosedDiagnostic d' m start with span })
    (Span.ofWord_add m.opening.symbol_ne)

theorem nestedDiagnostic_add (d d' : Document) (m : Markers) (outer inner n : Nat) :
    nestedDiagnostic d' m (outer + n) (inner + n) =
      (nestedDiagnostic d m outer inner).moveTo d' n :=
  congrArg₂ (fun span outerSpan => { nestedDiagnostic d' m outer inner with
      span, related := [⟨"outer fragment opens here", outerSpan, d'⟩] })
    (Span.ofWord_add m.opening.symbol_ne) (Span.ofWord_add m.opening.symbol_ne)

theorem diagnostic?_moveTo (d : Document) (n : Nat) (problem : Problem) :
    (problem.moveTo d n).diagnostic? = problem.diagnostic?.map (Diagnostic.moveTo d n) := by
  cases problem with
  | unclosed d₀ m start => exact congrArg some (unclosedDiagnostic_add d₀ d m start n)
  | nested d₀ m outer inner => exact congrArg some (nestedDiagnostic_add d₀ d m outer inner n)
  | unsupported fault => rfl
  | tokenMissing key token => rfl
  | noKey _ => rfl
  | lone _ => rfl

end Problem

/-- The problem of an ending behind a gap that ends at `stop`. -/
def Ending.problem? (d : Document) (m : Markers) (stop : Nat) : Ending → Option Problem
  | complete _ => none
  | unclosed _ _ => some (.unclosed d m stop)
  | nested _ _ _ inner => some (.nested d m stop (stop + m.opening.length + inner))

theorem Ending.exists_diagnostic {d : Document} {e : Ending} {stop : Nat} {problem : Problem}
    (h : e.problem? d m stop = some problem) :
    ∃ diagnostic, problem.diagnostic? = some diagnostic := by
  cases e <;> cases h <;> exact ⟨_, rfl⟩

namespace Reading

/-- What stopped the reading of a document. -/
def problem? (d : Document) (m : Markers) (r : Reading) : Option Problem :=
  r.ending.problem? d m (r.reach m)

theorem fragments_result (d : Document) (m : Markers) (noticeStrays : Bool) :
    (d.fragments m noticeStrays).result = match (ofText m d.text).problem? d m with
      | none => .ok ((ofText m d.text).spans m)
      | some problem => .error problem := by
  simp only [Document.fragments, complete, problem?, reach]
  cases (ofText m d.text).ending <;> rfl

theorem problem?_ending (d : Document) (m : Markers) (stop : Nat) (front : Text) (r : Reading) :
    (r.precede front).ending.problem? d m stop = r.ending.problem? d m stop := by
  obtain ⟨ps, e⟩ := r
  cases ps with
  | nil => cases e <;> rfl
  | cons p ps => rfl

theorem problem?_add (d d' : Document) (n pos : Nat) (e : Ending) :
    e.problem? d' m (n + pos) = (e.problem? d m pos).map (Problem.moveTo d' n) := by
  cases e with
  | complete tail => rfl
  | unclosed gap rest =>
    simp only [Ending.problem?, Option.map_some, Problem.moveTo, Nat.add_comm n]
  | nested gap body rest inner =>
    simp only [Ending.problem?, Option.map_some, Problem.moveTo, Nat.add_comm n, Nat.add_right_comm]

/-- The same stops a reading that has pieces and plain text in front. -/
theorem problem?_follow_precede (d d' : Document) (ps : List Piece) (front : Text) (r : Reading) :
    ((r.precede front).follow ps).problem? d' m =
      (r.problem? d m).map (Problem.moveTo d' (joined m ps ++ front).length) := by
  rw [problem?, reach_follow, reach_precede, ← Nat.add_assoc, ← List.length_append]
  exact (problem?_ending d' m _ front r).trans (problem?_add d d' _ _ r.ending)

theorem spans_follow_precede (ps : List Piece) (front : Text) (r : Reading) :
    ((r.precede front).follow ps).spans m = spansFrom m 0 ps ++
      (r.spans m).map (Span.shift · (joined m ps ++ front).length) := by
  rw [spans, follow, spansFrom_append, spansFrom_precede, Nat.add_assoc, ← List.length_append,
    spansFrom_add]
  rfl

end Reading

/-! ## Two documents -/

variable {d₁ d₂ : Document} {noticeStrays : Bool} {spans₁ : List Span}

/-- If no opening marker begins in the tail of a text, what is behind the text is read as if it
stood alone. -/
theorem Parting.ofText_append (y : Parting m s) (t : Text)
    (h : ∀ p < s.length, (joined m y.pieces).length ≤ p →
      ¬ OccursAt m.opening.symbol (s ++ t) p) :
    Reading.ofText m (s ++ t) = ((Reading.ofText m t).precede y.tail).follow y.pieces := by
  have hs : s ++ t = joined m y.pieces ++ (y.tail ++ t) := by
    rw [← List.append_assoc, ← y.text_eq]
  have hlen : s.length = (joined m y.pieces).length + y.tail.length := by
    rw [← List.length_append, ← y.text_eq]
  rw [hs, Reading.ofText_joined_append_eq y.wellFormed, Reading.ofText_append]
  intro p hp hocc
  refine h ((joined m y.pieces).length + p) (by omega) (Nat.le_add_right _ p) ?_
  rw [hs]
  exact Text.occursAt_append_add.mpr hocc

/-- **Documents put together have the fragments, or the problem, of both.** The first one has
fragments, and no opening marker begins in it behind the last of them. Then the second one is read
as if it stood alone, with all places further by the length of the first one: fragments are added to
those of the first one, and a problem is of the same kind and has the same diagnostic. -/
theorem fragments_append (file : Option Path)
    (h₁ : (d₁.fragments m noticeStrays).result = .ok spans₁)
    (hclear : ∀ p < d₁.text.length, (∀ span ∈ spans₁, span.stop ≤ p) →
      ¬ OccursAt m.opening.symbol (d₁.text ++ d₂.text) p) :
    let d : Document := ⟨d₁.text ++ d₂.text, file⟩
    ((∃ spans, (d.fragments m noticeStrays).result = .ok spans) ↔
      ∃ spans, (d₂.fragments m noticeStrays).result = .ok spans) ∧
    (∀ spans₂, (d₂.fragments m noticeStrays).result = .ok spans₂ →
      (d.fragments m noticeStrays).result =
        .ok (spans₁ ++ spans₂.map (Span.shift · d₁.text.length))) ∧
    ∀ problem₂, (d₂.fragments m noticeStrays).result = .error problem₂ →
      ∃ problem diagnostic₂, (d.fragments m noticeStrays).result = .error problem ∧
        problem.code? = problem₂.code? ∧ problem₂.diagnostic? = some diagnostic₂ ∧
        problem.diagnostic? = some (diagnostic₂.moveTo d d₁.text.length) := by
  intro d
  obtain ⟨y⟩ := parting_of_fragments h₁
  obtain rfl : Reading.spansFrom m 0 y.pieces = spans₁ :=
    Except.ok.inj ((fragments_of_parting d₁ noticeStrays y).symm.trans h₁)
  have hread := y.ofText_append d₂.text fun p hp hle => hclear p hp fun span hspan => by
    have := (mem_spansFrom hspan).2
    omega
  -- the pieces and the tail of the first document are all that stands in front of the second one
  have hlen : (joined m y.pieces ++ y.tail).length = d₁.text.length := by rw [← y.text_eq]
  have hspans := Reading.spans_follow_precede (m := m) y.pieces y.tail (Reading.ofText m d₂.text)
  have hproblem := Reading.problem?_follow_precede (m := m) d₂ d y.pieces y.tail
    (Reading.ofText m d₂.text)
  rw [hlen, ← hread] at hspans hproblem
  have hwhole := Reading.fragments_result d m noticeStrays
  rw [hspans, hproblem] at hwhole
  rw [hwhole, Reading.fragments_result d₂]
  cases hp : (Reading.ofText m d₂.text).problem? d₂ m with
  | none =>
    refine ⟨⟨fun _ => ⟨_, rfl⟩, fun _ => ⟨_, rfl⟩⟩, fun spans₂ h => ?_, nofun⟩
    rw [← Except.ok.inj h]
    rfl
  | some problem =>
    refine ⟨⟨nofun, nofun⟩, nofun, fun problem₂ h => ?_⟩
    obtain rfl := Except.error.inj h
    obtain ⟨diagnostic, hdiagnostic⟩ := Ending.exists_diagnostic hp
    refine ⟨_, diagnostic, rfl, problem.code?_moveTo d _, hdiagnostic, ?_⟩
    rw [Problem.diagnostic?_moveTo, hdiagnostic]
    rfl

/-- A closing marker that stands across the seam closes nothing. -/
theorem fragments_append_straddled :
    let m := Style.jinja.markers
    let d₁ : Document := { text := ['\x7b', '%', 'a', '%', '\x7d', '%'] }
    let d₂ : Document := { text := ['\x7d', '\x7b', '%', 'b'] }
    let spans₁ : List Span := [⟨0, 5, by decide⟩]
    (d₁.fragments m true).result = .ok spans₁ ∧
    (∀ p < d₁.text.length, (∀ span ∈ spans₁, span.stop ≤ p) →
      ¬ OccursAt m.opening.symbol (d₁.text ++ d₂.text) p) ∧
    (d₂.fragments m true).result = .error (.unclosed d₂ m 1) ∧
    ∃ problem, (Document.fragments ⟨d₁.text ++ d₂.text, none⟩ m true).result = .error problem ∧
      problem.diagnostic?.map Diagnostic.spans = some [⟨7, 9, by decide⟩] := by
  intro m d₁ d₂ spans₁
  have h₁ : (d₁.fragments m true).result = .ok spans₁ := by cbv
  have h₂ : (d₂.fragments m true).result = .error (.unclosed d₂ m 1) := by cbv
  have hclear : ∀ p < d₁.text.length, (∀ span ∈ spans₁, span.stop ≤ p) →
      ¬ OccursAt m.opening.symbol (d₁.text ++ d₂.text) p := by decide
  obtain ⟨problem, diagnostic₂, hproblem, -, hdiagnostic₂, hdiagnostic⟩ :=
    (fragments_append none h₁ hclear).2.2 _ h₂
  refine ⟨h₁, hclear, h₂, problem, hproblem, ?_⟩
  rw [hdiagnostic, ← Option.some.inj hdiagnostic₂]
  rfl

end Standin
