import Standin.Proofs.Carets
import Standin.Proofs.Stretch

/-!
# Diagnostics as parts of a page

* `bind_error_iff`, `mapM_error_iff`: where a computation of several steps fails;
* `FrameSettings.Breaks`: the frame of a span fails, for its span or for the settings;
* `parts_ne_index`: no index is outside of the table of line starts;
* `exists_error_parts_iff`: a diagnostic fails just when a frame that it shows does;
* **`parts_error_iff_breaks`**: so much for all diagnostics, and those of a scan do not fail.
-/

namespace Standin

/-! ## Failing steps -/

section Failing

variable {ε α β : Type}

theorem bind_error_iff {x : Except ε α} {g : α → Except ε β} :
    (∃ e, x >>= g = .error e) ↔ (∃ e, x = .error e) ∨ ∃ a, x = .ok a ∧ ∃ e, g a = .error e := by
  cases x with
  | error e => exact iff_of_true ⟨e, rfl⟩ (Or.inl ⟨e, rfl⟩)
  | ok a =>
    constructor
    · exact fun h => Or.inr ⟨a, rfl, h⟩
    · rintro (⟨_, h⟩ | ⟨_, h, hg⟩)
      · cases h
      · cases h
        exact hg

theorem bind_pure_error_iff {x : Except ε α} {g : α → β} :
    (∃ e, (x >>= fun a => pure (g a)) = .error e) ↔ ∃ e, x = .error e := by
  rw [bind_error_iff]
  constructor
  · rintro (h | ⟨_, -, _, h⟩)
    · exact h
    · cases h
  · exact Or.inl

theorem mapM_error_iff {g : α → Except ε β} : ∀ {l : List α},
    (∃ e, l.mapM g = .error e) ↔ ∃ x ∈ l, ∃ e, g x = .error e
  | [] => by
    constructor
    · rintro ⟨e, h⟩
      cases h
    · rintro ⟨x, hx, -⟩
      cases hx
  | x :: l => by
    rw [List.mapM_cons, bind_error_iff, List.exists_mem_cons_iff, ← mapM_error_iff (l := l)]
    cases hx : g x with
    | error e => exact iff_of_true (Or.inl ⟨e, rfl⟩) (Or.inl ⟨e, rfl⟩)
    | ok b =>
      refine or_congr_right ?_
      simp only [bind_pure_error_iff]
      constructor
      · rintro ⟨_, -, h⟩
        exact h
      · exact fun h => ⟨b, rfl, h⟩

theorem eq_error_of_bind {x : Except ε α} {g : α → Except ε β} {e : ε} (h : x >>= g = .error e) :
    x = .error e ∨ ∃ a, x = .ok a ∧ g a = .error e := by
  cases x with
  | error _ =>
    cases h
    exact Or.inl rfl
  | ok a => exact Or.inr ⟨a, rfl, h⟩

theorem eq_error_of_mapM {g : α → Except ε β} {e : ε} : ∀ {l : List α},
    l.mapM g = .error e → ∃ x ∈ l, g x = .error e
  | [], h => by cases h
  | x :: l, h => by
    rw [List.mapM_cons] at h
    rcases eq_error_of_bind h with hx | ⟨_, -, hrest⟩
    · exact ⟨x, List.mem_cons_self, hx⟩
    · rcases eq_error_of_bind hrest with hl | ⟨_, -, hpure⟩
      · obtain ⟨y, hy, he⟩ := eq_error_of_mapM hl
        exact ⟨y, List.mem_cons_of_mem _ hy, he⟩
      · cases hpure

end Failing

/-! ## Diagnostics -/

section Diagnostics

variable {theme : Theme} {f : FrameSettings} {d : Document} {s : Span} {diag : Diagnostic}

/-- The frame of a span fails: the span ends beyond its document, or the settings do not allow the
frame. -/
def FrameSettings.Breaks (f : FrameSettings) (d : Document) (s : Span) : Prop :=
  d.text.length < s.stop ∨ ∃ fault, f.Spoils d s fault

theorem FrameSettings.Drawable.breaks_iff (h : f.Drawable) :
    f.Breaks d s ↔ d.text.length < s.stop :=
  or_iff_left fun ⟨fault, hspoils⟩ => h.not_spoils d s fault hspoils

theorem framePart_beyond (severity : Severity) (hout : d.text.length < s.stop) :
    ∃ fault, framePart theme f severity d s = .error (.span fault) := by
  rw [framePart, frameRows, Document.lineCol_beyond hout]
  cases d.lineCol s.start <;> exact ⟨_, rfl⟩

theorem framePart_of_spoils {fault : FrameFault} (severity : Severity)
    (hin : s.stop ≤ d.text.length) (h : f.Spoils d s fault) :
    framePart theme f severity d s = .error fault := by
  rw [framePart, frameRows_of_spoils hin h]
  rfl

theorem framePart_error_iff {severity : Severity} :
    (∃ fault, framePart theme f severity d s = .error fault) ↔ f.Breaks d s := by
  constructor
  · rintro ⟨fault, h⟩
    by_contra hno
    obtain ⟨hin, hnone⟩ := not_or.mp hno
    obtain ⟨title, hpart⟩ := framePart_eq theme severity (Nat.le_of_not_lt hin)
      (frameRows_eq (Nat.le_of_not_lt hin) (not_exists.mp hnone))
    rw [hpart] at h
    cases h
  · intro h
    by_cases hin : s.stop ≤ d.text.length
    · obtain ⟨fault, hspoils⟩ := h.resolve_left (Nat.not_lt.mpr hin)
      exact ⟨fault, framePart_of_spoils severity hin hspoils⟩
    · obtain ⟨fault, hpart⟩ := framePart_beyond severity (Nat.lt_of_not_le hin)
      exact ⟨_, hpart⟩

/-- No index is outside of the table of line starts. -/
theorem framePart_ne_index (theme : Theme) (f : FrameSettings) (severity : Severity) (d : Document)
    (s : Span) : framePart theme f severity d s ≠ .error .index := by
  intro h
  have hbreaks : f.Breaks d s := framePart_error_iff.mp ⟨_, h⟩
  by_cases hin : s.stop ≤ d.text.length
  · obtain ⟨fault, hspoils⟩ := hbreaks.resolve_left (Nat.not_lt.mpr hin)
    obtain rfl := Except.error.inj (h.symm.trans (framePart_of_spoils severity hin hspoils))
    cases hspoils
  · obtain ⟨fault, hpart⟩ : ∃ fault, framePart theme f severity d s = .error (.span fault) :=
      framePart_beyond severity (Nat.lt_of_not_le hin)
    rw [h] at hpart
    cases hpart

theorem mem_shownRelated {r : Related} : r ∈ diag.shownRelated f ↔ ∃ i : Nat,
    diag.related[i]? = some r ∧ (i : Int) <
      if 0 ≤ f.maxRelated then f.maxRelated else f.maxRelated + diag.related.length := by
  rw [Diagnostic.shownRelated, List.mem_iff_getElem?]
  refine exists_congr fun i => ?_
  by_cases hi : i < diag.related.length
  · have hbound : i < Text.bound diag.related.length f.maxRelated ↔ (i : Int) <
        if 0 ≤ f.maxRelated then f.maxRelated else f.maxRelated + diag.related.length := by
      unfold Text.bound
      split_ifs <;> omega
    rw [← hbound, List.getElem?_take]
    by_cases hshown : i < Text.bound diag.related.length f.maxRelated <;> simp [hshown]
  · have hnone := List.getElem?_eq_none (Nat.le_of_not_lt hi)
    simp [List.getElem?_take, hnone]

theorem relatedParts_error_iff : (∃ fault, diag.relatedParts theme f = .error fault) ↔
    ∃ r ∈ diag.shownRelated f, f.Breaks r.document r.span := by
  unfold Diagnostic.relatedParts
  simp only [bind_pure_error_iff, mapM_error_iff, framePart_error_iff]

theorem exists_error_parts_iff : (∃ fault, diag.parts theme f = .error fault) ↔
    f.Breaks diag.document diag.span ∨
      ∃ r ∈ diag.shownRelated f, f.Breaks r.document r.span := by
  unfold Diagnostic.parts
  rw [bind_error_iff, framePart_error_iff]
  constructor
  · rintro (h | ⟨_, -, h⟩)
    · exact Or.inl h
    · exact Or.inr (relatedParts_error_iff.mp (bind_pure_error_iff.mp h))
  · rintro (h | h)
    · exact Or.inl h
    · cases hframe : framePart theme f diag.severity diag.document diag.span with
      | error fault => exact Or.inl (framePart_error_iff.mp ⟨fault, hframe⟩)
      | ok part =>
        exact Or.inr ⟨part, rfl, bind_pure_error_iff.mpr (relatedParts_error_iff.mpr h)⟩

theorem parts_ne_index (theme : Theme) (f : FrameSettings) (diag : Diagnostic) :
    diag.parts theme f ≠ .error .index := by
  intro h
  rcases eq_error_of_bind h with hframe | ⟨_, -, h⟩
  · exact framePart_ne_index _ _ _ _ _ hframe
  rcases eq_error_of_bind h with hrelated | ⟨_, -, h⟩
  · rcases eq_error_of_bind hrelated with hframes | ⟨_, -, h⟩
    · obtain ⟨r, -, hr⟩ := eq_error_of_mapM hframes
      rcases eq_error_of_bind hr with hframe | ⟨_, -, h⟩
      · exact framePart_ne_index _ _ _ _ _ hframe
      · cases h
    · cases h
  · cases h

theorem exists_parts_of_le (hdraw : f.Drawable)
    (hown : diag.span.stop ≤ diag.document.text.length)
    (hrelated : ∀ r ∈ diag.related, r.span.stop ≤ r.document.text.length) :
    ∃ parts, diag.parts theme f = .ok parts := by
  cases h : diag.parts theme f with
  | ok parts => exact ⟨parts, rfl⟩
  | error fault =>
    rcases exists_error_parts_iff.mp ⟨fault, h⟩ with hout | ⟨r, hr, hout⟩
    · have := hdraw.breaks_iff.mp hout
      omega
    · have := hrelated r (List.mem_of_mem_take hr)
      have := hdraw.breaks_iff.mp hout
      omega

/-! ## Diagnostics of a scan -/

theorem stop_le_of_slice {w : Text} (h : d.slice s = .ok w) : s.stop ≤ d.text.length := by
  unfold Document.slice at h
  split at h
  · assumption
  · cases h

theorem Problem.PointsAt.exists_parts {problem : Problem} {w : Text} {places : List Nat}
    (hdraw : f.Drawable) (h : problem.PointsAt d w places) : ∃ diag parts,
      problem.report.diagnostic = some diag ∧ diag.parts theme f = .ok parts := by
  obtain ⟨diag, hdiag, rfl, hsame, -, hspans⟩ := h.diagnostic
  have hin : ∀ span ∈ diag.spans, span.stop ≤ diag.document.text.length :=
    fun span hspan => stop_le_of_slice (hspans span hspan).2
  obtain ⟨hown, hothers⟩ := List.forall_mem_cons.mp hin
  obtain ⟨parts, hparts⟩ : ∃ parts, diag.parts theme f = .ok parts :=
    exists_parts_of_le hdraw hown fun r hr => by
      rw [hsame r hr]
      exact hothers _ (List.mem_map_of_mem hr)
  exact ⟨diag, parts, hdiag, hparts⟩

variable {m : Markers}

theorem exists_pointsAt {noticeStrays : Bool} {problem : Problem}
    (h : (d.fragments m noticeStrays).result = .error problem) :
    ∃ places, problem.PointsAt d m.opening.symbol places := by
  obtain ⟨ps, gap, rest, hop, hno⟩ := exists_opening_of_error h
  have houter := hop.opens.choose_spec.occurs
  rcases hop.cut_of_not_completes hno with hc | ⟨body, after, i, hc, hb⟩
  · obtain rfl := Except.error.inj ((fragments_unclosed hop hc).symm.trans h)
    exact ⟨_, pointsAt_unclosed houter⟩
  · obtain rfl := Except.error.inj ((fragments_nested hop hc hb).symm.trans h)
    exact ⟨_, pointsAt_nested houter ((hop.firstIn_opening_iff hc).mpr hb).occurs⟩

theorem exists_parts_of_notice {noticeStrays : Bool} {notice : Notice} (hdraw : f.Drawable)
    (h : notice ∈ (d.fragments m noticeStrays).notices) : ∃ diag parts,
      notice.report.diagnostic = some diag ∧ diag.parts theme f = .ok parts := by
  cases noticeStrays with
  | false => cases h
  | true =>
    obtain ⟨ps, last, back, hs, -, -, -, hnotices⟩ := exists_scanned d m
    rw [hnotices] at h
    obtain ⟨p, hp, rfl⟩ := List.mem_map.mp h
    obtain ⟨diag, hdiag, -, -, hslice⟩ := (strays_straysFrom hs).pointed p hp
    obtain rfl : Notice.strayDiagnostic d m p = diag := Option.some.inj hdiag
    obtain ⟨parts, hparts⟩ := exists_parts_of_le hdraw (stop_le_of_slice hslice)
      (List.forall_mem_nil _)
    exact ⟨_, parts, rfl, hparts⟩

/-- **A diagnostic is rendered unless one of its frames fails**: its own one, or that of a related
place that is shown. With the usual numbers in the settings a frame fails only if its span ends
beyond its document, and what a scan notices, and the problem that stops it, are always rendered. No
index is outside of the table of line starts. -/
theorem parts_error_iff_breaks (theme : Theme) (f : FrameSettings) :
    (∀ diag : Diagnostic, (∃ fault, diag.parts theme f = .error fault) ↔
      f.Breaks diag.document diag.span ∨ ∃ (i : Nat) (r : Related),
        diag.related[i]? = some r ∧ ((i : Int) <
          if 0 ≤ f.maxRelated then f.maxRelated else f.maxRelated + diag.related.length) ∧
        f.Breaks r.document r.span) ∧
    (∀ diag : Diagnostic, diag.parts theme f ≠ .error .index) ∧
    (f.Drawable → (∀ d s, f.Breaks d s ↔ d.text.length < s.stop) ∧
      ∀ (d : Document) (m : Markers) (noticeStrays : Bool),
        let scan := d.fragments m noticeStrays
        (∀ notice ∈ scan.notices, ∃ diag parts,
          notice.report.diagnostic = some diag ∧ diag.parts theme f = .ok parts) ∧
        ∀ problem, scan.result = .error problem → ∃ diag parts,
          problem.report.diagnostic = some diag ∧ diag.parts theme f = .ok parts) := by
  refine ⟨fun diag => ?_, parts_ne_index theme f, fun hdraw =>
    ⟨fun d s => hdraw.breaks_iff, fun d m noticeStrays => ⟨?_, ?_⟩⟩⟩
  · rw [exists_error_parts_iff]
    refine or_congr_right ⟨?_, ?_⟩
    · rintro ⟨r, hr, hbreaks⟩
      obtain ⟨i, hi, hlt⟩ := mem_shownRelated.mp hr
      exact ⟨i, r, hi, hlt, hbreaks⟩
    · rintro ⟨i, r, hi, hlt, hbreaks⟩
      exact ⟨r, mem_shownRelated.mpr ⟨i, hi, hlt⟩, hbreaks⟩
  · exact fun notice h => exists_parts_of_notice hdraw h
  · intro problem h
    obtain ⟨places, hpoints⟩ := exists_pointsAt h
    exact hpoints.exists_parts hdraw

/-- A related place that ends beyond its document matters only if it is shown. -/
theorem parts_error_iff_breaks_leftOut :
    let near : Related := ⟨"near", ⟨0, 1, by decide⟩, { text := ['a', 'b'] }⟩
    let far : Related := ⟨"far", ⟨0, 9, by decide⟩, { text := ['a', 'b'] }⟩
    let diag : Diagnostic := {
      message := "look here", severity := .warn, span := ⟨1, 2, by decide⟩
      document := { text := ['a', 'b'] }, related := [near, far] }
    (∃ fault, diag.parts {} {} = .error fault) ∧
      ¬ ∃ fault, diag.parts {} { maxRelated := -1 } = .error fault := by
  intro near far diag
  refine ⟨((parts_error_iff_breaks {} {}).1 diag).mpr
    (Or.inr ⟨1, far, rfl, by decide, Or.inl (by decide)⟩), fun h => ?_⟩
  obtain ⟨hall, -, hdraws⟩ := parts_error_iff_breaks {} { maxRelated := -1 }
  have hbreaks := (hdraws ⟨by decide, by decide, by decide⟩).1
  rcases (hall diag).mp h with hown | ⟨i, r, hr, hlt, hout⟩
  · exact absurd ((hbreaks _ _).mp hown) (by decide)
  · -- only the first one is shown
    obtain rfl : i = 0 := by
      change (i : Int) < 1 at hlt
      omega
    obtain rfl : near = r := Option.some.inj hr
    exact absurd ((hbreaks _ _).mp hout) (by decide)

/-- A width far below zero leaves the carets of a frame no place. -/
theorem parts_error_of_negativeWidth :
    let diag : Diagnostic := {
      message := "look here", severity := .error, span := ⟨0, 1, by decide⟩
      document := { text := ['a', 'b'] } }
    diag.span.stop ≤ diag.document.text.length ∧ diag.related = [] ∧
      diag.parts {} { maxLineWidth := -(10 ^ 20) } = .error .indent := by
  decide

end Diagnostics

end Standin
