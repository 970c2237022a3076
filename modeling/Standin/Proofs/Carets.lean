import Standin.Proofs.FrameText
import Standin.Proofs.Rows

/-!
# Carets

* `Span.Holds`, `Span.OnLine`: the positions of a span, and the lines that they are on;
* **`carets_mark_span`**: below each line of a span a frame marks just what the line shows of it;
* **`caretRows_iff`**: which lines have a caret row.
-/

namespace Standin

/-- The span holds the character at `p`. -/
def Span.Holds (s : Span) (p : Nat) : Prop := s.start ≤ p ∧ p < s.stop

/-- A character of the span is on the line. -/
def Span.OnLine (s : Span) (d : Document) (line : Nat) : Prop :=
  ∃ p, s.Holds p ∧ (Text.lineCol d.text p).1 = line

/-! ## What a frame shows -/

section Frames

variable {f : FrameSettings} {d : Document} {s : Span} {rows : List FrameRow} {r : FrameRow}

theorem mem_expandTabs {tab : Text.TabWidth} {l : Text} {c : CodePoint}
    (h : c ∈ Text.expandTabs tab l) : c = ' ' ∨ c ∈ l := by
  unfold Text.expandTabs at h
  generalize 0 = col at h
  induction l generalizing col with
  | nil => cases h
  | cons e l ih =>
    unfold Text.expandTabsFrom at h
    split at h
    · rcases List.mem_append.mp h with h | h
      · exact Or.inl (List.eq_of_mem_replicate h)
      · exact (ih _ h).imp_right (List.mem_cons_of_mem _)
    · rcases List.mem_cons.mp h with rfl | h
      · exact Or.inr List.mem_cons_self
      · exact (ih _ h).imp_right (List.mem_cons_of_mem _)

theorem mem_clip {l : Text} {first last width : Int} {c : CodePoint}
    (h : c ∈ (clip l first last width).text) : c = '…' ∨ c ∈ l := by
  unfold clip at h
  split at h
  · exact Or.inr h
  · rcases List.mem_append.mp h with h | h
    · split at h
      · exact Or.inl (List.mem_singleton.mp h)
      · cases h
    · exact Or.inr (List.mem_of_mem_take (List.mem_of_mem_drop h))

theorem shown_cases {c : CodePoint} (hin : s.stop ≤ d.text.length)
    (hrows : frameRows f d s = .ok rows) (hr : r ∈ rows) (hc : c ∈ r.shown.text) :
    c = '…' ∨ c = ' ' ∨ (c ∈ d.text ∧ c ≠ '\n' ∧ c ≠ '\r') := by
  obtain ⟨hpos, hle, heq⟩ := exists_of_mem_rows hin hrows hr
  obtain ⟨k, hk⟩ : ∃ k, r.number = k + 1 := Nat.exists_eq_add_one.mpr hpos
  have hl := List.getElem?_eq_getElem (show k < (Text.lines d.text).length by omega)
  generalize (Text.lines d.text)[k] = l at hl
  have hmem : l ∈ Text.lines d.text := List.mem_of_getElem? hl
  rw [heq, hk] at hc
  unfold Document.row rowOf at hc
  rw [getD_lines hl] at hc
  refine (mem_clip hc).imp_right fun h => (mem_expandTabs h).imp_right fun h => ?_
  have htext : c ∈ d.text := by
    rw [← Text.flatten_lines d.text]
    exact List.mem_flatten.mpr ⟨l, hmem, mem_of_mem_bareLine h⟩
  exact ⟨htext, ne_of_mem_bareLine hmem h⟩

theorem newline_notMem_shown (hin : s.stop ≤ d.text.length) (hrows : frameRows f d s = .ok rows)
    (hr : r ∈ rows) : CodePoint.char '\n' ∉ r.shown.text := fun h => by
  rcases shown_cases hin hrows hr h with h | h | h
  · cases h
  · cases h
  · exact h.2.1 rfl

theorem kept_shown (hin : s.stop ≤ d.text.length)
    (hplain : ∀ c ∈ d.text, c ∉ (['\x07', '\x08', '\x0b', '\x0c'] : Text))
    (hrows : frameRows f d s = .ok rows) (hr : r ∈ rows) : kept r.shown.text = r.shown.text := by
  refine kept_of_forall fun c hc => ?_
  rcases shown_cases hin hrows hr hc with rfl | rfl | ⟨hmem, -, hreturn⟩
  · rfl
  · rfl
  · have := hplain c hmem
    simp only [movesCursor, decide_eq_false_iff_not, List.mem_cons] at this ⊢
    tauto

theorem pairwise_number (hin : s.stop ≤ d.text.length) (hrows : frameRows f d s = .ok rows) :
    rows.Pairwise fun a b => a.number < b.number := by
  rw [rows_eq hin hrows]
  refine List.pairwise_map.mpr ?_
  exact pairwise_numbersBetween (by unfold FrameSettings.firstLine; omega)

theorem length_number_le (h : rows.Pairwise fun a b => a.number < b.number) (hr : r ∈ rows) :
    (toString r.number).length ≤ numberWidth rows := by
  refine FrameRow.length_toString_le ?_
  rcases List.eq_nil_or_concat rows with rfl | ⟨front, last, rfl⟩
  · cases hr
  · rw [List.concat_eq_append] at h hr ⊢
    have hlast : (front ++ [last]).getLast? = some last := by simp
    rw [hlast, Option.map_some, Option.getD_some]
    rcases List.mem_append.mp hr with hfront | hr
    · exact ((List.pairwise_append.mp h).2.2 r hfront last List.mem_cons_self).le
    · rw [List.mem_singleton.mp hr]

theorem exists_rows_append {line : Nat} (hin : s.stop ≤ d.text.length)
    (hcontext : 0 ≤ f.contextLines) (hrows : frameRows f d s = .ok rows)
    (hfirst : (Text.lineCol d.text s.start).1 ≤ line)
    (hlast : line ≤ (Text.lineCol d.text s.stop).1) (hlines : line ≤ (Text.lines d.text).length) :
    ∃ above below, rows = above ++ d.row f s line :: below := by
  have hpos := Text.line_pos d.text s.start
  have hmem : line ∈ numbersBetween (f.firstLine d s) (f.lastLine d s) := by
    unfold FrameSettings.firstLine FrameSettings.lastLine
    exact (mem_numbersBetween (by omega)).mpr (by omega)
  obtain ⟨front, back, hsplit⟩ := List.append_of_mem hmem
  rw [rows_eq hin hrows, hsplit, List.map_append, List.map_cons]
  exact ⟨_, _, rfl⟩

theorem exists_mem_rows {line : Nat} (hin : s.stop ≤ d.text.length) (hcontext : 0 ≤ f.contextLines)
    (hrows : frameRows f d s = .ok rows) (hfirst : (Text.lineCol d.text s.start).1 ≤ line)
    (hlast : line ≤ (Text.lineCol d.text s.stop).1) (hlines : line ≤ (Text.lines d.text).length) :
    ∃ r ∈ rows, r.number = line := by
  obtain ⟨above, below, rfl⟩ := exists_rows_append hin hcontext hrows hfirst hlast hlines
  exact ⟨_, List.mem_append_right _ List.mem_cons_self, rfl⟩

theorem framePart_eq (theme : Theme) (severity : Severity) (hin : s.stop ≤ d.text.length)
    (hrows : frameRows f d s = .ok rows) : ∃ title, framePart theme f severity d s =
      .ok (.panel (frameBody theme f rows) title (theme.header severity)) := by
  have hstart := Document.lineCol_eq (d := d) (s.start_lt_stop.le.trans hin)
  rw [framePart, hrows, hstart]
  exact ⟨_, rfl⟩

theorem exists_rows_of_framePart {theme : Theme} {severity : Severity} {part : Part}
    (hin : s.stop ≤ d.text.length) (h : framePart theme f severity d s = .ok part) :
    ∃ rows title, frameRows f d s = .ok rows ∧
      part = .panel (frameBody theme f rows) title (theme.header severity) := by
  cases hrows : frameRows f d s with
  | error fault =>
    rw [framePart, hrows] at h
    cases h
  | ok rows =>
    obtain ⟨title, hpart⟩ := framePart_eq theme severity hin hrows
    exact ⟨rows, title, rfl, Except.ok.inj (h.symm.trans hpart)⟩

theorem splitOn_framePart {theme : Theme} (hin : s.stop ≤ d.text.length)
    (hrows : frameRows f d s = .ok rows) (hne : rows ≠ []) :
    List.splitOn (.char '\n') (frameBody theme f rows).plain =
      rows.flatMap (FrameRow.lines f (numberWidth rows)) :=
  splitOn_frameBody hne fun _ hr => newline_notMem_shown hin hrows hr

theorem lines_of_marked {columns : List (Nat × CodePoint)} {number first last width : Nat}
    {P : Nat → Prop} (hP : ∀ (k : Nat) x, columns[k]? = some x → (P x.1 ↔ first ≤ k ∧ k < last))
    (hfirst : first ≤ last) (hlast : last ≤ columns.length) (hwidth : 1 ≤ f.maxLineWidth)
    (hr : r = ⟨number, clip (columns.map Prod.snd) (first + 1 : Nat) (last + 1 : Nat)
      f.maxLineWidth, true⟩)
    (hkept : kept r.shown.text = r.shown.text) (hnumber : (toString r.number).length ≤ width) :
    let lo := windowStart f.maxLineWidth.toNat first columns.length
    let cells := window columns lo f.maxLineWidth.toNat
    ∃ carets, r.lines f width = [r.gutter f width ++ cells.map columnChar,
        List.replicate (r.gutter f width).length (.char ' ') ++ carets] ∧
      CaretsMark cells P (first - lo + (ellipsis lo).length) carets := by
  intro lo cells
  have hpos : 0 < f.maxLineWidth.toNat := by omega
  refine ⟨_, ?_, caretsMark_window hP hfirst hlast hpos⟩
  have hclip := clip_columns hfirst hlast hpos
  rw [Int.toNat_of_nonneg (by omega)] at hclip
  push_cast at hr
  rw [hclip] at hr
  have hleft : r.shown.first = (first - lo + (ellipsis lo).length + 1 : Nat) := by rw [hr]
  have hright : r.shown.last =
      (min (last - lo + (ellipsis lo).length) cells.length + 1 : Nat) := by rw [hr]
  -- the blanks in front of the carets are those below the gutter and those below the line
  have hcaret := @FrameRow.caretRow_eq f width r _ _ hleft hright
  rw [← FrameRow.length_gutter (f := f) hnumber, ← List.replicate_append_replicate,
    List.append_assoc] at hcaret
  rw [FrameRow.lines, hkept, hcaret]
  subst hr
  rfl

theorem holds_iff_of_getElem?_columns {line k : Nat} {x : Nat × CodePoint}
    (h : (d.columns f line)[k]? = some x) : s.Holds x.1 ↔
      (d.columns f line).countP (·.1 < s.start) ≤ k ∧
        k < (d.columns f line).countP (·.1 < s.stop) := by
  have hstart := Text.lt_iff_of_getElem?_columns (p := s.start) h
  have hstop := Text.lt_iff_of_getElem?_columns (p := s.stop) h
  unfold Document.columns Span.Holds
  omega

theorem countP_start_le_stop (line : Nat) :
    (d.columns f line).countP (·.1 < s.start) ≤ (d.columns f line).countP (·.1 < s.stop) := by
  refine List.countP_mono_left fun x _ hx => ?_
  have := s.start_lt_stop
  simp only [decide_eq_true_eq] at hx ⊢
  omega

/-- **Carets mark the span.** Each line with a character of the span is shown, with its tabs
expanded and clipped, and the line below it has carets under just the columns that come from the
span, or one where the columns of the span would begin if none is there. No caret is under the
ellipsis, and the first character of the span is shown if it has columns. -/
theorem carets_mark_span (theme : Theme) (f : FrameSettings) (severity : Severity) {d : Document}
    {s : Span} {line : Nat} (hin : s.stop ≤ d.text.length)
    (hplain : ∀ c ∈ d.text, c ∉ (['\x07', '\x08', '\x0b', '\x0c'] : Text))
    (htab : Text.TabWidth.Fits f.tabWidth) (hcontext : 0 ≤ f.contextLines)
    (hwidth : 1 ≤ f.maxLineWidth) (hline : s.OnLine d line) :
    let columns := d.columns f line
    let first := columns.countP (·.1 < s.start)
    let lo := windowStart f.maxLineWidth.toNat first columns.length
    let cells := window columns lo f.maxLineWidth.toNat
    (∃ text, lineText d.text (Text.lineStarts d.text) line = .ok text ∧
      columns.map Prod.snd = Text.expandTabs ⟨f.tabWidth, htab⟩ text) ∧
    (∀ x ∈ columns, (Text.lineCol d.text x.1).1 = line ∧
      ∃ c, d.text[x.1]? = some c ∧ x.2 = if c = '\t' then .char ' ' else c) ∧
    ∃ above row below body title carets,
      frameRows f d s = .ok (above ++ row :: below) ∧ row.number = line ∧
      framePart theme f severity d s = .ok (.panel body title (theme.header severity)) ∧
      (let width := numberWidth (above ++ row :: below)
       let gutter := row.gutter f width
       List.splitOn (.char '\n') body.plain = above.flatMap (FrameRow.lines f width) ++
         [gutter ++ cells.map columnChar, List.replicate gutter.length (.char ' ') ++ carets] ++
         below.flatMap (FrameRow.lines f width)) ∧
      CaretsMark cells s.Holds (first - lo + (ellipsis lo).length) carets ∧
      ((∃ x ∈ columns, x.1 = s.start) → ∃ k, Shows cells (· = s.start) k) := by
  intro columns first lo cells
  obtain ⟨p, ⟨hstart, hstop⟩, rfl⟩ := hline
  have hlines := Text.line_le_iff.mpr (hstop.trans_le hin)
  have hfirst := Text.line_mono (s := d.text) hstart
  have hlast := Text.line_mono (s := d.text) hstop.le
  have hdraw : f.Drawable := ⟨htab, fun hneg => by omega,
    le_trans (by decide) hwidth⟩
  have hrows := frameRows_eq hin (hdraw.not_spoils d s)
  obtain ⟨above, below, hsplit⟩ := exists_rows_append hin hcontext hrows hfirst hlast hlines
  rw [hsplit] at hrows
  obtain ⟨title, hpart⟩ := framePart_eq theme severity hin hrows
  have hrow := row_eq htab hfirst hlast hlines
  generalize d.row f s (Text.lineCol d.text p).1 = row at hrows hrow hpart
  have hmem : row ∈ above ++ row :: below := List.mem_append_right _ List.mem_cons_self
  obtain ⟨carets, hshown, hmark⟩ := lines_of_marked (P := s.Holds)
    (fun _ _ => holds_iff_of_getElem?_columns) (countP_start_le_stop _) List.countP_le_length hwidth
    hrow (kept_shown hin hplain hrows hmem) (length_number_le (pairwise_number hin hrows) hmem)
  have hpos := Text.line_pos d.text p
  refine ⟨Document.exists_text_of_line rfl hpos hlines,
    fun x hx => d.of_mem_columns hpos hlines hx, above, row, below, _, title, carets, hrows,
    by rw [hrow], hpart, ?_, hmark, fun hvisible => ?_⟩
  · dsimp only
    rw [splitOn_framePart hin hrows (List.append_ne_nil_of_right_ne_nil _ (List.cons_ne_nil _ _)),
      List.flatMap_append, List.flatMap_cons, hshown, List.append_assoc]
  · obtain ⟨x, hx, hpos⟩ := Text.exists_getElem?_columns hvisible
    exact ⟨_, shows_first hx hpos (by omega)⟩

/-- A line that begins with a tab, and is clipped to six columns, around its third letter. -/
theorem carets_mark_span_clipped :
    let d : Document := { text := Text.ofString "\tabcdef\r\ngh" }
    let s : Span := ⟨3, 10, by decide⟩
    let cells : List (Option (Nat × CodePoint)) := [none, some (1, 'a'), some (2, 'b'),
      some (3, 'c'), some (4, 'd'), some (5, 'e'), some (6, 'f')]
    s.OnLine d 1 ∧ ∃ body title carets above below,
      framePart {} { maxLineWidth := 6 } .error d s = .ok (.panel body title "bold red") ∧
      List.splitOn (.char '\n') body.plain =
        above ++ [Text.ofString "1 | …abcdef", Text.ofString "    " ++ carets] ++ below ∧
      CaretsMark cells s.Holds 3 carets ∧ ∃ k, Shows cells (· = 3) k := by
  intro d s cells
  have hcolumns : d.columns { maxLineWidth := 6 } 1 =
      ([(0, ' '), (0, ' '), (0, ' '), (0, ' '), (1, 'a'), (2, 'b'), (3, 'c'), (4, 'd'), (5, 'e'),
        (6, 'f')] : List (Nat × CodePoint)) := by decide
  have hline : s.OnLine d 1 := ⟨3, ⟨by decide, by decide⟩, by decide⟩
  obtain ⟨-, -, above, row, below, body, title, carets, hrows, hnumber, hpart, hlines, hmark,
    hvisible⟩ := carets_mark_span {} { maxLineWidth := 6 } .error (by decide) (by decide)
      (by decide) (by decide) (by decide) hline
  have hgutter : row.gutter { maxLineWidth := 6 } (numberWidth (above ++ row :: below)) =
      Text.ofString "1 | " := by
    rw [rows_eq (by decide) hrows, FrameRow.gutter, hnumber]
    decide
  dsimp only at hlines
  rw [hcolumns] at hlines hmark hvisible
  rw [hgutter] at hlines
  exact ⟨hline, body, title, carets, _, _, hpart, hlines, hmark,
    hvisible ⟨(3, 'c'), by decide, rfl⟩⟩

/-- No line is shown if tabs are given a width of more than 32 bits. -/
theorem framePart_wideTabs :
    let d : Document := { text := ['a'] }
    let s : Span := ⟨0, 1, by decide⟩
    let f : FrameSettings := { tabWidth := 2147483648 }
    s.stop ≤ d.text.length ∧ (∀ c ∈ d.text, c ∉ (['\x07', '\x08', '\x0b', '\x0c'] : Text)) ∧
      0 ≤ f.contextLines ∧ 1 ≤ f.maxLineWidth ∧ s.OnLine d 1 ∧
      framePart {} f .error d s = .error .tabWidth := by
  intro d s f
  exact ⟨by decide, by simp [d], by decide, by decide, ⟨0, ⟨by decide, by decide⟩, by decide⟩,
    by decide⟩

end Frames

/-! ## Caret rows -/

section Rows

variable {f : FrameSettings} {d : Document} {s : Span} {rows : List FrameRow} {r : FrameRow}

/-- The span ends where the line begins, inside of the document. -/
def Span.StopsAtLine (s : Span) (d : Document) (line : Nat) : Prop :=
  s.stop < d.text.length ∧ Text.lineCol d.text s.stop = (line, 1)

/-- The lines from that of the start to that of the end are those of the span, and the one that
begins at the end. -/
theorem between_iff {line : Nat} (hpos : 1 ≤ line)
    (hlines : line ≤ (Text.lines d.text).length) :
    (Text.lineCol d.text s.start).1 ≤ line ∧ line ≤ (Text.lineCol d.text s.stop).1 ↔
      s.OnLine d line ∨ s.StopsAtLine d line := by
  constructor
  · rintro ⟨hfirst, hlast⟩
    rcases hfirst.eq_or_lt with rfl | hlt
    · exact Or.inl ⟨s.start, ⟨le_rfl, s.start_lt_stop⟩, rfl⟩
    · -- the line begins behind the start of the span and no further than its end
      obtain ⟨k, rfl⟩ := Nat.exists_eq_add_one.mpr hpos
      obtain ⟨start, hstart, hle⟩ := Text.lt_line_iff.mp hlast
      have hplace := Text.lineCol_of_start hstart
      rcases hle.lt_or_eq with hinside | rfl
      · refine Or.inl ⟨start, ⟨?_, hinside⟩, by rw [hplace]⟩
        by_contra hbefore
        have := Text.line_mono (s := d.text) (Nat.le_of_not_le hbefore)
        rw [hplace] at this
        omega
      · refine Or.inr ⟨Text.line_le_iff.mp ?_, hplace⟩
        rwa [hplace]
  · rintro (⟨p, ⟨hstart, hstop⟩, rfl⟩ | ⟨-, hplace⟩)
    · exact ⟨Text.line_mono hstart, Text.line_mono hstop.le⟩
    · have hmono := Text.line_mono (s := d.text) s.start_lt_stop.le
      rw [hplace] at hmono ⊢
      exact ⟨hmono, le_rfl⟩

theorem Span.StopsAtLine.not_onLine {line : Nat} (h : s.StopsAtLine d line) :
    ¬ s.OnLine d line := by
  rintro ⟨p, ⟨-, hstop⟩, hline⟩
  obtain ⟨start, -, -, hcol⟩ := Text.exists_start_of_line d.text p
  have hlt := Text.lineCol_lt (s := d.text) hstop
  rw [h.2, hline] at hlt
  omega

theorem marked_iff (hin : s.stop ≤ d.text.length) (hrows : frameRows f d s = .ok rows)
    (hr : r ∈ rows) : r.marked = true ↔ s.OnLine d r.number ∨ s.StopsAtLine d r.number := by
  obtain ⟨hpos, hlines, heq⟩ := exists_of_mem_rows hin hrows hr
  rw [← between_iff hpos hlines, heq]
  exact decide_eq_true_iff

/-- **Which lines have a caret row**: those with a character of the span, and the line that begins
where the span ends. So carets stand only under lines of the span unless it ends where a line
begins. -/
theorem caretRows_iff (theme : Theme) (f : FrameSettings) (severity : Severity) {d : Document}
    {s : Span} (hin : s.stop ≤ d.text.length) (hcontext : 0 ≤ f.contextLines) :
    (f.Drawable → ∃ part, framePart theme f severity d s = .ok part) ∧
    ∀ part, framePart theme f severity d s = .ok part →
    ∃ rows body title, frameRows f d s = .ok rows ∧
      part = .panel body title (theme.header severity) ∧
      List.splitOn (.char '\n') body.plain = rows.flatMap (FrameRow.lines f (numberWidth rows)) ∧
      (∀ r ∈ rows, r.marked = true ↔ s.OnLine d r.number ∨ s.StopsAtLine d r.number) ∧
      ((∀ r ∈ rows, r.marked = true → s.OnLine d r.number) ↔ ∀ line, ¬ s.StopsAtLine d line) := by
  refine ⟨fun hdraw => ?_, fun part hpart => ?_⟩
  · obtain ⟨title, hpart⟩ :=
      framePart_eq theme severity hin (frameRows_eq hin (hdraw.not_spoils d s))
    exact ⟨_, hpart⟩
  obtain ⟨rows, title, hrows, rfl⟩ := exists_rows_of_framePart hin hpart
  have hmono := Text.line_mono (s := d.text) s.start_lt_stop.le
  obtain ⟨_, hfirst, -⟩ := exists_mem_rows hin hcontext hrows le_rfl hmono
    (Text.line_le_iff.mpr (s.start_lt_stop.trans_le hin))
  refine ⟨rows, _, title, hrows, rfl, splitOn_framePart hin hrows (List.ne_nil_of_mem hfirst),
    fun r hr => marked_iff hin hrows hr, ?_, ?_⟩
  · rintro honly line hstops
    -- the line that begins at the end of the span has a row, too
    obtain ⟨r, hr, hnumber⟩ := exists_mem_rows hin hcontext hrows hmono le_rfl
      (Text.line_le_iff.mpr hstops.1)
    obtain rfl : r.number = line := by rw [hnumber, hstops.2]
    exact hstops.not_onLine (honly r hr ((marked_iff hin hrows hr).mpr (Or.inr hstops)))
  · intro hnone r hr hcaret
    exact ((marked_iff hin hrows hr).mp hcaret).resolve_right (hnone _)

/-- A span that ends with the text, in a last line that is empty otherwise. -/
theorem caretRows_iff_lastLine :
    let d : Document := { text := Text.ofString "ab\n\n" }
    let s : Span := ⟨1, 4, by decide⟩
    ∃ rows, frameRows {} d s = .ok rows ∧ ∀ r ∈ rows, r.marked = true → s.OnLine d r.number := by
  intro d s
  obtain ⟨hdraws, hmarks⟩ := caretRows_iff {} {} .error (d := d) (s := s) (by decide) (by decide)
  obtain ⟨part, hpart⟩ := hdraws ⟨by decide, by decide, by decide⟩
  obtain ⟨rows, -, -, hrows, -, -, -, honly⟩ := hmarks part hpart
  exact ⟨rows, hrows, honly.mpr fun line hstops => absurd hstops.1 (by decide)⟩

/-- The line behind a span has a caret if the span ends where the line begins. -/
theorem caretRow_below_span :
    let d : Document := { text := Text.ofString "ab\ncd" }
    let s : Span := ⟨0, 3, by decide⟩
    ∃ rows body title, frameRows {} d s = .ok rows ∧
      framePart {} {} .error d s = .ok (.panel body title "bold red") ∧
      List.splitOn (.char '\n') body.plain =
        ["1 | ab", "    ^^", "2 | cd", "    ^"].map Text.ofString ∧
      ∃ r ∈ rows, r.marked = true ∧ ¬ s.OnLine d r.number := by
  intro d s
  have hin : s.stop ≤ d.text.length := by decide
  have hdraw : ({} : FrameSettings).Drawable := ⟨by decide, by decide, by decide⟩
  have hrows := frameRows_eq hin (hdraw.not_spoils d s)
  obtain ⟨title, hpart⟩ := framePart_eq {} .error hin hrows
  refine ⟨_, _, title, hrows, hpart, by decide, _, List.mem_cons_of_mem _ List.mem_cons_self,
    by decide, ?_⟩
  exact Span.StopsAtLine.not_onLine ⟨by decide, by decide⟩

end Rows

end Standin
