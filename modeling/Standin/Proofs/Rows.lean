import Standin.Proofs.Column
import Standin.Proofs.Key
import Standin.Proofs.Line
import Mathlib.Data.List.DropRight

/-!
# The rows of a frame

* `bareLine`, `lineText_eq`: a line as a frame shows it;
* `Document.columns`: the columns of a line of a document with its tabs expanded;
* `Document.row`, `row_eq`: the row of a line from the first line of a span to the last;
* `FrameSettings.firstLine`, `FrameSettings.lastLine`: the lines between which a frame has rows;
* `FrameSettings.Spoils`: why settings do not allow the frame of a span; `FrameSettings.Drawable`:
  settings that allow all frames;
* **`frameRows_eq`**, **`frameRows_error_iff`**: the rows of a frame are those of the lines around
  the span, unless the settings do not allow it.
-/

namespace Standin

/-! ## Lines as a frame shows them -/

section Lines

variable {text l : Text} {k : Nat} {c : CodePoint}

theorem prefix_bareLine (l : Text) : bareLine l <+: l := List.rdropWhile_prefix _ l

theorem mem_of_mem_bareLine (h : c ∈ bareLine l) : c ∈ l :=
  (prefix_bareLine l).subset h

theorem bareLine_append_break {e : CodePoint} (he : e = '\r' ∨ e = '\n') (l : Text) :
    bareLine (l ++ [e]) = bareLine l :=
  List.rdropWhile_concat_pos _ l e (by simpa using he)

theorem ne_of_mem_bareLine (hl : l ∈ Text.lines text) (h : c ∈ bareLine l) :
    c ≠ '\n' ∧ c ≠ '\r' := by
  obtain ⟨body, back, rfl, hbody, hback⟩ := Text.exists_body_of_mem_lines hl
  have hplain : c ∈ body → c ≠ '\n' ∧ c ≠ '\r' := fun hc => by
    have hend := hbody c hc
    constructor <;> rintro rfl <;> cases hend
  rcases hback with rfl | rfl | ⟨e, -, rfl⟩
  · rw [List.append_nil] at h
    exact hplain (mem_of_mem_bareLine h)
  · rw [← List.singleton_append, ← List.append_assoc, bareLine_append_break (Or.inr rfl),
      bareLine_append_break (Or.inl rfl)] at h
    exact hplain (mem_of_mem_bareLine h)
  · by_cases he : e = '\r' ∨ e = '\n'
    · rw [bareLine_append_break he] at h
      exact hplain (mem_of_mem_bareLine h)
    · rcases List.mem_append.mp (mem_of_mem_bareLine h) with hc | hc
      · exact hplain hc
      · obtain rfl := List.mem_singleton.mp hc
        tauto

theorem lookup_of_getElem? {starts : List Nat} {start : Nat} (h : starts[k]? = some start) :
    lookup starts k = .ok start := by
  rw [lookup, if_neg (by omega), Int.toNat_natCast, h]

theorem lineText_eq (hl : (Text.lines text)[k]? = some l) :
    lineText text (Text.lineStarts text) (k + 1) = .ok (bareLine l) := by
  obtain ⟨start, hstart⟩ : ∃ start, (Text.lineStarts text)[k]? = some start :=
    ⟨_, Text.getElem?_lineStarts (List.getElem?_eq_some_iff.mp hl).1.le⟩
  have hnext := Text.getElem?_lineStarts_succ hl hstart
  obtain ⟨front, back, hs, hfront⟩ := Text.exists_append_of_lines hl hstart
  have hindex : ((k + 1 : Nat) : Int) - 1 = k := by omega
  unfold lineText
  rw [hindex, lookup_of_getElem? hstart, if_pos (List.getElem?_eq_some_iff.mp hnext).1,
    lookup_of_getElem? hnext]
  change Except.ok (bareLine ((text.take (start + l.length)).drop start)) = _
  rw [hs, ← hfront, ← List.append_assoc, ← List.length_append, List.take_left, List.drop_left]

end Lines

/-! ## Rows -/

/-- The columns of a line of the document, each as the position that it comes from and what it
shows. -/
def Document.columns (f : FrameSettings) (d : Document) (line : Nat) : List (Nat × CodePoint) :=
  Text.columns f.tabWidth ((Text.lineStarts d.text).getD (line - 1) 0)
    (bareLine ((Text.lines d.text).getD (line - 1) []))

/-- The width of tabs, or none at all if they cannot have that width. -/
def FrameSettings.tab (f : FrameSettings) : Text.TabWidth :=
  (Text.TabWidth.ofInt? f.tabWidth).getD ⟨0, by decide⟩

/-- The row of a line of a document. -/
def Document.row (f : FrameSettings) (d : Document) (s : Span) (line : Nat) : FrameRow :=
  rowOf f f.tab (bareLine ((Text.lines d.text).getD (line - 1) [])) (Text.lineCol d.text s.start)
    (Text.lineCol d.text s.stop) line

section Rows

variable {f : FrameSettings} {tab : Text.TabWidth} {d : Document} {s : Span} {line p : Nat}

theorem FrameSettings.tab_value (h : Text.TabWidth.Fits f.tabWidth) :
    f.tab.value = f.tabWidth := by
  rw [FrameSettings.tab, Text.TabWidth.ofInt?, dif_pos h, Option.getD_some]

theorem shownColumn_eq (tab : Text.TabWidth) (start : Nat) (l : Text) (p : Nat) :
    shownColumn tab l (p - start + 1) =
      ((Text.columns tab.value start l).countP (·.1 < p) + 1 : Nat) := by
  rw [shownColumn, Nat.add_sub_cancel, Text.length_expandTabs _ start, Text.countP_columns]
  rfl

theorem columns_succ {k start : Nat} {l : Text} (hl : (Text.lines d.text)[k]? = some l)
    (hstart : (Text.lineStarts d.text)[k]? = some start) :
    d.columns f (k + 1) = Text.columns f.tabWidth start (bareLine l) := by
  rw [Document.columns, Nat.add_sub_cancel, List.getD_eq_getElem?_getD, List.getD_eq_getElem?_getD,
    hstart, hl]
  rfl

theorem getD_lines {k : Nat} {l : Text} (hl : (Text.lines d.text)[k]? = some l) :
    (Text.lines d.text).getD (k + 1 - 1) [] = l := by
  rw [Nat.add_sub_cancel, List.getD_eq_getElem?_getD, hl, Option.getD_some]

theorem Document.exists_text_of_line (htab : tab.value = f.tabWidth) (hpos : 1 ≤ line)
    (hlines : line ≤ (Text.lines d.text).length) :
    ∃ text, lineText d.text (Text.lineStarts d.text) line = .ok text ∧
      (d.columns f line).map Prod.snd = Text.expandTabs tab text := by
  obtain ⟨k, rfl⟩ := Nat.exists_eq_add_one.mpr hpos
  have hl := List.getElem?_eq_getElem (show k < (Text.lines d.text).length from hlines)
  refine ⟨_, lineText_eq hl, ?_⟩
  rw [columns_succ hl (Text.getElem?_lineStarts (by omega)), ← htab, Text.map_snd_columns]

/-- The columns of a line come from characters of that line, and show them. -/
theorem Document.of_mem_columns {x : Nat × CodePoint} (hpos : 1 ≤ line)
    (hlines : line ≤ (Text.lines d.text).length) (h : x ∈ d.columns f line) :
    (Text.lineCol d.text x.1).1 = line ∧
      ∃ c, d.text[x.1]? = some c ∧ x.2 = if c = '\t' then .char ' ' else c := by
  obtain ⟨k, rfl⟩ := Nat.exists_eq_add_one.mpr hpos
  have hl := List.getElem?_eq_getElem (show k < (Text.lines d.text).length from hlines)
  generalize (Text.lines d.text)[k] = l at hl
  obtain ⟨start, hstart⟩ : ∃ start, (Text.lineStarts d.text)[k]? = some start :=
    ⟨_, Text.getElem?_lineStarts (by omega)⟩
  rw [columns_succ hl hstart] at h
  obtain ⟨c, hc, hshown⟩ := Text.getElem?_of_mem_columnsFrom h
  -- the line that is shown begins as the line of the document does
  have hj : l[x.1 - start]? = some c := by
    obtain ⟨back, hback⟩ := prefix_bareLine l
    rw [← hback, List.getElem?_append_left (List.getElem?_eq_some_iff.mp hc).1, hc]
  obtain ⟨htext, hline⟩ := Text.getElem?_add_of_lines hl hstart (List.getElem?_eq_some_iff.mp hj).1
  rw [Nat.add_sub_cancel' (Text.mem_columnsFrom h).1] at htext hline
  exact ⟨hline, c, htext.trans hj, hshown⟩

theorem shownColumn_lineCol {l : Text} {start : Nat} (hline : (Text.lineCol d.text p).1 = line)
    (hstart : (Text.lineStarts d.text)[line - 1]? = some start) :
    shownColumn tab l (Text.lineCol d.text p).2 =
      ((Text.columns tab.value start l).countP (·.1 < p) + 1 : Nat) := by
  obtain ⟨start', hstart', -, hcol⟩ := Text.exists_start_of_line d.text p
  rw [hline, hstart] at hstart'
  rw [hcol, Option.some.inj hstart', shownColumn_eq]

theorem firstColumn_eq {k start : Nat} (l : Text) (hfirst : (Text.lineCol d.text p).1 ≤ k + 1)
    (hstart : (Text.lineStarts d.text)[k]? = some start) :
    (if k + 1 = (Text.lineCol d.text p).1 then shownColumn tab l (Text.lineCol d.text p).2 else 1) =
      ((Text.columns tab.value start l).countP (·.1 < p) + 1 : Nat) := by
  split
  · next heq => exact shownColumn_lineCol heq.symm hstart
  · next hne =>
    have hbehind : ¬ k < (Text.lineCol d.text p).1 := by omega
    have hle : p ≤ start := by
      rw [Text.lt_line_iff, hstart] at hbehind
      simp at hbehind
      omega
    rw [Text.countP_columns_of_le hle]
    rfl

theorem lastColumn_eq {k start : Nat} {l : Text} (hlast : k + 1 ≤ (Text.lineCol d.text p).1)
    (hl : (Text.lines d.text)[k]? = some l) (hstart : (Text.lineStarts d.text)[k]? = some start) :
    (if k + 1 = (Text.lineCol d.text p).1 then
      shownColumn tab (bareLine l) (Text.lineCol d.text p).2
      else (Text.expandTabs tab (bareLine l)).length + 1) =
      ((Text.columns tab.value start (bareLine l)).countP (·.1 < p) + 1 : Nat) := by
  split
  · next heq => exact shownColumn_lineCol heq.symm hstart
  · next hne =>
    -- the next line begins behind this one
    obtain ⟨next, hnext, hle⟩ := Text.lt_line_iff.mp (Nat.lt_of_le_of_ne hlast hne)
    rw [Text.getElem?_lineStarts_succ hl hstart] at hnext
    have hge : start + (bareLine l).length ≤ p := by
      have hbare := (prefix_bareLine l).length_le
      have := Option.some.inj hnext
      omega
    rw [Text.countP_columns_of_ge hge, Text.length_expandTabs _ start]
    rfl

/-- A row that is marked, as a clipped line between two columns: as many come from in front of the
span, and as many from in front of its end. -/
theorem row_eq (htab : Text.TabWidth.Fits f.tabWidth)
    (hfirst : (Text.lineCol d.text s.start).1 ≤ line)
    (hlast : line ≤ (Text.lineCol d.text s.stop).1) (hlines : line ≤ (Text.lines d.text).length) :
    d.row f s line = ⟨line, clip ((d.columns f line).map Prod.snd)
      ((d.columns f line).countP (·.1 < s.start) + 1 : Nat)
      ((d.columns f line).countP (·.1 < s.stop) + 1 : Nat) f.maxLineWidth, true⟩ := by
  obtain ⟨k, rfl⟩ : ∃ k, line = k + 1 :=
    Nat.exists_eq_add_one.mpr ((Text.line_pos _ _).trans_le hfirst)
  have hl := List.getElem?_eq_getElem (show k < (Text.lines d.text).length from hlines)
  generalize (Text.lines d.text)[k] = l at hl
  obtain ⟨start, hstart⟩ : ∃ start, (Text.lineStarts d.text)[k]? = some start :=
    ⟨_, Text.getElem?_lineStarts (by omega)⟩
  have hmarked : decide ((Text.lineCol d.text s.start).1 ≤ k + 1 ∧
      k + 1 ≤ (Text.lineCol d.text s.stop).1) = true := decide_eq_true ⟨hfirst, hlast⟩
  unfold Document.row rowOf
  simp only [getD_lines hl, columns_succ hl hstart, ← FrameSettings.tab_value htab,
    Text.map_snd_columns, firstColumn_eq _ hfirst hstart, lastColumn_eq hlast hl hstart, hmarked]

end Rows

/-! ## Frames -/

section Failing

variable {ε α β : Type} {g : α → Except ε β}

theorem mapM_eq_ok_map {h : α → β} : ∀ {l : List α}, (∀ x ∈ l, g x = .ok (h x)) →
    l.mapM g = .ok (l.map h)
  | [], _ => rfl
  | x :: l, hall => by
    obtain ⟨hx, hl⟩ := List.forall_mem_cons.mp hall
    rw [List.mapM_cons, hx, mapM_eq_ok_map hl]
    rfl

/-- Steps of which some fail, all of these in the same way. -/
theorem mapM_eq_error {e : ε} : ∀ {l : List α}, (∀ x ∈ l, (∃ y, g x = .ok y) ∨ g x = .error e) →
    (∃ x ∈ l, g x = .error e) → l.mapM g = .error e
  | [], _, ⟨x, hx, _⟩ => absurd hx List.not_mem_nil
  | x :: l, hall, hsome => by
    obtain ⟨hx, hl⟩ := List.forall_mem_cons.mp hall
    rw [List.mapM_cons]
    rcases hx with ⟨y, hx⟩ | hx
    · have hrest : ∃ x ∈ l, g x = .error e := by
        obtain ⟨z, hz, hfail⟩ := hsome
        rcases List.mem_cons.mp hz with rfl | hz
        · rw [hx] at hfail
          cases hfail
        · exact ⟨z, hz, hfail⟩
      rw [hx, mapM_eq_error hl hrest]
      rfl
    · rw [hx]
      rfl

end Failing

namespace FrameSettings

/-- The number of the first line of a frame. -/
def firstLine (f : FrameSettings) (d : Document) (s : Span) : Int :=
  max 1 ((Text.lineCol d.text s.start).1 - f.contextLines)

/-- The number of the last line of a frame. It is less than the first one if there are no rows. -/
def lastLine (f : FrameSettings) (d : Document) (s : Span) : Int :=
  min (Text.lines d.text).length ((Text.lineCol d.text s.stop).1 + f.contextLines)

/-- The settings do not allow the frame of a span, with the fault that comes of it. -/
inductive Spoils (f : FrameSettings) (d : Document) (s : Span) : FrameFault → Prop
  /-- Less than none of the lines is shown, and how many less is too long to be written. -/
  | lineNumber : f.lastLine d s < 0 → ¬ Text.Writable (f.lastLine d s).natAbs →
      f.Spoils d s .lineNumber
  /-- A line is shown, and tabs cannot have the width that they are given. -/
  | tabWidth : f.firstLine d s ≤ f.lastLine d s →
      ¬ Text.TabWidth.Fits f.tabWidth → f.Spoils d s .tabWidth
  /-- A line is shown, and its width is so far below zero that its carets cannot be placed. -/
  | indent : f.firstLine d s ≤ f.lastLine d s → Text.TabWidth.Fits f.tabWidth →
      f.gutter (f.lastLine d s) + 1 + f.maxLineWidth / 3 < leastOffset → f.Spoils d s .indent

/-- Numbers that every frame can be drawn with. -/
structure Drawable (f : FrameSettings) : Prop where
  tabWidth : Text.TabWidth.Fits f.tabWidth
  contextLines : f.contextLines < 0 → Text.Writable f.contextLines.natAbs
  maxLineWidth : leastOffset ≤ f.maxLineWidth

end FrameSettings

section Frames

variable {f : FrameSettings} {d : Document} {s : Span} {rows : List FrameRow} {r : FrameRow}
  {fault : FrameFault}

theorem mem_numbersBetween {lo hi : Int} {n : Nat} (hlo : 0 ≤ lo) :
    n ∈ numbersBetween lo hi ↔ lo ≤ n ∧ n ≤ hi := by
  unfold numbersBetween
  rw [List.mem_map]
  constructor
  · rintro ⟨i, hi, rfl⟩
    rw [List.mem_range] at hi
    omega
  · intro h
    exact ⟨(n - lo).toNat, List.mem_range.mpr (by omega), by omega⟩

theorem pairwise_numbersBetween {lo hi : Int} (hlo : 0 ≤ lo) :
    (numbersBetween lo hi).Pairwise (· < ·) := by
  refine List.Pairwise.map _ (fun i j hij => ?_) List.pairwise_lt_range
  omega

theorem lines_pos (hin : s.stop ≤ d.text.length) : 0 < (Text.lines d.text).length :=
  (Text.line_pos _ _).trans_le (Text.line_le_iff.mpr (s.start_lt_stop.trans_le hin))

theorem frameLines_eq (f : FrameSettings) (hin : s.stop ≤ d.text.length) (start stop : Nat × Nat) :
    frameLines f (Text.lineStarts d.text) start stop =
      (max 1 (start.1 - f.contextLines),
        min ((Text.lines d.text).length : Int) (stop.1 + f.contextLines)) := by
  have hlines := lines_pos hin
  unfold frameLines
  rw [Text.length_lineStarts]
  congr 2
  omega

/-- Carets stand further to the left than can be counted only for a width far below zero: then all
of the line is left out in front of them. -/
theorem offset_row_lt_iff (f : FrameSettings) (d : Document) (s : Span) (gutter line : Nat) :
    (d.row f s line).offset gutter < leastOffset ↔
      gutter + 1 + f.maxLineWidth / 3 < leastOffset := by
  obtain ⟨l, first, last, hfirst, hshown⟩ : ∃ (l : Text) (first last : Int), 1 ≤ first ∧
      (d.row f s line).shown = clip l first last f.maxLineWidth := by
    refine ⟨_, _, _, ?_, rfl⟩
    split
    · exact Int.le_add_of_nonneg_left (Int.natCast_nonneg _)
    · exact Int.le_refl 1
  rw [FrameRow.offset, hshown, clip, leastOffset]
  split
  · dsimp only
    omega
  · dsimp only
    split
    · rw [List.length_singleton]
      omega
    · rw [List.length_nil]
      omega

theorem frameRow_eq {gutter line : Nat} (hpos : 1 ≤ line)
    (hlines : line ≤ (Text.lines d.text).length) :
    frameRow f d.text (Text.lineStarts d.text) (Text.lineCol d.text s.start)
        (Text.lineCol d.text s.stop) gutter line =
      if Text.TabWidth.Fits f.tabWidth then
        if (d.row f s line).marked = true ∧ gutter + 1 + f.maxLineWidth / 3 < leastOffset then
          .error .indent
        else .ok (d.row f s line)
      else .error .tabWidth := by
  obtain ⟨k, rfl⟩ := Nat.exists_eq_add_one.mpr hpos
  have hl := List.getElem?_eq_getElem (show k < (Text.lines d.text).length from hlines)
  generalize (Text.lines d.text)[k] = l at hl
  simp only [← offset_row_lt_iff f d s gutter (k + 1)]
  rw [frameRow, lineText_eq hl]
  unfold Document.row FrameSettings.tab
  rw [getD_lines hl]
  by_cases htab : Text.TabWidth.Fits f.tabWidth
  · rw [if_pos htab, Text.TabWidth.ofInt?, dif_pos htab]
    rfl
  · rw [if_neg htab, Text.TabWidth.ofInt?, dif_neg htab]
    rfl

theorem exists_marked (hin : s.stop ≤ d.text.length) (h : f.firstLine d s ≤ f.lastLine d s) :
    ∃ line ∈ numbersBetween (f.firstLine d s) (f.lastLine d s), (d.row f s line).marked = true := by
  have hpos := Text.line_pos d.text s.start
  have hmono := Text.line_mono (s := d.text) s.start_lt_stop.le
  have hlines := Text.line_le_iff.mpr (s.start_lt_stop.trans_le hin)
  unfold FrameSettings.firstLine FrameSettings.lastLine at h ⊢
  -- lines in front of the span are shown only together with its first line
  rcases Int.le_total 0 f.contextLines with hcontext | hcontext
  · refine ⟨(Text.lineCol d.text s.start).1, (mem_numbersBetween (by omega)).mpr (by omega), ?_⟩
    exact decide_eq_true ⟨le_rfl, hmono⟩
  · have hfirst : ((max 1 ((Text.lineCol d.text s.start).1 - f.contextLines)).toNat : Int) =
        max 1 ((Text.lineCol d.text s.start).1 - f.contextLines) := by omega
    refine ⟨_, (mem_numbersBetween (by omega)).mpr ⟨hfirst.ge, hfirst.trans_le h⟩, ?_⟩
    exact decide_eq_true ⟨by omega, by omega⟩

/-- The rows of a frame are made one by one, if the number of the last one can be written. -/
theorem frameRows_eq_mapM (f : FrameSettings) (hin : s.stop ≤ d.text.length) :
    frameRows f d s =
      if f.lastLine d s < 0 ∧ ¬ Text.Writable (f.lastLine d s).natAbs then .error .lineNumber
      else (numbersBetween (f.firstLine d s) (f.lastLine d s)).mapM
        (frameRow f d.text (Text.lineStarts d.text) (Text.lineCol d.text s.start)
          (Text.lineCol d.text s.stop) (f.gutter (f.lastLine d s))) := by
  unfold frameRows
  rw [Document.lineCol_eq (s.start_lt_stop.le.trans hin), Document.lineCol_eq hin]
  simp only [bind, Except.bind, Except.mapError, frameLines_eq f hin, FrameSettings.firstLine,
    FrameSettings.lastLine]
  rfl

theorem mem_lines_of_frame {line : Nat}
    (h : line ∈ numbersBetween (f.firstLine d s) (f.lastLine d s)) :
    1 ≤ line ∧ line ≤ (Text.lines d.text).length := by
  unfold FrameSettings.firstLine FrameSettings.lastLine at h
  have := (mem_numbersBetween (by omega)).mp h
  omega

theorem numbersBetween_eq_nil {lo hi : Int} (h : ¬ lo ≤ hi) : numbersBetween lo hi = [] := by
  unfold numbersBetween
  rw [show (hi + 1 - lo).toNat = 0 by omega]
  rfl

/-- **The rows of a frame** are those of the lines around the span. -/
theorem frameRows_eq (hin : s.stop ≤ d.text.length) (h : ∀ fault, ¬ f.Spoils d s fault) :
    frameRows f d s =
      .ok ((numbersBetween (f.firstLine d s) (f.lastLine d s)).map (d.row f s)) := by
  rw [frameRows_eq_mapM f hin, if_neg fun hlong => h _ (.lineNumber hlong.1 hlong.2)]
  by_cases hrows : f.firstLine d s ≤ f.lastLine d s
  · have htab := not_not.mp fun htab => h _ (.tabWidth hrows htab)
    refine mapM_eq_ok_map fun line hline => ?_
    obtain ⟨hpos, hle⟩ := mem_lines_of_frame hline
    rw [frameRow_eq hpos hle, if_pos htab, if_neg fun hfar => h _ (.indent hrows htab hfar.2)]
  · rw [numbersBetween_eq_nil hrows]
    rfl

theorem frameRows_of_spoils (hin : s.stop ≤ d.text.length) (h : f.Spoils d s fault) :
    frameRows f d s = .error fault := by
  rw [frameRows_eq_mapM f hin]
  cases h with
  | lineNumber hneg hlong => exact if_pos ⟨hneg, hlong⟩
  | tabWidth hrows htab =>
    have hpos : 1 ≤ f.firstLine d s := Int.le_max_left _ _
    rw [if_neg (by omega)]
    obtain ⟨line, hline, -⟩ := exists_marked hin hrows
    have hall : ∀ n ∈ numbersBetween (f.firstLine d s) (f.lastLine d s), frameRow f d.text
        (Text.lineStarts d.text) (Text.lineCol d.text s.start) (Text.lineCol d.text s.stop)
        (f.gutter (f.lastLine d s)) n = .error .tabWidth := fun n hn => by
      rw [frameRow_eq (mem_lines_of_frame hn).1 (mem_lines_of_frame hn).2, if_neg htab]
    exact mapM_eq_error (fun n hn => Or.inr (hall n hn)) ⟨line, hline, hall line hline⟩
  | indent hrows htab hfar =>
    have hpos : 1 ≤ f.firstLine d s := Int.le_max_left _ _
    rw [if_neg (by omega)]
    obtain ⟨line, hline, hmarked⟩ := exists_marked hin hrows
    refine mapM_eq_error (fun n hn => ?_) ⟨line, hline, ?_⟩
    · rw [frameRow_eq (mem_lines_of_frame hn).1 (mem_lines_of_frame hn).2, if_pos htab]
      split
      · exact Or.inr rfl
      · exact Or.inl ⟨_, rfl⟩
    · rw [frameRow_eq (mem_lines_of_frame hline).1 (mem_lines_of_frame hline).2, if_pos htab,
        if_pos ⟨hmarked, hfar⟩]

/-- **A frame fails** just when the settings do not allow it. -/
theorem frameRows_error_iff (hin : s.stop ≤ d.text.length) :
    frameRows f d s = .error fault ↔ f.Spoils d s fault := by
  refine ⟨fun h => ?_, frameRows_of_spoils hin⟩
  by_contra hno
  by_cases hsome : ∃ other, f.Spoils d s other
  · obtain ⟨other, hother⟩ := hsome
    obtain rfl := Except.error.inj ((frameRows_of_spoils hin hother).symm.trans h)
    exact hno hother
  · rw [frameRows_eq hin (not_exists.mp hsome)] at h
    cases h

theorem FrameSettings.Drawable.not_spoils (h : f.Drawable) (d : Document) (s : Span)
    (fault : FrameFault) : ¬ f.Spoils d s fault := by
  rintro (⟨hneg, hlong⟩ | ⟨-, htab⟩ | ⟨-, -, hfar⟩)
  · -- the last line is less far below zero than the context would have it
    have hpos := Text.line_pos d.text s.stop
    have hnear : (f.lastLine d s).natAbs ≤ f.contextLines.natAbs ∧ f.contextLines < 0 := by
      unfold FrameSettings.lastLine at hneg ⊢
      omega
    have hcontext := Text.writable_iff.mp (h.contextLines hnear.2)
    exact hlong (Text.writable_iff.mpr (hnear.1.trans_lt hcontext))
  · exact htab h.tabWidth
  · have := h.maxLineWidth
    rw [leastOffset] at *
    omega

theorem rows_eq (hin : s.stop ≤ d.text.length) (h : frameRows f d s = .ok rows) :
    rows = (numbersBetween (f.firstLine d s) (f.lastLine d s)).map (d.row f s) := by
  have hnone : ∀ fault, ¬ f.Spoils d s fault := fun fault hspoils => by
    rw [frameRows_of_spoils hin hspoils] at h
    cases h
  exact Except.ok.inj (h.symm.trans (frameRows_eq hin hnone))

theorem exists_of_mem_rows (hin : s.stop ≤ d.text.length) (hrows : frameRows f d s = .ok rows)
    (hr : r ∈ rows) : 1 ≤ r.number ∧ r.number ≤ (Text.lines d.text).length ∧
      r = d.row f s r.number := by
  rw [rows_eq hin hrows] at hr
  obtain ⟨n, hn, rfl⟩ := List.mem_map.mp hr
  exact ⟨(mem_lines_of_frame hn).1, (mem_lines_of_frame hn).2, rfl⟩

end Frames

end Standin
