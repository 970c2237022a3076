import Standin.Page.Part
import Mathlib.Data.List.Basic

/-!
# The text of a frame

* `splitOn_append_cons`, `splitOn_of_notMem`: a text parted at a character;
* `FrameRow.gutter`, `FrameRow.lines`: what stands in front of a row, and the row as one line of
  text or, with its caret row, as two;
* **`splitOn_frameBody`**: the lines of a frame are those of its rows;
* `length_gutter`: the gutter is as wide as the blanks below it.
-/

namespace Standin

/-! ## Parting at a character -/

namespace Text

variable {sep : CodePoint}

theorem splitOn_of_notMem {s : Text} (h : sep ∉ s) : List.splitOn sep s = [s] :=
  List.splitOnP_eq_singleton fun c hc => by simpa using ne_of_mem_of_not_mem hc h

theorem splitOn_append_cons (sep : CodePoint) (a b : Text) :
    List.splitOn sep (a ++ sep :: b) = List.splitOn sep a ++ List.splitOn sep b :=
  List.splitOnP_append_cons a b (beq_self_eq_true sep)

/-- Texts with a separator in front of each, behind another text. -/
theorem splitOn_append_flatMap {α : Type} (g : α → Text) : ∀ (l : List α) (a : Text),
    List.splitOn sep (a ++ l.flatMap fun x => sep :: g x) =
      List.splitOn sep a ++ l.flatMap fun x => List.splitOn sep (g x)
  | [], a => by simp
  | x :: l, a => by
    rw [List.flatMap_cons, List.cons_append, splitOn_append_cons, splitOn_append_flatMap g l,
      List.flatMap_cons]

end Text

/-! ## Rows as lines of text -/

/-- The characters of a text that a styled text keeps. -/
def kept (t : Text) : Text := t.filter fun c => !movesCursor c

theorem kept_of_forall {t : Text} (h : ∀ c ∈ t, movesCursor c = false) : kept t = t :=
  List.filter_eq_self.mpr fun c hc => by simp [h c hc]

theorem Styled.plain_add (s : Styled) (style : String) (t : Text) :
    (s.add style t).plain = s.plain ++ kept t := by
  simp [plain, add, kept]

theorem Styled.plain_addPlain (s : Styled) (t : Text) :
    (s.addPlain t).plain = s.plain ++ kept t :=
  s.plain_add "" t

namespace FrameRow

variable {f : FrameSettings} {theme : Theme} {width : Nat} {r : FrameRow}

/-- What stands in front of a shown line: its number, if numbers are shown. -/
def gutter (f : FrameSettings) (width : Nat) (r : FrameRow) : Text :=
  if f.lineNumbers then alignRight width r.number ++ Text.ofString " | " else []

/-- The caret row of a row. -/
def caretRow (f : FrameSettings) (width : Nat) (r : FrameRow) : Text :=
  List.replicate (r.indent (if f.lineNumbers then width + 3 else 0)) (.char ' ') ++
    List.replicate r.carets (.char '^')

/-- A row as lines of text. -/
def lines (f : FrameSettings) (width : Nat) (r : FrameRow) : List Text :=
  (r.gutter f width ++ kept r.shown.text) :: if r.marked then [r.caretRow f width] else []

/-- A row as a text. -/
def text (f : FrameSettings) (width : Nat) (r : FrameRow) : Text :=
  r.gutter f width ++ kept r.shown.text ++ if r.marked then .char '\n' :: r.caretRow f width else []

/-! ### Numbers in the gutter -/

theorem toList_toString (n : Nat) : (toString n).toList = Nat.toDigits 10 n := by
  simp [toString, Nat.repr]

theorem length_toString_le {m n : Nat} (h : m ≤ n) :
    (toString m).length ≤ (toString n).length := by
  rw [← String.length_toList, ← String.length_toList, toList_toString, toList_toString]
  have hpos : 0 < (Nat.toDigits 10 n).length := Nat.length_toDigits_pos
  have hn : n < 10 ^ (Nat.toDigits 10 n).length :=
    (Nat.length_toDigits_le_iff (by decide) hpos).mp (Nat.le_refl _)
  exact (Nat.length_toDigits_le_iff (by decide) hpos).mpr (Nat.lt_of_le_of_lt h hn)

theorem mem_gutter {c : CodePoint} (h : c ∈ r.gutter f width) :
    c = ' ' ∨ c = '|' ∨ c.isDigit = true := by
  unfold gutter alignRight at h
  split at h
  · simp only [List.mem_append, List.mem_replicate, Text.ofString, Text.mem_ofChars] at h
    rcases h with (⟨-, rfl⟩ | ⟨c, h, rfl⟩) | ⟨c, h, rfl⟩
    · exact Or.inl rfl
    · rw [toList_toString] at h
      exact Or.inr (Or.inr (Nat.isDigit_of_mem_toDigits (by decide) (by decide) h))
    · have hbar : " | ".toList = [' ', '|', ' '] := rfl
      simp only [hbar, List.mem_cons, List.not_mem_nil, or_false] at h
      rcases h with rfl | rfl | rfl <;> simp
  · cases h

theorem movesCursor_of_isDigit {c : CodePoint} (h : c.isDigit = true) : movesCursor c = false := by
  have hnone : ∀ c ∈ (['\x07', '\x08', '\x0b', '\x0c', '\r'] : Text),
      c.isDigit = false := by decide
  rw [Bool.eq_false_iff]
  intro hmoves
  rw [hnone c (of_decide_eq_true hmoves)] at h
  cases h

theorem newline_notMem_gutter : CodePoint.char '\n' ∉ r.gutter f width := fun h => by
  rcases mem_gutter h with hmem | hmem | hmem <;> cases hmem

theorem kept_gutter : kept (r.gutter f width) = r.gutter f width := by
  refine kept_of_forall fun c hc => ?_
  rcases mem_gutter hc with rfl | rfl | hdigit
  · rfl
  · rfl
  · exact movesCursor_of_isDigit hdigit

theorem length_gutter (h : (toString r.number).length ≤ width) :
    (r.gutter f width).length = if f.lineNumbers then width + 3 else 0 := by
  unfold gutter alignRight
  split
  · have hbar : " | ".length = 3 := rfl
    simp only [List.length_append, List.length_replicate, Text.length_ofString, hbar]
    omega
  · rfl

theorem newline_notMem_caretRow : CodePoint.char '\n' ∉ r.caretRow f width := by
  simp [caretRow]

theorem kept_caretRow (r : FrameRow) (indent : Nat) :
    kept (.char '\n' :: List.replicate indent (.char ' ')) ++
        kept (List.replicate r.carets (.char '^')) =
      .char '\n' :: (List.replicate indent (.char ' ') ++ List.replicate r.carets (.char '^')) := by
  rw [kept_of_forall (by simp [movesCursor]), kept_of_forall (by simp [movesCursor]),
    List.cons_append]

/-- Carets stand from one column up to another. -/
theorem caretRow_eq {left right : Nat} (hleft : r.shown.first = (left + 1 : Nat))
    (hright : r.shown.last = (right + 1 : Nat)) : r.caretRow f width =
      List.replicate ((if f.lineNumbers then width + 3 else 0) + left) (.char ' ') ++
        List.replicate (max 1 (right - left)) (.char '^') := by
  have hindent : ∀ gutter, r.indent gutter = gutter + left := fun gutter => by
    rw [indent, offset, hleft]
    omega
  have hcarets : r.carets = max 1 (right - left) := by
    rw [carets, hleft, hright]
    omega
  rw [caretRow, hindent, hcarets]

theorem splitOn_text (h : CodePoint.char '\n' ∉ r.shown.text) :
    List.splitOn (.char '\n') (r.text f width) = r.lines f width := by
  have hline : CodePoint.char '\n' ∉ r.gutter f width ++ kept r.shown.text := fun hmem => by
    rcases List.mem_append.mp hmem with hg | hs
    · exact newline_notMem_gutter hg
    · exact h (List.mem_of_mem_filter hs)
  unfold text lines
  split
  · rw [Text.splitOn_append_cons, Text.splitOn_of_notMem hline,
      Text.splitOn_of_notMem newline_notMem_caretRow]
    rfl
  · rw [List.append_nil, Text.splitOn_of_notMem hline]

/-- A row adds its text to a body. -/
theorem plain_addRow (theme : Theme) (f : FrameSettings) (width : Nat) (body : Styled)
    (r : FrameRow) : (addRow theme f width body r).plain = body.plain ++ r.text f width := by
  have hgutter : (if f.lineNumbers then
      (body.add theme.lineNumber (alignRight width r.number)).addPlain (Text.ofString " | ")
      else body).plain = body.plain ++ r.gutter f width := by
    rw [← kept_gutter]
    unfold gutter
    split
    · simp only [Styled.plain_addPlain, Styled.plain_add, kept, List.filter_append,
        List.append_assoc]
    · simp [kept]
  unfold addRow text
  by_cases hmarked : r.marked
  · simp only [hmarked, if_true, Styled.plain_add, Styled.plain_addPlain, hgutter, caretRow,
      List.append_assoc, kept_caretRow]
  · rw [Bool.not_eq_true] at hmarked
    simp only [hmarked, Bool.false_eq_true, if_false, Styled.plain_addPlain, hgutter,
      List.append_assoc, List.append_nil]

end FrameRow

/-! ## Bodies -/

variable {theme : Theme} {f : FrameSettings} {rows : List FrameRow}

/-- The cells that line numbers take: those of the last number. -/
def numberWidth (rows : List FrameRow) : Nat :=
  (toString ((rows.getLast?.map FrameRow.number).getD 0)).length

theorem plain_foldl_addRow (theme : Theme) (f : FrameSettings) (width : Nat) :
    ∀ (rows : List FrameRow) (body : Styled),
      (rows.foldl (fun body r => addRow theme f width (body.addPlain ['\n']) r) body).plain =
        body.plain ++ rows.flatMap fun r => .char '\n' :: r.text f width
  | [], body => (List.append_nil _).symm
  | r :: rows, body => by
    have hnewline : kept (['\n'] : Text) = (['\n'] : Text) := rfl
    rw [List.foldl_cons, plain_foldl_addRow theme f width rows, FrameRow.plain_addRow,
      Styled.plain_addPlain, hnewline, List.flatMap_cons]
    simp

/-- **The lines of a frame are those of its rows.** -/
theorem splitOn_frameBody (hrows : rows ≠ []) (h : ∀ r ∈ rows, CodePoint.char '\n' ∉ r.shown.text) :
    List.splitOn (.char '\n') (frameBody theme f rows).plain =
      rows.flatMap (FrameRow.lines f (numberWidth rows)) := by
  cases rows with
  | nil => exact absurd rfl hrows
  | cons r rows =>
    obtain ⟨hr, hrest⟩ := List.forall_mem_cons.mp h
    have hempty : Styled.plain {} = [] := rfl
    change List.splitOn (.char '\n')
      (List.foldl _ (addRow theme f (numberWidth (r :: rows)) {} r) rows).plain = _
    rw [plain_foldl_addRow, FrameRow.plain_addRow, hempty, List.nil_append,
      Text.splitOn_append_flatMap, FrameRow.splitOn_text hr, List.flatMap_cons]
    congr 1
    exact List.flatMap_congr fun r hr => FrameRow.splitOn_text (hrest r hr)

end Standin
