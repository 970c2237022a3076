import Standin.Frame
import Mathlib.Data.List.Basic

/-!
# Columns of a shown line

* `Text.columns`: the columns that a line takes when its tabs are expanded, each with the position
  that it comes from; `map_snd_columns` ties them to `expandTabs`;
* `lt_iff_of_getElem?_columns`: what comes from characters in front stands in front;
* `window`, `windowStart`: the columns that are left of a clipped line, the ellipsis being one, and
  where they begin; **`clip_columns`**: clipping shows the window and moves two columns along;
* `Shows`, `CaretsMark`: what a place of a window shows, and carets at the places that show
  something with a property; **`caretsMark_window`**: carets between the two columns mark what lies
  between;
* `Clipped.Keeps`, `Clipped.Fits`: a clipped line still shows what was between the columns, and is
  no wider than it may be; **`clip_fits_iff`**: the first always holds, the second unless the
  ellipsis stands in front of a full width.
-/

namespace Standin

namespace Text

variable {width : Int} {s line : Text} {x : Nat × CodePoint} {col i k p start : Nat}

/-! ## Where columns come from -/

/-- The columns of the character at position `i`, which stands at column `col`. -/
def charColumns (width : Int) (col i : Nat) (c : CodePoint) : List (Nat × CodePoint) :=
  if c = '\t' then List.replicate (tabFill width col) (i, ' ') else [(i, c)]

/-- The column behind a character at column `col`. -/
def columnAfter (width : Int) (col : Nat) (c : CodePoint) : Nat :=
  if c = '\t' then col + tabFill width col else if c = '\n' ∨ c = '\r' then 0 else col + 1

/-- The columns of a text that begins at column `col` and position `i`, each as the position that it
comes from and what it shows. -/
def columnsFrom (width : Int) : (col i : Nat) → Text → List (Nat × CodePoint)
  | _, _, [] => []
  | col, i, c :: s =>
    charColumns width col i c ++ columnsFrom width (columnAfter width col c) (i + 1) s

/-- The columns of a line that begins at position `start`. -/
def columns (width : Int) (start : Nat) (line : Text) : List (Nat × CodePoint) :=
  columnsFrom width 0 start line

theorem map_snd_columnsFrom : ∀ (s : Text) (col i : Nat),
    (columnsFrom width col i s).map Prod.snd = expandTabsFrom (fun _ => 1) width col s
  | [], _, _ => rfl
  | c :: s, col, i => by
    rw [columnsFrom, expandTabsFrom, List.map_append, map_snd_columnsFrom s]
    unfold charColumns columnAfter
    by_cases hc : c = '\t' <;> simp [hc]

/-- The columns show the line with its tabs expanded. -/
theorem map_snd_columns (tab : TabWidth) (start : Nat) (line : Text) :
    (columns tab.value start line).map Prod.snd = expandTabs tab line :=
  map_snd_columnsFrom line 0 start

theorem length_expandTabs (tab : TabWidth) (start : Nat) (line : Text) :
    (expandTabs tab line).length = (columns tab.value start line).length := by
  rw [← map_snd_columns tab start, List.length_map]

theorem columnsFrom_append : ∀ (a b : Text) (col i : Nat), ∃ col',
    columnsFrom width col i (a ++ b) =
      columnsFrom width col i a ++ columnsFrom width col' (i + a.length) b
  | [], b, col, i => ⟨col, rfl⟩
  | c :: a, b, col, i => by
    obtain ⟨col', h⟩ := columnsFrom_append a b (columnAfter width col c) (i + 1)
    refine ⟨col', ?_⟩
    rw [List.cons_append, columnsFrom, columnsFrom, h, List.append_assoc, List.length_cons,
      Nat.add_right_comm, Nat.add_assoc]

theorem fst_of_mem_charColumns {c : CodePoint} (h : x ∈ charColumns width col i c) : x.1 = i := by
  unfold charColumns at h
  split at h
  · rw [List.eq_of_mem_replicate h]
  · rw [List.mem_singleton.mp h]

theorem mem_columnsFrom (h : x ∈ columnsFrom width col i s) : i ≤ x.1 ∧ x.1 < i + s.length := by
  induction s generalizing col i with
  | nil => simp [columnsFrom] at h
  | cons c s ih =>
    rw [List.length_cons]
    rcases List.mem_append.mp h with hx | hx
    · have := fst_of_mem_charColumns hx
      omega
    · have := ih hx
      omega

theorem getElem?_of_mem_columnsFrom (h : x ∈ columnsFrom width col i s) :
    ∃ c, s[x.1 - i]? = some c ∧ x.2 = if c = '\t' then .char ' ' else c := by
  induction s generalizing col i with
  | nil => simp [columnsFrom] at h
  | cons c s ih =>
    rcases List.mem_append.mp h with hx | hx
    · refine ⟨c, by rw [fst_of_mem_charColumns hx, Nat.sub_self, List.getElem?_cons_zero], ?_⟩
      unfold charColumns at hx
      split at hx
      · next htab => rw [List.eq_of_mem_replicate hx, if_pos htab]
      · next htab => rw [List.mem_singleton.mp hx, if_neg htab]
    · obtain ⟨e, he, hshown⟩ := ih hx
      refine ⟨e, ?_, hshown⟩
      have hle := (mem_columnsFrom hx).1
      rw [← he, show x.1 - i = x.1 - (i + 1) + 1 by omega, List.getElem?_cons_succ]

theorem exists_columns_append (width : Int) (start : Nat) (line : Text) (p : Nat) : ∃ rest,
    columns width start line = columns width start (line.take (p - start)) ++ rest ∧
    (∀ x ∈ columns width start (line.take (p - start)), x.1 < p) ∧ ∀ x ∈ rest, p ≤ x.1 := by
  obtain ⟨col', h⟩ : ∃ col', columns width start (line.take (p - start) ++ line.drop (p - start)) =
      columns width start (line.take (p - start)) ++ columnsFrom width col' _ _ :=
    columnsFrom_append _ _ 0 start
  rw [List.take_append_drop] at h
  refine ⟨_, h, fun x hx => ?_, fun x hx => ?_⟩
  · have := mem_columnsFrom hx
    rw [List.length_take] at this
    omega
  · have := mem_columnsFrom hx
    rw [List.length_take, List.length_drop] at this
    omega

theorem countP_columns (width : Int) (start : Nat) (line : Text) (p : Nat) :
    (columns width start line).countP (·.1 < p) =
      (columns width start (line.take (p - start))).length := by
  obtain ⟨rest, hline, hfront, hback⟩ := exists_columns_append width start line p
  have hnone : rest.countP (·.1 < p) = 0 :=
    List.countP_eq_zero.mpr fun x hx => by simpa using hback x hx
  have hall : (columns width start (line.take (p - start))).countP (·.1 < p) = _ :=
    List.countP_eq_length.mpr fun x hx => by simpa using hfront x hx
  rw [hline, List.countP_append, hnone, hall, Nat.add_zero]

theorem countP_columns_of_le (h : p ≤ start) :
    (columns width start line).countP (·.1 < p) = 0 := by
  rw [countP_columns, Nat.sub_eq_zero_of_le h]
  rfl

theorem countP_columns_of_ge (h : start + line.length ≤ p) :
    (columns width start line).countP (·.1 < p) = (columns width start line).length := by
  rw [countP_columns, List.take_of_length_le (by omega)]

/-- A column comes from a position in front of `p` just when it is one of the first columns, as many
as come from there. -/
theorem lt_iff_of_getElem?_columns (h : (columns width start line)[k]? = some x) :
    x.1 < p ↔ k < (columns width start line).countP (·.1 < p) := by
  rw [countP_columns]
  obtain ⟨rest, hline, hfront, hback⟩ := exists_columns_append width start line p
  rw [hline] at h
  by_cases hk : k < (columns width start (line.take (p - start))).length
  · rw [List.getElem?_append_left hk] at h
    exact iff_of_true (hfront x (List.mem_of_getElem? h)) hk
  · rw [List.getElem?_append_right (Nat.le_of_not_lt hk)] at h
    exact iff_of_false (Nat.not_lt.mpr (hback x (List.mem_of_getElem? h))) hk

theorem exists_getElem?_columns (h : ∃ x ∈ columns width start line, x.1 = p) :
    ∃ x, (columns width start line)[(columns width start line).countP (·.1 < p)]? = some x ∧
      x.1 = p := by
  obtain ⟨y, hy, rfl⟩ := h
  obtain ⟨k, hk⟩ := List.mem_iff_getElem?.mp hy
  have hle : (columns width start line).countP (·.1 < y.1) ≤ k := by
    have := lt_iff_of_getElem?_columns (p := y.1) hk
    omega
  have hlen := (List.getElem?_eq_some_iff.mp hk).1
  have hx := List.getElem?_eq_getElem (Nat.lt_of_le_of_lt hle hlen)
  refine ⟨_, hx, ?_⟩
  have hge := lt_iff_of_getElem?_columns (p := y.1) hx
  have hlt := lt_iff_of_getElem?_columns (p := y.1 + 1) hx
  have hnext := lt_iff_of_getElem?_columns (p := y.1 + 1) hk
  omega

theorem slice_add (s : Text) (i n : Nat) : slice s i (i + n) = (s.drop i).take n := by
  unfold slice bound
  rw [if_neg (by omega), if_neg (by omega), List.drop_take]
  by_cases h : i ≤ s.length
  · have hi : min (i : Int).toNat s.length = i := by omega
    rw [hi, List.take_eq_take_iff, List.length_drop]
    omega
  · rw [List.drop_eq_nil_of_le (by omega), List.drop_eq_nil_of_le (by omega), List.take_nil,
      List.take_nil]

end Text

/-! ## Windows -/

/-- The mark in front of columns that begin at `lo`: an ellipsis, if any are left out. -/
def ellipsis (lo : Nat) : List (Option (Nat × CodePoint)) := if lo = 0 then [] else [none]

/-- The columns from `lo` on, no more than `width` of them, and the ellipsis in front. -/
def window (columns : List (Nat × CodePoint)) (lo width : Nat) : List (Option (Nat × CodePoint)) :=
  ellipsis lo ++ ((columns.drop lo).take width).map some

/-- What a column shows. -/
def columnChar : Option (Nat × CodePoint) → CodePoint
  | none => '…'
  | some (_, c) => c

/-- Where the window of a line begins: at the front if all columns fit, else a third of the width in
front of the column `first`. -/
def windowStart (width first length : Nat) : Nat :=
  if length ≤ width then 0 else first - width / 3

section Window

variable {columns : List (Nat × CodePoint)} {x : Nat × CodePoint} {lo width first last k : Nat}

theorem windowStart_le (width first length : Nat) : windowStart width first length ≤ first := by
  unfold windowStart
  split <;> omega

theorem le_windowStart_add {length : Nat} (h : first ≤ length) :
    first ≤ windowStart width first length + width := by
  unfold windowStart
  split <;> omega

theorem lt_windowStart_add {length : Nat} (hwidth : 0 < width) (h : first < length) :
    first < windowStart width first length + width := by
  unfold windowStart
  split <;> omega

theorem length_window : (window columns lo width).length =
    (ellipsis lo).length + min width (columns.length - lo) := by
  simp [window]

theorem length_ellipsis (lo : Nat) : (ellipsis lo).length = min lo 1 := by
  unfold ellipsis
  split
  · next h => rw [h, List.length_nil, Nat.zero_min]
  · next h => rw [List.length_singleton, Nat.min_eq_right (Nat.one_le_iff_ne_zero.mpr h)]

theorem eq_none_of_mem_ellipsis {y : Option (Nat × CodePoint)} (h : y ∈ ellipsis lo) :
    y = none := by
  unfold ellipsis at h
  split at h <;> simp_all

theorem getElem?_window : (window columns lo width)[k]? = some (some x) ↔
    (ellipsis lo).length ≤ k ∧ k - (ellipsis lo).length < width ∧
      columns[lo + (k - (ellipsis lo).length)]? = some x := by
  unfold window
  by_cases hk : k < (ellipsis lo).length
  · rw [List.getElem?_append_left hk]
    constructor
    · intro h
      cases eq_none_of_mem_ellipsis (List.mem_of_getElem? h)
    · intro h
      omega
  · rw [List.getElem?_append_right (Nat.le_of_not_lt hk), and_iff_right (Nat.le_of_not_lt hk),
      List.getElem?_map, List.getElem?_take, List.getElem?_drop]
    by_cases hw : k - (ellipsis lo).length < width <;> simp [hw]

/-- **Clipping shows the window**, and moves both columns along with it, the second one no further
than behind the window. -/
theorem clip_columns (hfirst : first ≤ last) (hlast : last ≤ columns.length) (hwidth : 0 < width) :
    let lo := windowStart width first columns.length
    clip (columns.map Prod.snd) (first + 1) (last + 1) width =
      ⟨(window columns lo width).map columnChar, (first - lo + (ellipsis lo).length + 1 : Nat),
        (min (last - lo + (ellipsis lo).length) (window columns lo width).length + 1 : Nat)⟩ := by
  intro lo
  have hle : lo ≤ first := windowStart_le width first columns.length
  unfold clip
  rw [List.length_map, length_window]
  by_cases hfit : columns.length ≤ width
  · have hlo : lo = 0 := if_pos hfit
    rw [if_pos (by omega), hlo]
    have hshown : (window columns 0 width).map columnChar = columns.map Prod.snd := by
      simp only [window, ellipsis, if_pos, List.nil_append, List.drop_zero,
        List.take_of_length_le hfit, List.map_map]
      rfl
    rw [hshown, Clipped.mk.injEq]
    simp only [ellipsis, if_pos, List.length_nil, true_and]
    omega
  · have hlo : max 0 ((first : Int) + 1 - 1 - width / 3) = (lo : Int) := by
      have : lo = first - width / 3 := if_neg hfit
      omega
    have hmark : (if 0 < (lo : Int) then ['…'] else [] : Text) = (ellipsis lo).map columnChar := by
      unfold ellipsis
      by_cases h : lo = 0
      · simp [h]
      · rw [if_pos (by omega), if_neg h]
        rfl
    have hshown : (window columns lo width).map columnChar =
        (ellipsis lo).map columnChar ++ ((columns.map Prod.snd).drop lo).take width := by
      rw [window, List.map_append, List.map_map, ← List.map_drop, ← List.map_take]
      rfl
    rw [if_neg (by omega), Clipped.mk.injEq]
    simp only [hlo, hmark, Text.slice_add, hshown, List.length_append, List.length_map,
      List.length_take, List.length_drop, true_and]
    omega

/-! ## Carets -/

/-- Place `k` shows a column that comes from a position with the property. -/
def Shows (cells : List (Option (Nat × CodePoint))) (P : Nat → Prop) (k : Nat) : Prop :=
  ∃ x, cells[k]? = some (some x) ∧ P x.1

/-- Carets stand at the places that show something with the property, or, if no place does, at the
place `first` alone. -/
structure CaretsMark (cells : List (Option (Nat × CodePoint))) (P : Nat → Prop) (first : Nat)
    (carets : Text) : Prop where
  blank_or_caret : ∀ c ∈ carets, c = ' ' ∨ c = '^'
  caret_iff : ∀ k : Nat, carets[k]? = some (.char '^') ↔
    Shows cells P k ∨ (¬ ∃ j, Shows cells P j) ∧ k = first
  not_ellipsis : ∀ k : Nat, carets[k]? = some (.char '^') → cells[k]? ≠ some none

theorem getElem?_carets {a n : Nat} :
    (List.replicate a (.char ' ') ++ List.replicate n (.char '^') : Text)[k]? = some (.char '^') ↔
      a ≤ k ∧ k < a + n := by
  by_cases hk : k < a
  · rw [List.getElem?_append_left (by simpa using hk), List.getElem?_replicate_of_lt hk]
    simp
    omega
  · rw [List.getElem?_append_right (by simpa using hk), List.length_replicate,
      List.getElem?_replicate]
    simp
    omega

variable {P : Nat → Prop}

theorem shows_window_iff (hP : ∀ (k : Nat) x, columns[k]? = some x → (P x.1 ↔ first ≤ k ∧ k < last))
    (hlast : last ≤ columns.length) (hlo : lo ≤ first) : Shows (window columns lo width) P k ↔
      first - lo + (ellipsis lo).length ≤ k ∧ k < last - lo + (ellipsis lo).length ∧
        k < width + (ellipsis lo).length := by
  unfold Shows
  simp only [getElem?_window]
  constructor
  · rintro ⟨x, ⟨hmark, hwidth, hx⟩, hPx⟩
    have := (hP _ x hx).mp hPx
    omega
  · rintro ⟨hfirst, hlt, hwidth⟩
    have hlen : lo + (k - (ellipsis lo).length) < columns.length := by omega
    have hx := List.getElem?_eq_getElem hlen
    exact ⟨_, ⟨by omega, by omega, hx⟩, (hP _ _ hx).mpr (by omega)⟩

theorem shows_first {x : Nat × CodePoint} (hx : columns[first]? = some x) (hPx : P x.1)
    (hwidth : 0 < width) :
    let lo := windowStart width first columns.length
    Shows (window columns lo width) P (first - lo + (ellipsis lo).length) := by
  intro lo
  have hlo : lo ≤ first := windowStart_le width first columns.length
  have hvisible : first < lo + width :=
    lt_windowStart_add hwidth (List.getElem?_eq_some_iff.mp hx).1
  refine ⟨x, getElem?_window.mpr ⟨Nat.le_add_left _ _, by omega, ?_⟩, hPx⟩
  rwa [Nat.add_sub_cancel, Nat.add_sub_cancel' hlo]

theorem not_ellipsis_of_le (h : (ellipsis lo).length ≤ k) :
    (window columns lo width)[k]? ≠ some none := by
  rw [window, List.getElem?_append_right h, List.getElem?_map]
  intro hnone
  obtain ⟨x, -, hx⟩ := Option.map_eq_some_iff.mp hnone
  cases hx

/-- **Carets from the first column up to the last one mark what lies between them**, as far as it is
in the window. The first column is. -/
theorem caretsMark_window
    (hP : ∀ (k : Nat) x, columns[k]? = some x → (P x.1 ↔ first ≤ k ∧ k < last))
    (hfirst : first ≤ last) (hlast : last ≤ columns.length) (hwidth : 0 < width) :
    let lo := windowStart width first columns.length
    let left := first - lo + (ellipsis lo).length
    let right := min (last - lo + (ellipsis lo).length) (window columns lo width).length
    CaretsMark (window columns lo width) P left
      (List.replicate left (.char ' ') ++ List.replicate (max 1 (right - left)) (.char '^')) := by
  intro lo left right
  have hlo : lo ≤ first := windowStart_le width first columns.length
  have hshows : ∀ k, Shows (window columns lo width) P k ↔ _ :=
    fun k => shows_window_iff hP hlast hlo
  have hlen : (window columns lo width).length = _ := length_window
  constructor
  · intro c hc
    simp only [List.mem_append, List.mem_replicate] at hc
    tauto
  · intro k
    rw [getElem?_carets, hshows]
    rcases Nat.eq_or_lt_of_le hfirst with rfl | hlt
    · -- nothing lies between the columns
      have hnone : ¬ ∃ j, Shows (window columns lo width) P j := by
        rintro ⟨j, hj⟩
        have := (hshows j).mp hj
        omega
      rw [and_iff_right hnone]
      omega
    · have hvisible : first < lo + width :=
        lt_windowStart_add hwidth (Nat.lt_of_lt_of_le hlt hlast)
      have hsome : ∃ j, Shows (window columns lo width) P j :=
        ⟨left, (hshows left).mpr (by omega)⟩
      simp only [hsome, not_true_eq_false, false_and, or_false]
      omega
  · intro k hk
    exact not_ellipsis_of_le (by have := (getElem?_carets.mp hk).1; omega)

/-! ## Width -/

/-- A clipped line keeps the columns `[first, last)` of a line: what is left of them is in order, on
the clipped line, and shows what they show, and the first of them is left. -/
structure Clipped.Keeps (r : Clipped) (l : Text) (first last : Int) : Prop where
  one_le_first : 1 ≤ r.first
  first_le_last : r.first ≤ r.last
  last_le : r.last ≤ r.text.length + 1
  shows : ∀ i : Nat, r.first + i < r.last → ∃ c, r.text[(r.first + i - 1).toNat]? = some c ∧
    l[(first + i - 1).toNat]? = some c
  first_lt_last : first < last → r.first < r.last

/-- A clipped line fits a width: it keeps the columns and, if something was cut off, has no more
characters than the width. -/
structure Clipped.Fits (r : Clipped) (l : Text) (first last width : Int) : Prop
    extends r.Keeps l first last where
  length_le : width < l.length → r.text.length ≤ width

theorem getElem?_map_window (h : columns[lo + k]? = some x) (hk : k < width) :
    ((window columns lo width).map columnChar)[(ellipsis lo).length + k]? = some x.2 := by
  have hcell : (window columns lo width)[(ellipsis lo).length + k]? = some (some x) :=
    getElem?_window.mpr ⟨Nat.le_add_right _ _, by omega, by rwa [Nat.add_sub_cancel_left]⟩
  rw [List.getElem?_map, hcell]
  rfl

theorem keeps_clip (hfirst : first ≤ last) (hlast : last ≤ columns.length) (hwidth : 0 < width) :
    (clip (columns.map Prod.snd) (first + 1) (last + 1) width).Keeps (columns.map Prod.snd)
      (first + 1) (last + 1) := by
  rw [clip_columns hfirst hlast hwidth]
  have hlo := windowStart_le width first columns.length
  have hfits : first ≤ windowStart width first columns.length + width :=
    le_windowStart_add (Nat.le_trans hfirst hlast)
  have hvisible : first < last → first < windowStart width first columns.length + width :=
    fun h => lt_windowStart_add hwidth (Nat.lt_of_lt_of_le h hlast)
  have hlen := @length_window columns (windowStart width first columns.length) width
  generalize windowStart width first columns.length = lo at hlo hfits hvisible hlen ⊢
  constructor <;> dsimp only
  case one_le_first => omega
  case first_le_last => omega
  case last_le =>
    rw [List.length_map]
    omega
  case shows =>
    intro i hi
    -- the column that is `i` behind the first one
    obtain ⟨x, hx⟩ : ∃ x, columns[lo + (first - lo + i)]? = some x :=
      ⟨_, List.getElem?_eq_getElem (by omega)⟩
    have hline : ((first : Int) + 1 + i - 1).toNat = lo + (first - lo + i) := by omega
    have hplace : (((first - lo + (ellipsis lo).length + 1 : Nat) : Int) + i - 1).toNat =
        (ellipsis lo).length + (first - lo + i) := by omega
    refine ⟨x.2, ?_, ?_⟩
    · rw [hplace]
      exact getElem?_map_window hx (by omega)
    · rw [hline, List.getElem?_map, hx, Option.map_some]
  case first_lt_last => omega

theorem length_clip (hfirst : first ≤ last) (hlast : last ≤ columns.length) (hwidth : 0 < width) :
    let lo := windowStart width first columns.length
    (clip (columns.map Prod.snd) (first + 1) (last + 1) width).text.length =
      min lo 1 + min width (columns.length - lo) := by
  rw [clip_columns hfirst hlast hwidth, List.length_map, length_window, length_ellipsis]

end Window

/-- **Clipping keeps the columns it is about, and fits the width** unless the front of the line is
left out and what is shown of the rest fills the width: the ellipsis is one more character then. -/
theorem clip_fits_iff {l : Text} {first last width : Int} (hwidth : 1 ≤ width)
    (hfirst : 1 ≤ first) (hle : first ≤ last) (hlast : last ≤ l.length + 1) :
    let r := clip l first last width
    r.Keeps l first last ∧ (width < l.length → r.text.length ≤ width + 1) ∧
      (r.Fits l first last width ↔
        first - 1 ≤ width / 3 ∨ l.length < first - 1 - width / 3 + width) := by
  -- where the columns come from does not matter here
  obtain ⟨columns, rfl⟩ : ∃ columns : List (Nat × CodePoint), columns.map Prod.snd = l :=
    ⟨l.map (Prod.mk 0), by rw [List.map_map]; exact List.map_id l⟩
  obtain ⟨a, rfl⟩ : ∃ a : Nat, first = a + 1 := ⟨(first - 1).toNat, by omega⟩
  obtain ⟨b, rfl⟩ : ∃ b : Nat, last = b + 1 := ⟨(last - 1).toNat, by omega⟩
  obtain ⟨w, rfl⟩ : ∃ w : Nat, width = w := ⟨width.toNat, by omega⟩
  rw [List.length_map] at hlast ⊢
  have hab : a ≤ b := by omega
  have hb : b ≤ columns.length := by omega
  have hw : 0 < w := by omega
  have hkeeps := keeps_clip hab hb hw
  have hlen := length_clip hab hb hw
  have hlo : w < columns.length → windowStart w a columns.length = a - w / 3 := fun h =>
    if_neg (Nat.not_le.mpr h)
  refine ⟨hkeeps, fun hcut => ?_, fun hfits => ?_, fun hroom => ⟨hkeeps, fun hcut => ?_⟩⟩
  · rw [hlen]
    omega
  · by_contra hfull
    have hcut : w < columns.length := by omega
    have := hfits.length_le (by rw [List.length_map]; omega)
    rw [hlen, hlo hcut] at this
    omega
  · rw [List.length_map] at hcut
    rw [hlen, hlo (by omega)]
    omega

/-- At the end of a line the ellipsis has room. -/
theorem clip_fits_iff_lastColumn :
    let line : Text := Text.ofString "abcdefghij"
    1 ≤ (6 : Int) ∧ 1 ≤ (10 : Int) ∧ (10 : Int) ≤ 11 ∧ (11 : Int) ≤ line.length + 1 ∧
      clip line 10 11 6 = ⟨Text.ofString "…hij", 4, 5⟩ ∧ (clip line 10 11 6).Fits line 10 11 6 := by
  intro line
  have hlast : (11 : Int) ≤ line.length + 1 := by decide
  obtain ⟨-, -, hfits⟩ := @clip_fits_iff line 10 11 6 (by decide) (by decide) (by decide) hlast
  exact ⟨by decide, by decide, by decide, hlast, by decide, hfits.mpr (Or.inr (by decide))⟩

/-- In the midst of a line it has none: a frame of width three shows four characters. -/
theorem clip_overfull :
    let line : Text := Text.ofString "abcdef"
    clip line 5 6 3 = ⟨Text.ofString "…def", 3, 4⟩ ∧ ¬ (clip line 5 6 3).Fits line 5 6 3 ∧
      frameRows { maxLineWidth := 3 } { text := line } ⟨4, 5, by decide⟩ =
        .ok [⟨1, clip line 5 6 3, true⟩] := by
  intro line
  refine ⟨by decide, fun hfits => ?_, by decide⟩
  have hwide : ¬ ((clip line 5 6 3).text.length : Int) ≤ 3 := by decide
  exact hwide (hfits.length_le (by decide))

end Standin
