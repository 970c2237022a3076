import Standin.Document
import Mathlib.Data.Set.Card

/-!
# Lines and places

* `Terminator`, `LineEnds`: a line terminator from one position to another, and that one ends at a
  position;
* `mem_lineStarts`, `pairwise_lineStarts`: the table of line starts ascends, and holds the start of
  the text, its end, and the places at which a terminator ends;
* `lt_line_iff`: a line is passed just when its start is;
* `bisectRight`: the search by halves in an ascending table finds the line;
* **`lineCol_corresponds`**: positions and places correspond one to one, in the same order;
* `lineCol_length`: the end of a text is in the first column of a line behind all others;
* `Document.EndsInPlace`, **`endsInPlace_iff`**: the documents whose end is where an editor has it.
-/

namespace Standin.Text

variable {s l : Text} {ls : List Text} {c : CodePoint} {k p q start : Nat}

/-! ## Where lines end -/

/-- A line terminator stands from `i` up to `j`: a carriage return with the line feed behind it, or
another character that ends a line and is no part of such a pair. -/
inductive Terminator (s : Text) : (i j : Nat) → Prop
  | pair {i : Nat} :
      s[i]? = some (.char '\r') → s[i + 1]? = some (.char '\n') → Terminator s i (i + 2)
  | single {i : Nat} {c : CodePoint} : s[i]? = some c → isLineEnd c = true →
      ¬ (c = '\r' ∧ s[i + 1]? = some (.char '\n')) →
      ¬ (c = '\n' ∧ ∃ k, i = k + 1 ∧ s[k]? = some (.char '\r')) → Terminator s i (i + 1)

/-- A line terminator ends at `q`. -/
def LineEnds (s : Text) (q : Nat) : Prop := ∃ i, Terminator s i q

theorem LineEnds.pos (h : LineEnds s q) : 0 < q := by
  obtain ⟨i, h⟩ := h
  cases h <;> omega

theorem LineEnds.le_length (h : LineEnds s q) : q ≤ s.length := by
  obtain ⟨i, h⟩ := h
  cases h with
  | pair _ hn => exact (List.getElem?_eq_some_iff.mp hn).1
  | single hc _ _ _ => exact (List.getElem?_eq_some_iff.mp hc).1

/-- A terminator ends behind each character that ends lines, but not within a pair. -/
theorem lineEnds_succ_iff : LineEnds s (k + 1) ↔
    ∃ c, s[k]? = some c ∧ isLineEnd c = true ∧ ¬ (c = '\r' ∧ s[k + 1]? = some (.char '\n')) := by
  constructor
  · rintro ⟨i, h⟩
    cases h with
    | pair hr hn => exact ⟨'\n', hn, rfl, by simp⟩
    | single hc hend hpair _ => exact ⟨_, hc, hend, hpair⟩
  · rintro ⟨c, hc, hend, hpair⟩
    by_cases hback : c = '\n' ∧ ∃ j, k = j + 1 ∧ s[j]? = some (.char '\r')
    · obtain ⟨rfl, j, rfl, hj⟩ := hback
      exact ⟨j, .pair hj hc⟩
    · exact ⟨k, .single hc hend hpair hback⟩

theorem lineEnds_cons : LineEnds (c :: s) (k + 1) ↔
    (k = 0 ∧ isLineEnd c = true ∧ ¬ (c = '\r' ∧ s[0]? = some (.char '\n'))) ∨ LineEnds s k := by
  cases k with
  | zero =>
    have hzero : ¬ LineEnds s 0 := fun h => h.pos.false
    simp [lineEnds_succ_iff (k := 0), hzero]
  | succ k => simp [lineEnds_succ_iff]

theorem Terminator.start_unique {j : Nat} (hi : Terminator s i q) (hj : Terminator s j q) :
    i = j := by
  cases hi with
  | pair hr hn =>
    cases hj with
    | pair _ _ => rfl
    | single hc _ _ hback => exact absurd ⟨by simp_all, _, rfl, hr⟩ hback
  | single hc _ _ hback =>
    cases hj with
    | pair hr hn => exact absurd ⟨by simp_all, _, rfl, hr⟩ hback
    | single _ _ _ _ => rfl

/-! ## The table of line starts -/

theorem ne_nil_of_mem_lines (h : l ∈ lines s) : l ≠ [] := by
  fun_induction lines s with
  | case1 => simp at h
  | case2 s ih => grind
  | case3 c s _ _ ih => grind
  | case4 c s _ _ _ _ => simp_all
  | case5 c s _ _ l' ls hls ih => grind

theorem flatten_lines (s : Text) : (lines s).flatten = s := by
  fun_induction lines s <;> simp_all

theorem exists_body_of_mem_lines (h : l ∈ lines s) : ∃ body back, l = body ++ back ∧
    (∀ c ∈ body, isLineEnd c = false) ∧
      (back = [] ∨ back = (['\r', '\n'] : Text) ∨ ∃ c, isLineEnd c = true ∧ back = [c]) := by
  fun_induction lines s generalizing l with
  | case1 => cases h
  | case2 s ih =>
    rcases List.mem_cons.mp h with rfl | h
    · exact ⟨[], _, rfl, List.forall_mem_nil _, Or.inr (Or.inl rfl)⟩
    · exact ih h
  | case3 c s _ hend ih =>
    rcases List.mem_cons.mp h with rfl | h
    · exact ⟨[], _, rfl, List.forall_mem_nil _, Or.inr (Or.inr ⟨c, hend, rfl⟩)⟩
    · exact ih h
  | case4 c s _ hend _ _ =>
    obtain rfl := List.mem_singleton.mp h
    exact ⟨[c], [], rfl, by simpa using hend, Or.inl rfl⟩
  | case5 c s _ hend l' ls hls ih =>
    rw [hls] at ih
    rcases List.mem_cons.mp h with rfl | h
    · obtain ⟨body, back, rfl, hbody, hback⟩ := ih List.mem_cons_self
      exact ⟨c :: body, back, rfl, List.forall_mem_cons.mpr ⟨by simpa using hend, hbody⟩, hback⟩
    · exact ih (List.mem_cons_of_mem _ h)

theorem getElem?_startsFrom (h : k ≤ ls.length) :
    (startsFrom start ls)[k]? = some (start + (ls.take k).flatten.length) := by
  induction ls generalizing start k with
  | nil =>
    obtain rfl := Nat.le_zero.mp h
    rfl
  | cons l ls ih =>
    cases k with
    | zero => rfl
    | succ k =>
      rw [startsFrom, List.getElem?_cons_succ, ih (Nat.le_of_succ_le_succ h), List.take_succ_cons,
        List.flatten_cons, List.length_append, Nat.add_assoc]

theorem length_startsFrom (start : Nat) (ls : List Text) :
    (startsFrom start ls).length = ls.length + 1 := by
  induction ls generalizing start with
  | nil => rfl
  | cons l ls ih => rw [startsFrom, List.length_cons, ih, List.length_cons]

theorem getElem?_lineStarts (h : k ≤ (lines s).length) :
    (lineStarts s)[k]? = some ((lines s).take k).flatten.length := by
  rw [lineStarts, getElem?_startsFrom h, Nat.zero_add]

theorem getElem?_lineStarts_length (s : Text) :
    (lineStarts s)[(lines s).length]? = some s.length := by
  rw [getElem?_lineStarts le_rfl, List.take_length, flatten_lines]

theorem getElem?_lineStarts_succ (hl : (lines s)[k]? = some l)
    (hstart : (lineStarts s)[k]? = some start) :
    (lineStarts s)[k + 1]? = some (start + l.length) := by
  obtain ⟨hk, rfl⟩ := List.getElem?_eq_some_iff.mp hl
  rw [getElem?_lineStarts hk.le] at hstart
  rw [getElem?_lineStarts hk, List.take_succ_eq_append_getElem hk, List.flatten_append,
    List.length_append, Option.some.inj hstart, List.flatten_singleton]

theorem length_lineStarts (s : Text) : (lineStarts s).length = (lines s).length + 1 :=
  length_startsFrom 0 (lines s)

theorem le_of_mem_startsFrom (h : q ∈ startsFrom start ls) : start ≤ q := by
  induction ls generalizing start with
  | nil => simp_all [startsFrom]
  | cons l ls ih =>
    rcases List.mem_cons.mp h with rfl | h
    · exact le_rfl
    · exact (Nat.le_add_right _ _).trans (ih h)

theorem pairwise_startsFrom (hls : ∀ l ∈ ls, l ≠ []) :
    (startsFrom start ls).Pairwise (· < ·) := by
  induction ls generalizing start with
  | nil => exact List.pairwise_singleton _ _
  | cons l ls ih =>
    obtain ⟨hl, hrest⟩ := List.forall_mem_cons.mp hls
    refine .cons (fun q hq => ?_) (ih hrest)
    have := le_of_mem_startsFrom hq
    have := List.length_pos_iff.mpr hl
    omega

theorem pairwise_lineStarts (s : Text) : (lineStarts s).Pairwise (· < ·) :=
  pairwise_startsFrom fun _ => ne_nil_of_mem_lines

theorem mem_startsFrom_cons (h : start < q) :
    q ∈ startsFrom start (l :: ls) ↔ q ∈ startsFrom (start + l.length) ls :=
  List.mem_cons.trans (or_iff_right h.ne')

theorem add_mem_startsFrom_lines : start + k ∈ startsFrom start (lines s) ↔
    k = 0 ∨ k = s.length ∨ LineEnds s k := by
  fun_induction lines s generalizing start k with
  | case1 =>
    have hle : LineEnds [] k → k = 0 := fun h => Nat.le_zero.mp h.le_length
    simpa [startsFrom] using hle
  | case2 s ih =>
    match k with
    | 0 => simp [startsFrom]
    | 1 =>
      have hnot : start + 1 ∉ startsFrom (start + 2) (lines s) := fun h => by
        have := le_of_mem_startsFrom h
        omega
      have hzero : ¬ LineEnds ('\n' :: s) 0 := fun h => h.pos.false
      rw [mem_startsFrom_cons (by omega)]
      simp [hnot, lineEnds_cons, hzero]
    | k + 2 =>
      have hk : start + (k + 2) = start + 2 + k := by omega
      rw [mem_startsFrom_cons (by omega), List.length_cons, List.length_singleton, hk, ih]
      simp [lineEnds_cons, isLineEnd]
      tauto
  | case3 c s hpair hend ih =>
    cases k with
    | zero => simp [startsFrom]
    | succ k =>
      have hpair : ¬ (c = '\r' ∧ s[0]? = some (.char '\n')) := by
        rintro ⟨hc, hs⟩
        cases s <;> simp_all
      have hk : start + (k + 1) = start + 1 + k := by omega
      rw [mem_startsFrom_cons (by omega), List.length_singleton, hk, ih, lineEnds_cons]
      simp [hend, hpair]
      tauto
  | case4 c s _ hend hnil _ =>
    obtain rfl : s = [] := by simpa [hnil] using (flatten_lines s).symm
    cases k with
    | zero => simp [startsFrom]
    | succ k =>
      have hle : LineEnds [] k → k = 0 := fun h => Nat.le_zero.mp h.le_length
      simpa [startsFrom, lineEnds_cons, hend] using hle
  | case5 c s _ hend l ls hls ih =>
    have hl : 0 < l.length :=
      List.length_pos_iff.mpr (ne_nil_of_mem_lines (hls ▸ List.mem_cons_self))
    have hs : s ≠ [] := by
      rintro rfl
      simp [lines] at hls
    match k with
    | 0 => simp [startsFrom]
    | 1 =>
      have hnot : start + 1 ∉ startsFrom (start + (l.length + 1)) ls := fun h => by
        have := le_of_mem_startsFrom h
        omega
      have hzero : ¬ LineEnds s 0 := fun h => h.pos.false
      rw [mem_startsFrom_cons (by omega)]
      simp [hnot, lineEnds_cons, hend, hzero, hs]
    | k + 2 =>
      have hih := @ih (k + 1) (start + 1)
      rw [hls, mem_startsFrom_cons (by omega)] at hih
      have hk : start + (k + 2) = start + 1 + (k + 1) := by omega
      have hl : start + (l.length + 1) = start + 1 + l.length := by omega
      rw [mem_startsFrom_cons (by omega), List.length_cons, hk, hl, hih]
      simp [lineEnds_cons, hend]

/-- The table of line starts holds the start of the text, its end, and all places at which a
terminator ends. -/
theorem mem_lineStarts : q ∈ lineStarts s ↔ q = 0 ∨ q = s.length ∨ LineEnds s q := by
  rw [lineStarts, ← Nat.zero_add q, add_mem_startsFrom_lines, Nat.zero_add]

/-! ## The line of a position -/

section Ascending

variable {starts : List Nat}

theorem lt_length_takeWhile_iff (h : starts.Pairwise (· < ·)) :
    k < (starts.takeWhile (· ≤ p)).length ↔ ∃ start, starts[k]? = some start ∧ start ≤ p := by
  induction starts generalizing k with
  | nil => simp
  | cons start starts ih =>
    obtain ⟨hhead, hrest⟩ := List.pairwise_cons.mp h
    by_cases hp : start ≤ p
    · cases k with
      | zero => simp [hp]
      | succ k => simp [hp, ih hrest]
    · have hbeyond : ∀ x ∈ start :: starts, p < x := by
        refine List.forall_mem_cons.mpr ⟨Nat.lt_of_not_le hp, fun x hx => ?_⟩
        exact (Nat.lt_of_not_le hp).trans (hhead x hx)
      simp only [List.takeWhile_cons, hp, decide_false, Bool.false_eq_true, if_false,
        List.length_nil, Nat.not_lt_zero, false_iff]
      rintro ⟨x, hx, hle⟩
      exact (hbeyond x (List.mem_of_getElem? hx)).not_ge hle

theorem takeWhile_eq_filter (h : starts.Pairwise (· < ·)) :
    starts.takeWhile (· ≤ p) = starts.filter (· ≤ p) := by
  induction starts with
  | nil => rfl
  | cons start starts ih =>
    obtain ⟨hhead, hrest⟩ := List.pairwise_cons.mp h
    by_cases hp : start ≤ p
    · simp [hp, ih hrest]
    · simp only [hp, decide_false, Bool.false_eq_true, not_false_eq_true,
        List.takeWhile_cons_of_neg, List.filter_cons_of_neg]
      refine (List.filter_eq_nil_iff.mpr fun x hx => ?_).symm
      have := hhead x hx
      simp
      omega

/-- The search by halves for the first entry beyond `p` from `lo` up to `hi`. -/
def bisectFrom (starts : List Nat) (p lo hi : Nat) : Nat :=
  if lo < hi then
    if p < starts.getD ((lo + hi) / 2) 0 then bisectFrom starts p lo ((lo + hi) / 2)
    else bisectFrom starts p ((lo + hi) / 2 + 1) hi
  else lo
termination_by hi - lo

/-- The number of entries up to `p` in an ascending table. -/
def bisectRight (starts : List Nat) (p : Nat) : Nat := bisectFrom starts p 0 starts.length

theorem bisectFrom_eq {n lo hi : Nat}
    (h : ∀ k, k < n ↔ ∃ start, starts[k]? = some start ∧ start ≤ p) (hlo : lo ≤ n) (hhi : n ≤ hi)
    (hlen : hi ≤ starts.length) : bisectFrom starts p lo hi = n := by
  fun_induction bisectFrom starts p lo hi with
  | case1 lo hi hlt hp ih =>
    refine ih hlo ?_ (by omega)
    by_contra hmid
    obtain ⟨start, hstart, hle⟩ := (h ((lo + hi) / 2)).mp (by omega)
    rw [List.getD_eq_getElem?_getD, hstart, Option.getD_some] at hp
    omega
  | case2 lo hi hlt hp ih =>
    refine ih ((h _).mpr ⟨_, List.getElem?_eq_getElem (by omega), ?_⟩) hhi hlen
    rw [List.getD_eq_getElem?_getD, List.getElem?_eq_getElem (by omega), Option.getD_some] at hp
    omega
  | case3 lo hi hlt => omega

/-- In an ascending table the search by halves finds what the search from the front finds. -/
theorem bisectRight_eq (h : starts.Pairwise (· < ·)) (p : Nat) :
    bisectRight starts p = (starts.takeWhile (· ≤ p)).length :=
  bisectFrom_eq (fun _ => lt_length_takeWhile_iff h) (Nat.zero_le _)
    (List.takeWhile_prefix _).length_le le_rfl

end Ascending

/-- The line of `p` is behind a line, counted from zero, just when that line starts up to `p`. -/
theorem lt_line_iff :
    k < (lineCol s p).1 ↔ ∃ start, (lineStarts s)[k]? = some start ∧ start ≤ p :=
  lt_length_takeWhile_iff (pairwise_lineStarts s)

theorem line_pos (s : Text) (p : Nat) : 0 < (lineCol s p).1 :=
  lt_line_iff.mpr ⟨0, getElem?_lineStarts (Nat.zero_le _), Nat.zero_le p⟩

theorem line_le_length (s : Text) (p : Nat) : (lineCol s p).1 ≤ (lineStarts s).length :=
  (List.takeWhile_prefix _).length_le

/-- A position is as far behind the start of its line as its column says. -/
theorem exists_start_of_line (s : Text) (p : Nat) : ∃ start,
    (lineStarts s)[(lineCol s p).1 - 1]? = some start ∧ start ≤ p ∧
      (lineCol s p).2 = p - start + 1 := by
  have hpos := line_pos s p
  obtain ⟨start, hstart, hle⟩ := lt_line_iff.mp (Nat.sub_lt hpos Nat.one_pos)
  obtain ⟨_, hget⟩ := List.getElem?_eq_some_iff.mp hstart
  exact ⟨start, hstart, hle, congrArg (fun start => p - start + 1) hget⟩

theorem lineCol_of_start {start : Nat} (h : (lineStarts s)[k]? = some start) :
    lineCol s start = (k + 1, 1) := by
  have hline : (lineCol s start).1 = k + 1 := by
    refine Nat.le_antisymm ?_ (lt_line_iff.mpr ⟨start, h, le_rfl⟩)
    by_contra hlt
    obtain ⟨next, hnext, hle⟩ := lt_line_iff.mp (Nat.lt_of_not_le hlt)
    -- the table ascends, so the next line starts behind this one
    obtain ⟨hk, rfl⟩ := List.getElem?_eq_some_iff.mp h
    obtain ⟨hk', rfl⟩ := List.getElem?_eq_some_iff.mp hnext
    have := List.pairwise_iff_getElem.mp (pairwise_lineStarts s) k (k + 1) hk hk' k.lt_add_one
    omega
  obtain ⟨start', hstart', -, hcol⟩ := exists_start_of_line s start
  rw [hline, Nat.add_sub_cancel, h] at hstart'
  obtain rfl := Option.some.inj hstart'
  exact Prod.ext hline (by omega)

theorem line_le_iff : (lineCol s p).1 ≤ (lines s).length ↔ p < s.length := by
  rw [← Nat.not_lt, lt_line_iff, getElem?_lineStarts_length]
  simp

theorem exists_append_of_lines (hl : (lines s)[k]? = some l)
    (hstart : (lineStarts s)[k]? = some start) :
    ∃ front back, s = front ++ (l ++ back) ∧ front.length = start := by
  obtain ⟨hk, rfl⟩ := List.getElem?_eq_some_iff.mp hl
  rw [getElem?_lineStarts hk.le] at hstart
  refine ⟨((lines s).take k).flatten, ((lines s).drop (k + 1)).flatten, ?_, Option.some.inj hstart⟩
  rw [← List.flatten_cons, ← List.drop_eq_getElem_cons hk, ← List.flatten_append,
    List.take_append_drop, flatten_lines]

theorem getElem?_add_of_lines {j : Nat} (hl : (lines s)[k]? = some l)
    (hstart : (lineStarts s)[k]? = some start) (hj : j < l.length) :
    s[start + j]? = l[j]? ∧ (lineCol s (start + j)).1 = k + 1 := by
  have hnext := getElem?_lineStarts_succ hl hstart
  have hpast : k < (lineCol s (start + j)).1 := lt_line_iff.mpr ⟨start, hstart, by omega⟩
  have hnot : ¬ k + 1 < (lineCol s (start + j)).1 := fun h => by
    obtain ⟨next, hnext', hle⟩ := lt_line_iff.mp h
    rw [hnext] at hnext'
    have := Option.some.inj hnext'
    omega
  obtain ⟨front, back, hs, hfront⟩ := exists_append_of_lines hl hstart
  refine ⟨?_, by omega⟩
  rw [hs, ← hfront, List.getElem?_append_right (Nat.le_add_right _ _), Nat.add_sub_cancel_left,
    List.getElem?_append_left hj]

theorem line_mono (h : p ≤ q) : (lineCol s p).1 ≤ (lineCol s q).1 := by
  by_contra hlt
  obtain ⟨start, hstart, hle⟩ := lt_line_iff.mp (Nat.lt_of_not_le hlt)
  exact (lt_line_iff.mpr ⟨start, hstart, hle.trans h⟩).false

theorem lineCol_lt (h : p < q) : (lineCol s p).1 < (lineCol s q).1 ∨
    (lineCol s p).1 = (lineCol s q).1 ∧ (lineCol s p).2 < (lineCol s q).2 := by
  rcases (line_mono h.le).lt_or_eq with hlt | heq
  · exact Or.inl hlt
  · obtain ⟨x, hx, hxp, hcolp⟩ := exists_start_of_line s p
    obtain ⟨y, hy, hyq, hcolq⟩ := exists_start_of_line s q
    obtain rfl : x = y := by
      rw [heq, hy] at hx
      exact (Option.some.inj hx).symm
    exact Or.inr ⟨heq, by omega⟩

/-- The lines in front of a position are as many as the terminators there, if all starts up to the
position are real: the end of the text is one only behind a terminator. -/
theorem line_eq_ncard_of (h : s.length ≤ p → LineEnds s s.length) :
    (lineCol s p).1 - 1 = {t : Nat × Nat | Terminator s t.1 t.2 ∧ t.2 ≤ p}.ncard := by
  have hsorted := pairwise_lineStarts s
  have hfinite : {q | LineEnds s q ∧ q ≤ p}.Finite :=
    (Set.finite_le_nat p).subset fun q hq => hq.2
  -- the line is the number of line starts up to the position
  have hline : (lineCol s p).1 = {q | q ∈ lineStarts s ∧ q ≤ p}.ncard := by
    have hnodup : ((lineStarts s).takeWhile (· ≤ p)).Nodup :=
      (hsorted.imp Nat.ne_of_lt).sublist (List.takeWhile_sublist _)
    have hset : {q | q ∈ lineStarts s ∧ q ≤ p} =
        (((lineStarts s).takeWhile (· ≤ p)).toFinset : Set Nat) := by
      ext q
      simp [takeWhile_eq_filter hsorted]
    rw [hset, Set.ncard_coe_finset, List.toFinset_card_of_nodup hnodup]
    rfl
  -- they are the start of the text and the places where terminators end
  have hstarts : {q | q ∈ lineStarts s ∧ q ≤ p} = insert 0 {q | LineEnds s q ∧ q ≤ p} := by
    ext q
    simp only [Set.mem_ofPred_eq, Set.mem_insert_iff, mem_lineStarts]
    grind
  have hzero : 0 ∉ {q | LineEnds s q ∧ q ≤ p} := fun h => h.1.pos.false
  -- and each terminator has an end of its own
  have hends : {q | LineEnds s q ∧ q ≤ p} =
      Prod.snd '' {t : Nat × Nat | Terminator s t.1 t.2 ∧ t.2 ≤ p} := by
    ext q
    simp [LineEnds]
  have hinj : Set.InjOn Prod.snd {t : Nat × Nat | Terminator s t.1 t.2 ∧ t.2 ≤ p} := by
    rintro ⟨i, j⟩ ⟨hi, -⟩ ⟨i', j'⟩ ⟨hi', -⟩ heq
    obtain rfl : j = j' := heq
    exact Prod.ext (hi.start_unique hi') rfl
  rw [hline, hstarts, Set.ncard_insert_of_notMem hzero hfinite, Nat.add_sub_cancel, hends,
    hinj.ncard_image]

theorem line_eq_ncard (h : p < s.length) :
    (lineCol s p).1 - 1 = {t : Nat × Nat | Terminator s t.1 t.2 ∧ t.2 ≤ p}.ncard :=
  line_eq_ncard_of fun hle => absurd h hle.not_gt

/-! ## The end of the text -/

/-- The table is closed by the end of the text, which so begins a line behind all others. -/
theorem lineCol_length (s : Text) : lineCol s s.length = ((lines s).length + 1, 1) :=
  lineCol_of_start (getElem?_lineStarts_length s)

theorem line_lastCharacter (h : s ≠ []) : (lineCol s (s.length - 1)).1 = (lines s).length := by
  have hpos := List.length_pos_iff.mpr h
  have hle : (lineCol s (s.length - 1)).1 ≤ (lines s).length := line_le_iff.mpr (by omega)
  obtain ⟨k, hk⟩ := Nat.exists_eq_add_one.mpr ((line_pos _ _).trans_le hle)
  have hstart := getElem?_lineStarts (s := s) (k := k) (by omega)
  have hplace := lineCol_of_start hstart
  -- the last line begins in front of the end of the text
  have hlt := line_le_iff.mp (show (lineCol s _).1 ≤ (lines s).length by rw [hplace, hk])
  have hge := line_mono (s := s) (Nat.le_sub_one_of_lt hlt)
  rw [hplace] at hge
  omega

theorem length_lines_eq_ncard (h : LineEnds s s.length) :
    (lines s).length = {t : Nat × Nat | Terminator s t.1 t.2}.ncard := by
  have hall : {t : Nat × Nat | Terminator s t.1 t.2 ∧ t.2 ≤ s.length} =
      {t : Nat × Nat | Terminator s t.1 t.2} :=
    Set.ext fun t => and_iff_left_of_imp fun ht => LineEnds.le_length ⟨t.1, ht⟩
  rw [← hall, ← line_eq_ncard_of fun _ => h, lineCol_length, Nat.add_sub_cancel]

end Standin.Text

namespace Standin

theorem Document.lineCol_eq {d : Document} {p : Nat} (h : p ≤ d.text.length) :
    d.lineCol p = .ok (Text.lineCol d.text p) := by
  rw [lineCol, if_pos (by omega), Int.toNat_natCast]

theorem Document.lineCol_beyond {d : Document} {p : Nat} (h : d.text.length < p) :
    d.lineCol p = .error (.beyond p d.text.length) := by
  rw [lineCol, if_neg (by omega)]

/-- **Positions and places correspond one to one.** Each position of a document has a line of the
table and a column there, which lead back to it; places are in the order of their positions; the
lines in front of a character are as many as the terminators in front of it; and no other position
has a place. A search by halves in the table finds the same line. -/
theorem lineCol_corresponds (d : Document) :
    let starts := Text.lineStarts d.text
    (∀ p : Nat, p ≤ d.text.length → ∃ line col start, d.lineCol p = .ok (line, col) ∧
      1 ≤ line ∧ line ≤ starts.length ∧ 1 ≤ col ∧ starts[line - 1]? = some start ∧
      start + col - 1 = p ∧ Text.bisectRight starts p = line) ∧
    (∀ p q : Nat, p < q → q ≤ d.text.length → ∃ a b, d.lineCol p = .ok a ∧ d.lineCol q = .ok b ∧
      (a.1 < b.1 ∨ a.1 = b.1 ∧ a.2 < b.2)) ∧
    (∀ p : Nat, p < d.text.length → ∃ line col, d.lineCol p = .ok (line, col) ∧
      line - 1 = {t : Nat × Nat | Text.Terminator d.text t.1 t.2 ∧ t.2 ≤ p}.ncard) ∧
    ∀ p : Int, ¬ (0 ≤ p ∧ p ≤ d.text.length) →
      d.lineCol p = .error (.beyond p d.text.length) := by
  intro starts
  refine ⟨fun p hp => ?_, fun p q hpq hq => ?_, fun p hp => ?_, fun p hp => ?_⟩
  · obtain ⟨start, hstart, hle, hcol⟩ := Text.exists_start_of_line d.text p
    have hplace : start + (Text.lineCol d.text p).2 - 1 = p := by omega
    exact ⟨(Text.lineCol d.text p).1, (Text.lineCol d.text p).2, start, d.lineCol_eq hp,
      Text.line_pos _ _, Text.line_le_length _ _, by omega, hstart, hplace,
      Text.bisectRight_eq (Text.pairwise_lineStarts _) p⟩
  · exact ⟨_, _, d.lineCol_eq (by omega), d.lineCol_eq hq, Text.lineCol_lt hpq⟩
  · exact ⟨_, _, d.lineCol_eq hp.le, Text.line_eq_ncard hp⟩
  · rw [Document.lineCol, if_neg hp]

/-- A carriage return with its line feed, and a form feed, end two lines. -/
theorem lineCol_corresponds_mixedEnds :
    let d : Document := { text := ['a', '\r', '\n', '\x0c', 'b'] }
    d.lineCol 4 = .ok (3, 1) ∧
      {t : Nat × Nat | Text.Terminator d.text t.1 t.2 ∧ t.2 ≤ 4}.ncard = 2 ∧
      d.lineCol 6 = .error (.beyond 6 5) := by
  intro d
  obtain ⟨-, -, hcount, hbeyond⟩ := lineCol_corresponds d
  obtain ⟨line, col, hplace, hends⟩ := hcount 4 (by decide)
  have hfourth : d.lineCol 4 = .ok (3, 1) := by decide
  obtain ⟨rfl, rfl⟩ : line = 3 ∧ col = 1 := by
    cases hfourth.symm.trans hplace
    exact ⟨rfl, rfl⟩
  exact ⟨hfourth, hends.symm, hbeyond 6 (by decide)⟩

/-! ## The end of a document -/

/-- The end of the document is where an editor has it: one column behind the last character, or, if
a terminator ends there, in the first column of the line behind all terminators. -/
structure Document.EndsInPlace (d : Document) : Prop where
  of_not_lineEnds : d.text ≠ [] → ¬ Text.LineEnds d.text d.text.length → ∃ line col,
    d.lineCol (d.text.length - 1) = .ok (line, col) ∧
      d.lineCol d.text.length = .ok (line, col + 1)
  of_lineEnds : Text.LineEnds d.text d.text.length → d.lineCol d.text.length =
    .ok ({t : Nat × Nat | Text.Terminator d.text t.1 t.2}.ncard + 1, 1)

theorem Document.lineCol_end (d : Document) :
    d.lineCol d.text.length = .ok ((Text.lines d.text).length + 1, 1) := by
  rw [d.lineCol_eq le_rfl, Text.lineCol_length]

theorem Document.lineCol_lastCharacter {d : Document} (h : d.text ≠ []) :
    ∃ col, d.lineCol (d.text.length - 1) = .ok ((Text.lines d.text).length, col) := by
  have hpos := List.length_pos_iff.mpr h
  have hlast : (d.text.length : Int) - 1 = (d.text.length - 1 : Nat) := by omega
  rw [hlast, d.lineCol_eq (Nat.sub_le _ _), ← Text.line_lastCharacter h]
  exact ⟨_, rfl⟩

/-- **The end of a document is in the first column of the line behind its last character**, be there
a terminator or not. So it is where an editor has it just when the document is empty or ends in a
terminator. -/
theorem endsInPlace_iff (d : Document) :
    (d.text ≠ [] → ∃ line col, d.lineCol (d.text.length - 1) = .ok (line, col) ∧
      d.lineCol d.text.length = .ok (line + 1, 1)) ∧
    (d.EndsInPlace ↔ d.text = [] ∨ Text.LineEnds d.text d.text.length) := by
  have hend := d.lineCol_end
  refine ⟨fun hne => ?_, fun hplace => ?_, fun hends => ⟨fun hne hnot => ?_, fun hterm => ?_⟩⟩
  · obtain ⟨col, hlast⟩ := d.lineCol_lastCharacter hne
    exact ⟨_, col, hlast, hend⟩
  · by_contra hnot
    obtain ⟨hne, hopen⟩ := not_or.mp hnot
    obtain ⟨col, hlast⟩ := d.lineCol_lastCharacter hne
    obtain ⟨line, col', hlast', hend'⟩ := hplace.of_not_lineEnds hne hopen
    -- the end would be on the line of the last character
    cases hlast.symm.trans hlast'
    exact Nat.succ_ne_self _ (Prod.mk.inj (Except.ok.inj (hend.symm.trans hend'))).1
  · exact absurd hends (not_or.mpr ⟨hne, hnot⟩)
  · rw [hend, Text.length_lines_eq_ncard hterm]

/-- The end of a text without line ends is on its second line, not in its third column. -/
theorem not_endsInPlace_openLine :
    let d : Document := { text := ['a', 'b'] }
    d.lineCol 1 = .ok (1, 2) ∧ d.lineCol 2 = .ok (2, 1) ∧ ¬ Text.LineEnds d.text 2 ∧
      ¬ d.EndsInPlace := by
  intro d
  have hlast : d.lineCol 1 = .ok (1, 2) := by decide
  have hend : d.lineCol 2 = .ok (2, 1) := by decide
  have hopen : ¬ Text.LineEnds d.text 2 := by
    rw [Text.lineEnds_succ_iff]
    rintro ⟨c, hc, hends, -⟩
    cases hc
    cases hends
  refine ⟨hlast, hend, hopen, fun hplace => ?_⟩
  obtain ⟨line, col, hlast', hend'⟩ := hplace.of_not_lineEnds (by simp [d]) hopen
  cases hlast.symm.trans hlast'
  cases hend.symm.trans hend'

end Standin
