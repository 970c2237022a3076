import Standin.Proofs.KeySpace

/-!
# Which key is found

* `Keys.drawn`, `Keys.counted`: the keys that are tried, first by drawing and then by counting up
  around;
* `Keys.FindsFirst`: the key is the first free one that is drawn, else the first one that is
  counted, and there is none only if no key is free;
* `Keys.Legible`: no number is too long to be written in front of the first free key;
* **`Keys.findsFirst_iff_legible`**: the first free key is found just when this holds, and so
  always if keys are no longer than numbers may be.
-/

namespace Standin.Keys

variable {k : Keys} {taken : List Text} {avoid key : Text} {d : Draws}

/-- The key of the number that is drawn after `i` others. -/
def drawn (k : Keys) (d : Draws) (i : Nat) : Text := k.spell (d.number k.size i)

/-- The key that is met `i` steps behind that of the last draw, counting up around. -/
def counted (k : Keys) (taken : List Text) (d : Draws) (i : Nat) : Text :=
  k.spell (k.passed taken d i)

/-- The search ends at the first free key that is drawn, or else at the first one that is counted
from one more draw on. It fails only if no key is free. -/
structure FindsFirst (k : Keys) (taken : List Text) (avoid : Text) (d : Draws) : Prop where
  drawn : ∀ i < taken.length + 32, IsLeast {i | k.Free taken avoid (k.drawn d i)} i →
    k.next taken avoid d = (d.skip (i + 1), .ok (k.drawn d i))
  counted : (∀ i < taken.length + 32, ¬ k.Free taken avoid (k.drawn d i)) →
    (k.next taken avoid d).1 = d.skip (taken.length + 33) ∧
    ∀ key, (k.next taken avoid d).2 = .ok key ↔
      ∃ i, IsLeast {i | k.Free taken avoid (k.counted taken d i)} i ∧ k.counted taken d i = key
  fails_iff : (∃ fault, (k.next taken avoid d).2 = .error fault) ↔ ∀ key, ¬ k.Free taken avoid key

/-- No number that comes up in front of the first free key, or as that of the key, is too long to be
written. -/
structure Legible (k : Keys) (taken : List Text) (avoid : Text) (d : Draws) : Prop where
  drawn : ∀ i < taken.length + 32, (∀ j < i, ¬ k.Free taken avoid (k.drawn d j)) →
    Text.Writable (d.number k.size i)
  counted : (∀ i < taken.length + 32, ¬ k.Free taken avoid (k.drawn d i)) →
    ∀ i, IsLeast {i | k.Free taken avoid (k.counted taken d i)} i →
      ∀ j ≤ i, Text.Writable (k.passed taken d j)

/-! ## Numbers that end the search -/

theorem stops_iff {n : Nat} (hn : n < k.size) :
    k.Stops (k.isFree taken avoid) n ↔ (Text.Writable n → k.Free taken avoid (k.spell n)) := by
  rw [free_iff, and_iff_right (isKey_spell hn)]
  rfl

theorem not_stops {n : Nat} (hn : n < k.size) (hw : Text.Writable n)
    (hfree : ¬ k.Free taken avoid (k.spell n)) : ¬ k.Stops (k.isFree taken avoid) n := fun h =>
  hfree ((stops_iff hn).mp h hw)

/-- Counting up, a free key is met if there is one, and within one round. -/
theorem exists_isLeast_counted (taken : List Text) (d : Draws) (h : k.Free taken avoid key) :
    ∃ i < k.size, IsLeast {i | k.Free taken avoid (k.counted taken d i)} i := by
  classical
  obtain ⟨i, hi, rfl⟩ := exists_passed taken d h.isKey
  have hmet : ∃ i, k.Free taken avoid (k.counted taken d i) := ⟨i, h⟩
  exact ⟨Nat.find hmet, (Nat.find_min' hmet h).trans_lt hi, Nat.find_spec hmet,
    fun j => Nat.find_min' hmet⟩

/-! ## Keys that are found -/

theorem next_of_free_drawn {i : Nat} (hi : i < taken.length + 32)
    (h : IsLeast {i | k.Free taken avoid (k.drawn d i)} i)
    (hw : ∀ j ≤ i, Text.Writable (d.number k.size j)) :
    k.next taken avoid d = (d.skip (i + 1), .ok (k.drawn d i)) := by
  rw [next_of_drawn hi ((stops_iff (k.number_lt d i)).mpr fun _ => h.1) fun j hj =>
    not_stops (k.number_lt d j) (hw j hj.le) fun hfree => Nat.not_le.mpr hj (h.2 hfree),
    write_of_writable (hw i le_rfl)]
  rfl

theorem next_of_free_counted {i : Nat}
    (hdrawn : ∀ j < taken.length + 32, ¬ k.Stops (k.isFree taken avoid) (d.number k.size j))
    (hi : i < k.size) (h : IsLeast {i | k.Free taken avoid (k.counted taken d i)} i)
    (hw : ∀ j ≤ i, Text.Writable (k.passed taken d j)) :
    k.next taken avoid d = (d.skip (taken.length + 33), .ok (k.counted taken d i)) := by
  rw [next_of_counted hdrawn hi ((stops_iff (k.passed_lt taken d i)).mpr fun _ => h.1) fun j hj =>
    not_stops (k.passed_lt taken d j) (hw j hj.le) fun hfree => Nat.not_le.mpr hj (h.2 hfree),
    write_of_writable (hw i le_rfl)]
  rfl

theorem fails_of_not_free (h : ∀ key, ¬ k.Free taken avoid key) :
    ∃ fault, (k.next taken avoid d).2 = .error fault := by
  cases hnext : (k.next taken avoid d).2 with
  | error fault => exact ⟨fault, rfl⟩
  | ok key => exact absurd (free_of_next hnext) (h key)

theorem Legible.not_stops_of_not_drawn (h : k.Legible taken avoid d)
    (hdrawn : ∀ i < taken.length + 32, ¬ k.Free taken avoid (k.drawn d i)) :
    ∀ i < taken.length + 32, ¬ k.Stops (k.isFree taken avoid) (d.number k.size i) := fun i hi =>
  not_stops (k.number_lt d i) (h.drawn i hi fun j hj => hdrawn j (hj.trans hi)) (hdrawn i hi)

theorem Legible.findsFirst (h : k.Legible taken avoid d) : k.FindsFirst taken avoid d := by
  have hfound : ∀ {i}, i < taken.length + 32 →
      IsLeast {i | k.Free taken avoid (k.drawn d i)} i →
      k.next taken avoid d = (d.skip (i + 1), .ok (k.drawn d i)) := fun hi hleast =>
    next_of_free_drawn hi hleast fun j hj => h.drawn j (hj.trans_lt hi) fun j' hj' hfree =>
      Nat.not_le.mpr (hj'.trans_le hj) (hleast.2 hfree)
  have hcounted : ∀ {i}, (∀ i < taken.length + 32, ¬ k.Free taken avoid (k.drawn d i)) →
      IsLeast {i | k.Free taken avoid (k.counted taken d i)} i →
      k.next taken avoid d = (d.skip (taken.length + 33), .ok (k.counted taken d i)) := by
    intro i hdrawn hleast
    obtain ⟨i', hi', hleast'⟩ := exists_isLeast_counted taken d hleast.1
    obtain rfl := hleast.unique hleast'
    exact next_of_free_counted (h.not_stops_of_not_drawn hdrawn) hi' hleast
      (h.counted hdrawn i hleast)
  refine ⟨fun i => hfound, fun hdrawn => ⟨?_, fun key => ⟨fun hkey => ?_, ?_⟩⟩, ?_,
    fails_of_not_free⟩
  · rw [next_of_not_drawn (h.not_stops_of_not_drawn hdrawn)]
  · obtain ⟨i, -, hleast⟩ := exists_isLeast_counted taken d (free_of_next hkey)
    rw [hcounted hdrawn hleast] at hkey
    exact ⟨i, hleast, Except.ok.inj hkey⟩
  · rintro ⟨i, hleast, rfl⟩
    rw [hcounted hdrawn hleast]
  · -- a search that fails has not met a free key, be it by drawing or by counting
    rintro ⟨fault, hfault⟩ key hfree
    rcases exists_first_or_forall_not (fun i => k.Free taken avoid (k.drawn d i))
      (taken.length + 32) with ⟨i, hi, hdrawn, hbefore⟩ | hdrawn
    · rw [hfound hi ⟨hdrawn, fun j hj => Nat.le_of_not_lt fun hlt => hbefore j hlt hj⟩] at hfault
      cases hfault
    · obtain ⟨i, -, hleast⟩ := exists_isLeast_counted taken d hfree
      rw [hcounted hdrawn hleast] at hfault
      cases hfault

/-! ## Numbers that cannot be written -/

theorem exists_first_unwritable {number : Nat → Nat} {n : Nat} (h : ¬ Text.Writable (number n)) :
    ∃ i ≤ n, ¬ Text.Writable (number i) ∧ ∀ j < i, Text.Writable (number j) := by
  classical
  have hsome : ∃ i, ¬ Text.Writable (number i) := ⟨n, h⟩
  exact ⟨Nat.find hsome, Nat.find_min' hsome h, Nat.find_spec hsome,
    fun j hj => not_not.mp (Nat.find_min hsome hj)⟩

theorem next_of_drawn_unwritable {n : Nat} (hn : n < taken.length + 32)
    (hbefore : ∀ j < n, ¬ k.Free taken avoid (k.drawn d j))
    (h : ¬ Text.Writable (d.number k.size n)) :
    ∃ i < taken.length + 32, k.next taken avoid d = (d.skip (i + 1), .error .tooLong) := by
  obtain ⟨i, hi, hlong, hshort⟩ := exists_first_unwritable h
  refine ⟨i, hi.trans_lt hn, ?_⟩
  rw [next_of_drawn (hi.trans_lt hn) (fun hw => absurd hw hlong) fun j hj =>
    not_stops (k.number_lt d j) (hshort j hj) (hbefore j (hj.trans_le hi)),
    write_of_not_writable hlong]

theorem next_of_counted_unwritable {n : Nat} (hn : n < k.size)
    (hdrawn : ∀ j < taken.length + 32, ¬ k.Stops (k.isFree taken avoid) (d.number k.size j))
    (hbefore : ∀ j < n, ¬ k.Free taken avoid (k.counted taken d j))
    (h : ¬ Text.Writable (k.passed taken d n)) :
    k.next taken avoid d = (d.skip (taken.length + 33), .error .tooLong) := by
  obtain ⟨i, hi, hlong, hshort⟩ := exists_first_unwritable h
  rw [next_of_counted hdrawn (hi.trans_lt hn) (fun hw => absurd hw hlong) fun j hj =>
    not_stops (k.passed_lt taken d j) (hshort j hj) (hbefore j (hj.trans_le hi)),
    write_of_not_writable hlong]

/-- A search that meets a number it cannot write in front of a free key does not find the key. -/
theorem tooLong_of_not_legible (h : ¬ k.Legible taken avoid d) :
    (k.next taken avoid d).2 = .error .tooLong ∧ ¬ k.FindsFirst taken avoid d := by
  by_cases hdraws : ∀ i < taken.length + 32, (∀ j < i, ¬ k.Free taken avoid (k.drawn d j)) →
      Text.Writable (d.number k.size i)
  · -- all draws are in vain, and a free key is counted behind the number
    obtain ⟨hdrawn, n, hleast, m, hm, hlong⟩ : (∀ i < taken.length + 32,
        ¬ k.Free taken avoid (k.drawn d i)) ∧
        ∃ i, IsLeast {i | k.Free taken avoid (k.counted taken d i)} i ∧
          ∃ j ≤ i, ¬ Text.Writable (k.passed taken d j) := by
      by_contra hno
      push Not at hno
      exact h ⟨hdraws, hno⟩
    obtain ⟨n', hn', hleast'⟩ := exists_isLeast_counted taken d hleast.1
    obtain rfl := hleast.unique hleast'
    have hnext : k.next taken avoid d = _ := next_of_counted_unwritable (hm.trans_lt hn')
      (fun i hi => not_stops (k.number_lt d i)
        (hdraws i hi fun j hj => hdrawn j (hj.trans hi)) (hdrawn i hi))
      (fun j hj hfree => Nat.not_le.mpr (hj.trans_le hm) (hleast.2 hfree)) hlong
    rw [hnext]
    exact ⟨rfl, fun hfinds => hfinds.fails_iff.mp ⟨_, congrArg Prod.snd hnext⟩ _ hleast.1⟩
  · push Not at hdraws
    obtain ⟨n, hn, hbefore, hlong⟩ := hdraws
    obtain ⟨i, hi, hnext⟩ := next_of_drawn_unwritable hn hbefore hlong
    rw [hnext]
    refine ⟨rfl, fun hfinds => ?_⟩
    -- no key is free, so all draws and one more should have been used
    have hnone := hfinds.fails_iff.mp ⟨_, congrArg Prod.snd hnext⟩
    have hused := (hfinds.counted fun i _ => hnone _).1
    rw [hnext] at hused
    have := congrArg Draws.used hused
    simp only [Draws.skip] at this
    omega

theorem legible_of_length_le (hk : k.length ≤ Text.maxDigits) : k.Legible taken avoid d :=
  ⟨fun i _ _ => writable_of_lt_size hk (k.number_lt d i),
    fun _ _ _ j _ => writable_of_lt_size hk (k.passed_lt taken d j)⟩

/-- **The first free key is found** unless a number comes up in front of it that is too long to be
written; the search fails then. Keys that are no longer than numbers may be are always found. What
is found is a free key in any case. -/
theorem findsFirst_iff_legible (k : Keys) (taken : List Text) (avoid : Text) (d : Draws) :
    (k.FindsFirst taken avoid d ↔ k.Legible taken avoid d) ∧
      (¬ k.Legible taken avoid d → (k.next taken avoid d).2 = .error .tooLong) ∧
      (k.length ≤ Text.maxDigits → k.Legible taken avoid d) ∧
      ∀ key, (k.next taken avoid d).2 = .ok key → k.Free taken avoid key := by
  refine ⟨⟨fun h => ?_, Legible.findsFirst⟩, fun h => (tooLong_of_not_legible h).1,
    legible_of_length_le, fun key => free_of_next⟩
  by_contra hno
  exact (tooLong_of_not_legible hno).2 h

/-- One key is left, and no draw gives it. -/
example :
    let k : Keys := ⟨1, [], by decide⟩
    let taken : List Text := [['0'], ['1'], ['2'], ['3'], ['4'], ['5'], ['6'], ['7'], ['8']]
    let d : Draws := ⟨fun _ => 3, 0⟩
    (k.next taken [] d).1.used = 42 ∧ (k.next taken [] d).2 = .ok ['9'] := by
  decide

/-- The first number that is too long to be written is drawn, and its key is free: no key is taken,
and no text is to be avoided. -/
theorem not_findsFirst_of_long :
    let k : Keys := ⟨Text.maxDigits + 1, [], by decide⟩
    let d : Draws := ⟨fun _ => 10 ^ Text.maxDigits, 0⟩
    k.Free [] [] (k.drawn d 0) ∧ k.next [] [] d = (d.skip 1, .error .tooLong) ∧
      ¬ k.FindsFirst [] [] d := by
  intro k d
  have hlong : ¬ Text.Writable (d.number k.size 0) := by
    have hlt : 10 ^ Text.maxDigits < k.size := Nat.pow_lt_pow_right (by decide) (Nat.lt_succ_self _)
    rw [Text.writable_iff, Draws.number, Nat.mod_eq_of_lt hlt]
    exact lt_irrefl _
  have hfree : k.Free [] [] (k.drawn d 0) := by
    have hkey := isKey_spell (k.number_lt d 0)
    refine ⟨hkey, List.not_mem_nil, fun hinfix => ?_⟩
    have hnil := (List.append_eq_nil_iff.mp (List.infix_nil.mp hinfix)).2
    rw [drawn] at hnil
    have hlen := hkey.length_eq
    rw [hnil] at hlen
    exact (Nat.succ_ne_zero _).symm hlen
  have hnext : k.next [] [] d = (d.skip 1, .error .tooLong) := by
    rw [next_of_drawn (i := 0) (by decide) (fun hw => absurd hw hlong)
      (fun j hj => absurd hj (Nat.not_lt_zero j)), write_of_not_writable hlong]
  refine ⟨hfree, hnext, fun hfinds => ?_⟩
  exact hfinds.fails_iff.mp ⟨_, congrArg Prod.snd hnext⟩ _ hfree

end Standin.Keys
