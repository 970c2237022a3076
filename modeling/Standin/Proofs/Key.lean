import Standin.Key
import Standin.Proofs.Occurrence
import Mathlib.Algebra.Group.Nat.Defs
import Mathlib.Data.List.Permutation
import Mathlib.Data.Nat.Find

/-!
# Keys and free keys

* `IsKey`: as many decimal digits as a key has; `isKey_padded`, `exists_padded`: the keys are the
  numbers below a power of ten, filled with zeros;
* `Text.writable_iff`: which numbers can be written;
* `Keys.Free`: a key that is not taken and whose token is no part of a text;
* **`Keys.free_of_next`**, **`Keys.free_of_nextMany`**: what is drawn is a free key, and keys that
  are drawn together differ from one another.
-/

namespace Standin

/-- A key of the given length. -/
structure IsKey (length : Nat) (key : Text) : Prop where
  length_eq : key.length = length
  digits : ∀ c ∈ key, c.isDigit = true

namespace Text

/-! ## Numbers as keys -/

theorem isKey_padded {length n : Nat} (hl : 0 < length) (hn : n < 10 ^ length) :
    IsKey length (ofChars (padded length n)) := by
  have hle : (decimal n).length ≤ length := (Nat.length_toDigits_le_iff (by decide) hl).mpr hn
  refine ⟨?_, fun c hc => ?_⟩
  · rw [length_ofChars, padded, List.length_append, List.length_replicate]
    omega
  obtain ⟨x, hx, rfl⟩ := mem_ofChars.mp hc
  rcases List.mem_append.mp hx with hc | hc
  · rw [List.eq_of_mem_replicate hc]
    decide
  · exact Nat.isDigit_of_mem_toDigits (by decide) (by decide) hc

theorem padded_mul_add {length : Nat} (hl : 0 < length) (m : Nat) {d : Nat} (hd : d < 10) :
    padded (length + 1) (10 * m + d) = padded length m ++ [d.digitChar] := by
  have hdec : decimal d = [d.digitChar] := Nat.toDigits_of_lt_base hd
  rcases Nat.eq_zero_or_pos m with rfl | hm
  · have h0 : decimal 0 = ['0'] := Nat.toDigits_zero 10
    rw [Nat.mul_zero, Nat.zero_add, padded, padded, hdec, h0, List.length_singleton,
      List.length_singleton, Nat.add_sub_cancel, ← List.replicate_succ', Nat.sub_add_cancel hl]
  · have happ : decimal (10 * m + d) = decimal m ++ [d.digitChar] := by
      rw [← hdec]
      exact (Nat.toDigits_append_toDigits (by decide) hm hd).symm
    rw [padded, padded, happ, List.length_append, List.length_singleton, Nat.add_sub_add_right,
      List.append_assoc]

theorem exists_digitChar : ∀ {c : CodePoint}, c.isDigit = true → ∃ d < 10, ↑d.digitChar = c
  | .char c, h => by
    have hc : 48 ≤ c.toNat ∧ c.toNat ≤ 57 := by
      simp only [CodePoint.isDigit, Char.isDigit, Bool.and_eq_true, decide_eq_true_eq] at h
      exact ⟨UInt32.le_iff_toNat_le.mp h.1, UInt32.le_iff_toNat_le.mp h.2⟩
    have hd : c.toNat - 48 < 10 := by omega
    refine ⟨c.toNat - 48, hd, congrArg CodePoint.char (Char.toNat_inj.mp ?_)⟩
    rw [Nat.toNat_digitChar_of_lt_ten hd]
    omega

theorem exists_padded : ∀ {length : Nat}, 0 < length → ∀ {key : Text}, IsKey length key →
    ∃ n < 10 ^ length, ofChars (padded length n) = key
  | 1, _, key, hk => by
    obtain ⟨c, rfl⟩ := List.length_eq_one_iff.mp hk.length_eq
    obtain ⟨d, hd, rfl⟩ := exists_digitChar (hk.digits c (List.mem_singleton_self c))
    refine ⟨d, hd, ?_⟩
    rw [padded, decimal, Nat.toDigits_of_lt_base hd]
    rfl
  | length + 2, _, key, hk => by
    rcases List.eq_nil_or_concat' key with rfl | ⟨l, c, rfl⟩
    · exact absurd hk.length_eq (by simp)
    have hl : IsKey (length + 1) l := by
      refine ⟨?_, fun x hx => hk.digits x (List.mem_append_left _ hx)⟩
      have := hk.length_eq
      rw [List.length_append, List.length_singleton] at this
      omega
    obtain ⟨m, hm, rfl⟩ := exists_padded (Nat.succ_pos length) hl
    obtain ⟨d, hd, rfl⟩ := exists_digitChar (hk.digits c (by simp))
    refine ⟨10 * m + d, ?_, ?_⟩
    · rw [Nat.pow_succ]
      omega
    · rw [padded_mul_add (Nat.succ_pos length) m hd, ofChars_append]
      rfl

/-- The numbers that can be written are those below a power of ten. -/
theorem writable_iff {n : Nat} : Writable n ↔ n < 10 ^ maxDigits :=
  Nat.length_toDigits_le_iff (by decide) (by decide)

end Text

/-! ## Free keys -/

namespace Keys

variable {k : Keys} {taken : List Text} {avoid key : Text} {d : Draws}

/-- A key that is not taken and whose token is no part of the text. -/
structure Free (k : Keys) (taken : List Text) (avoid key : Text) : Prop where
  isKey : IsKey k.length key
  notMem : key ∉ taken
  absent : ¬ k.token key <:+: avoid

theorem size_pos (k : Keys) : 0 < k.size := Nat.pow_pos (by decide)

theorem isKey_spell {n : Nat} (hn : n < k.size) : IsKey k.length (k.spell n) :=
  Text.isKey_padded k.length_pos hn

theorem exists_spell (hk : IsKey k.length key) : ∃ n < k.size, k.spell n = key :=
  Text.exists_padded k.length_pos hk

theorem isFree_iff : k.isFree taken avoid key = true ↔ key ∉ taken ∧ ¬ k.token key <:+: avoid := by
  rw [isFree, Bool.and_eq_true, Bool.not_eq_true', Bool.not_eq_true', Text.contains_eq_false_iff]
  simp

theorem free_iff :
    k.Free taken avoid key ↔ IsKey k.length key ∧ k.isFree taken avoid key = true := by
  rw [isFree_iff]
  exact ⟨fun h => ⟨h.isKey, h.notMem, h.absent⟩, fun h => ⟨h.1, h.2.1, h.2.2⟩⟩

/-! ### The search -/

theorem write_of_writable {n : Nat} (h : Text.Writable n) : k.write n = .ok (k.spell n) := if_pos h

theorem write_of_not_writable {n : Nat} (h : ¬ Text.Writable n) : k.write n = .error .tooLong :=
  if_neg h

/-- Every key that is no longer than numbers may be can be written. -/
theorem writable_of_lt_size {n : Nat} (hk : k.length ≤ Text.maxDigits) (hn : n < k.size) :
    Text.Writable n :=
  ((Nat.length_toDigits_le_iff (by decide) k.length_pos).mpr hn).trans hk

/-- The search ends at a number: its key is free, or it cannot be written. -/
def Stops (k : Keys) (free : Text → Bool) (n : Nat) : Prop :=
  Text.Writable n → free (k.spell n) = true

section Search

variable {free : Text → Bool} {number : Nat → Nat}

theorem search_succ_of_stops {budget i : Nat} (h : k.Stops free (number i)) :
    k.search free number (budget + 1) i = (i + 1, (k.write (number i)).map some) := by
  rw [search]
  by_cases hw : Text.Writable (number i)
  · rw [write_of_writable hw]
    exact if_pos (h hw)
  · rw [write_of_not_writable hw]
    rfl

theorem search_succ_of_not_stops {budget i : Nat} (h : ¬ k.Stops free (number i)) :
    k.search free number (budget + 1) i = k.search free number budget (i + 1) := by
  obtain ⟨hw, hfree⟩ := Classical.not_imp.mp h
  rw [search, write_of_writable hw]
  exact if_neg hfree

/-- The search ends at the first number that stops it. -/
theorem search_of_first : ∀ {budget i n : Nat}, i ≤ n → n < i + budget → k.Stops free (number n) →
    (∀ j, i ≤ j → j < n → ¬ k.Stops free (number j)) →
      k.search free number budget i = (n + 1, (k.write (number n)).map some)
  | 0, i, n, hi, hn, _, _ => absurd hn (Nat.not_lt.mpr hi)
  | budget + 1, i, n, hi, hn, h, hbefore => by
    rcases hi.eq_or_lt with rfl | hlt
    · exact search_succ_of_stops h
    · rw [search_succ_of_not_stops (hbefore i le_rfl hlt)]
      exact search_of_first hlt (by omega) h fun j hj => hbefore j (Nat.le_of_succ_le hj)

/-- The search ends without a key if no number stops it. -/
theorem search_of_none : ∀ {budget i : Nat},
    (∀ j, i ≤ j → j < i + budget → ¬ k.Stops free (number j)) →
      k.search free number budget i = (i + budget, .ok none)
  | 0, i, _ => rfl
  | budget + 1, i, h => by
    rw [search_succ_of_not_stops (h i le_rfl (by omega)), search_of_none fun j hj hlt =>
      h j (Nat.le_of_succ_le hj) (by omega), Nat.succ_add_eq_add_succ]

end Search

/-- The number that is met `i` steps behind that of the last draw, counting up around. -/
def passed (k : Keys) (taken : List Text) (d : Draws) (i : Nat) : Nat :=
  (d.number k.size (taken.length + 32) + i) % k.size

theorem number_lt (k : Keys) (d : Draws) (i : Nat) : d.number k.size i < k.size :=
  Nat.mod_lt _ k.size_pos

theorem passed_lt (k : Keys) (taken : List Text) (d : Draws) (i : Nat) :
    k.passed taken d i < k.size :=
  Nat.mod_lt _ k.size_pos

theorem next_of_drawn {i : Nat} (hi : i < taken.length + 32)
    (h : k.Stops (k.isFree taken avoid) (d.number k.size i))
    (hbefore : ∀ j < i, ¬ k.Stops (k.isFree taken avoid) (d.number k.size j)) :
    k.next taken avoid d = (d.skip (i + 1), k.write (d.number k.size i)) := by
  rw [next, search_of_first i.zero_le (by omega) h fun j _ => hbefore j]
  cases k.write (d.number k.size i) <;> rfl

theorem next_of_not_drawn
    (h : ∀ j < taken.length + 32, ¬ k.Stops (k.isFree taken avoid) (d.number k.size j)) :
    k.next taken avoid d = (d.skip (taken.length + 33),
      match (k.search (k.isFree taken avoid) (k.passed taken d) k.size 0).2 with
      | .error fault => .error fault
      | .ok (some key) => .ok key
      | .ok none => .error (.exhausted k.length)) := by
  rw [next, search_of_none fun j _ hj => h j (by omega), Nat.zero_add]
  change (match (k.search (k.isFree taken avoid) (k.passed taken d) k.size 0).2 with
    | .error fault => _
    | .ok (some key) => _
    | .ok none => _) = _
  rcases (k.search (k.isFree taken avoid) (k.passed taken d) k.size 0).2 with _ | _ | _ <;> rfl

theorem next_of_counted {i : Nat}
    (hdrawn : ∀ j < taken.length + 32, ¬ k.Stops (k.isFree taken avoid) (d.number k.size j))
    (hi : i < k.size) (h : k.Stops (k.isFree taken avoid) (k.passed taken d i))
    (hbefore : ∀ j < i, ¬ k.Stops (k.isFree taken avoid) (k.passed taken d j)) :
    k.next taken avoid d = (d.skip (taken.length + 33), k.write (k.passed taken d i)) := by
  rw [next_of_not_drawn hdrawn, search_of_first i.zero_le (by omega) h fun j _ => hbefore j]
  cases k.write (k.passed taken d i) <;> rfl

theorem next_of_none
    (hdrawn : ∀ j < taken.length + 32, ¬ k.Stops (k.isFree taken avoid) (d.number k.size j))
    (hcounted : ∀ j < k.size, ¬ k.Stops (k.isFree taken avoid) (k.passed taken d j)) :
    k.next taken avoid d = (d.skip (taken.length + 33), .error (.exhausted k.length)) := by
  rw [next_of_not_drawn hdrawn, search_of_none fun j _ hj => hcounted j (by omega)]

theorem exists_first_or_forall_not (p : Nat → Prop) (n : Nat) :
    (∃ i < n, p i ∧ ∀ j < i, ¬ p j) ∨ ∀ i < n, ¬ p i := by
  classical
  by_cases h : ∃ i, i < n ∧ p i
  · refine Or.inl ⟨Nat.find h, (Nat.find_spec h).1, (Nat.find_spec h).2, fun j hj hp => ?_⟩
    exact Nat.find_min h hj ⟨hj.trans (Nat.find_spec h).1, hp⟩
  · exact Or.inr fun i hi hp => h ⟨i, hi, hp⟩

/-- **How a search ends**: at the first number that stops it, be it drawn or counted, or, if all are
met in vain, without a key. -/
theorem next_cases (k : Keys) (taken : List Text) (avoid : Text) (d : Draws) :
    (∃ n < k.size, k.Stops (k.isFree taken avoid) n ∧ (k.next taken avoid d).2 = k.write n) ∨
      (∀ j < k.size, ¬ k.Stops (k.isFree taken avoid) (k.passed taken d j)) ∧
        (k.next taken avoid d).2 = .error (.exhausted k.length) := by
  rcases exists_first_or_forall_not
    (fun i => k.Stops (k.isFree taken avoid) (d.number k.size i)) (taken.length + 32) with
    ⟨i, hi, h, hbefore⟩ | hdrawn
  · exact Or.inl ⟨_, k.number_lt d i, h, by rw [next_of_drawn hi h hbefore]⟩
  rcases exists_first_or_forall_not
    (fun i => k.Stops (k.isFree taken avoid) (k.passed taken d i)) k.size with
    ⟨i, hi, h, hbefore⟩ | hcounted
  · exact Or.inl ⟨_, k.passed_lt taken d i, h, by rw [next_of_counted hdrawn hi h hbefore]⟩
  · exact Or.inr ⟨hcounted, by rw [next_of_none hdrawn hcounted]⟩

/-- **What is drawn is a free key.** -/
theorem free_of_next (h : (k.next taken avoid d).2 = .ok key) : k.Free taken avoid key := by
  rcases next_cases k taken avoid d with ⟨n, hn, hstops, hnext⟩ | ⟨-, hnext⟩
  · rw [h] at hnext
    by_cases hw : Text.Writable n
    · rw [write_of_writable hw] at hnext
      cases hnext
      exact free_iff.mpr ⟨isKey_spell hn, hstops hw⟩
    · rw [write_of_not_writable hw] at hnext
      cases hnext
  · rw [h] at hnext
    cases hnext

/-- A number whose key is free is taken at the first draw. -/
theorem next_of_free {n : Nat} (hk : k.length ≤ Text.maxDigits) (hn : n < k.size)
    (hf : k.Free taken avoid (k.spell n)) (hd : d.number k.size 0 = n) :
    k.next taken avoid d = (d.skip 1, .ok (k.spell n)) := by
  subst hd
  rw [next_of_drawn (Nat.succ_pos _) (fun _ => (free_iff.mp hf).2) fun j hj => absurd hj (by omega),
    write_of_writable (writable_of_lt_size hk hn)]

/-- **Keys that are drawn together are free and differ from one another.** -/
theorem free_of_nextMany : ∀ {count : Nat} {taken keys : List Text} {d d' : Draws},
    k.nextMany avoid count taken d = (d', .ok keys) →
      keys.length = count ∧ keys.Nodup ∧ ∀ key ∈ keys, k.Free taken avoid key
  | 0, taken, keys, d, d', h => by
    simp only [nextMany, Prod.mk.injEq, Except.ok.injEq] at h
    obtain ⟨-, rfl⟩ := h
    simp
  | count + 1, taken, keys, d, d', h => by
    rw [nextMany] at h
    split at h
    · simp at h
    · next d₁ key hkey =>
      split at h
      · simp at h
      · next d₂ rest hrest =>
        simp only [Prod.mk.injEq, Except.ok.injEq] at h
        obtain ⟨rfl, rfl⟩ := h
        obtain ⟨hlen, hnodup, hfree⟩ := free_of_nextMany hrest
        have hnotMem : key ∉ rest := fun hmem => (hfree key hmem).notMem List.mem_cons_self
        refine ⟨by rw [List.length_cons, hlen], List.nodup_cons.mpr ⟨hnotMem, hnodup⟩, ?_⟩
        intro x hx
        rcases List.mem_cons.mp hx with rfl | hx
        · exact free_of_next (by rw [hkey])
        · have hx := hfree x hx
          exact ⟨hx.isKey, fun hmem => hx.notMem (List.mem_cons_of_mem _ hmem), hx.absent⟩

end Keys

end Standin
