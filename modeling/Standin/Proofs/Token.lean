import Standin.Masking
import Standin.Proofs.Key

/-!
# Tokens

A stem has no digits and a key has nothing else, so the seam between them shows wherever a token
stands.

* `Settings.stem_plain`: a stem has none of the digits that keys are made of;
* **`Settings.le_of_occursAt_token`**: two tokens that stand at different places do not meet;
* `Settings.eq_of_occursAt_token`: two tokens that stand at one place are the same;
* **`Settings.tokens_never_overlap`**: both facts for any two occurrences of tokens.
-/

namespace Standin

theorem Text.isDigit_of_ascii : ∀ {c : CodePoint}, c.isDigit = true → Text.isDigit c = true
  | .char c, h => by
    simp only [CodePoint.isDigit, Char.isDigit, Bool.and_eq_true, decide_eq_true_eq] at h
    have h₁ : 0x30 ≤ c.toNat := UInt32.le_iff_toNat_le.mp h.1
    have h₂ : c.toNat ≤ 0x39 := UInt32.le_iff_toNat_le.mp h.2
    simp [Text.isDigit, CharSet.mem, Text.digits, CodePoint.toNat, h₁, h₂]

namespace Settings

variable {s : Settings} {t key key₁ key₂ : Text} {i j : Nat}

theorem stem_plain (s : Settings) : ∀ c ∈ s.stem, c.isDigit = false := fun c hc =>
  Bool.eq_false_iff.mpr fun h =>
    List.any_eq_false.mp s.stem_digitFree c hc (Text.isDigit_of_ascii h)

theorem stem_length_pos (s : Settings) : 0 < s.stem.length := List.length_pos_iff.mpr s.stem_ne

/-- The number of characters of a token. -/
def tokenLength (s : Settings) : Nat := s.stem.length + s.keyLength

theorem length_token (hk : IsKey s.keyLength key) : (s.token key).length = s.tokenLength := by
  rw [token, List.length_append, hk.length_eq, tokenLength]

theorem token_ne_nil (s : Settings) (key : Text) : s.token key ≠ [] := by
  simp [token, s.stem_ne]

theorem token_injective (s : Settings) : Function.Injective s.token := fun _ _ h =>
  List.append_cancel_left h

theorem exists_plain_of_occursAt (h : Text.OccursAt (s.token key) t i) {x : Nat}
    (hx : x < s.stem.length) : ∃ c, t[i + x]? = some c ∧ c.isDigit = false := by
  refine ⟨s.stem[x], ?_, s.stem_plain _ (List.getElem_mem hx)⟩
  rw [h.getElem? (by rw [token, List.length_append]; omega)]
  exact congrArg some (List.getElem_append_left hx)

/-- Behind its stem a token has only digits. -/
theorem exists_digit_of_occursAt (hk : IsKey s.keyLength key)
    (h : Text.OccursAt (s.token key) t i) {x : Nat} (hx : s.stem.length ≤ x)
    (hx' : x < s.tokenLength) : ∃ c, t[i + x]? = some c ∧ c.isDigit = true := by
  have hlt : x - s.stem.length < key.length := by
    rw [hk.length_eq]
    rw [tokenLength] at hx'
    omega
  refine ⟨key[x - s.stem.length], ?_, hk.digits _ (List.getElem_mem hlt)⟩
  rw [h.getElem? (by rw [length_token hk]; exact hx')]
  exact congrArg some (List.getElem_append_right hx)

/-- **Two tokens that stand at different places do not meet.** -/
theorem le_of_occursAt_token (hk : IsKey s.keyLength key₁)
    (h₁ : Text.OccursAt (s.token key₁) t i) (h₂ : Text.OccursAt (s.token key₂) t j) (hij : i < j) :
    i + s.tokenLength ≤ j := by
  by_contra hlt
  have hpos := s.stem_length_pos
  have hlen : s.tokenLength = s.stem.length + s.keyLength := rfl
  have hkey := s.keyLength_mem.1
  -- the first place that lies in the key of the first token and not before the second token
  obtain ⟨x, hx⟩ : ∃ x, x = max (i + s.stem.length) j := ⟨_, rfl⟩
  obtain ⟨c, hc, hdigit⟩ := exists_digit_of_occursAt hk h₁ (show s.stem.length ≤ x - i by omega)
    (by omega)
  obtain ⟨c', hc', hplain⟩ := exists_plain_of_occursAt h₂ (show x - j < s.stem.length by omega)
  rw [show i + (x - i) = x by omega] at hc
  rw [show j + (x - j) = x by omega, hc, Option.some.injEq] at hc'
  rw [← hc', hdigit] at hplain
  cases hplain

theorem eq_of_occursAt_token (hk₁ : IsKey s.keyLength key₁) (hk₂ : IsKey s.keyLength key₂)
    (h₁ : Text.OccursAt (s.token key₁) t i) (h₂ : Text.OccursAt (s.token key₂) t i) :
    key₁ = key₂ := by
  have hlen : (s.token key₁).length = (s.token key₂).length := by
    rw [length_token hk₁, length_token hk₂]
  exact s.token_injective ((List.prefix_of_prefix_length_le h₁ h₂ hlen.le).eq_of_length hlen)

theorem apart_token (hk₁ : IsKey s.keyLength key₁) (hk₂ : IsKey s.keyLength key₂)
    (hne : key₁ ≠ key₂) : Text.Apart (s.token key₁) (s.token key₂) := by
  intro a b p hocc
  have hocc₂ := Text.occursAt_append_length a (s.token key₂) b
  rw [length_token hk₁, length_token hk₂]
  rcases Nat.lt_trichotomy p a.length with hlt | rfl | hgt
  · exact Or.inl (le_of_occursAt_token hk₁ hocc hocc₂ hlt)
  · exact absurd (eq_of_occursAt_token hk₁ hk₂ hocc hocc₂) hne
  · exact Or.inr (le_of_occursAt_token hk₂ hocc₂ hocc hgt)

theorem mem_token (hk : IsKey s.keyLength key) {c : CodePoint} (hc : c ∈ s.token key) :
    c ∈ s.stem ∨ c.isDigit = true := by
  rcases List.mem_append.mp hc with hc | hc
  · exact Or.inl hc
  · exact Or.inr (hk.digits c hc)

/-- **Tokens never overlap**, whatever the stem is and whether their keys are the same or not: two
occurrences at different places are as far apart as a token is long, and at one place stands one
token only. -/
theorem tokens_never_overlap (s : Settings) {t key₁ key₂ : Text} {i j : Nat}
    (hk₁ : IsKey s.keyLength key₁) (hk₂ : IsKey s.keyLength key₂)
    (h₁ : Text.OccursAt (s.token key₁) t i) (h₂ : Text.OccursAt (s.token key₂) t j) :
    (i ≠ j → s.stem.length + s.keyLength ≤ ((i : Int) - j).natAbs) ∧ (i = j → key₁ = key₂) := by
  have hlen : s.tokenLength = s.stem.length + s.keyLength := rfl
  constructor
  · intro hne
    rcases Nat.lt_or_gt_of_ne hne with hlt | hgt
    · have := le_of_occursAt_token hk₁ h₁ h₂ hlt
      omega
    · have := le_of_occursAt_token hk₂ h₂ h₁ hgt
      omega
  · rintro rfl
    exact eq_of_occursAt_token hk₁ hk₂ h₁ h₂

/-- A stem that overlaps itself: in `AAA1AA2` it stands at 0, 1 and 4, a token only at 1 and 4. -/
theorem tokens_never_overlap_periodic :
    ∃ s : Settings, s.stem = (['A', 'A'] : Text) ∧ s.keyLength = 1 ∧
    let t : Text := ['A', 'A', 'A', '1', 'A', 'A', '2']
    Text.OccursAt s.stem t 0 ∧ Text.OccursAt (s.token ['1']) t 1 ∧
      Text.OccursAt (s.token ['2']) t 4 ∧
      s.stem.length + s.keyLength ≤ (((1 : Nat) : Int) - (4 : Nat)).natAbs := by
  let s : Settings :=
    { Settings.standard with
      keyLength := 1
      stem := ['A', 'A']
      keyLength_mem := by decide
      stem_ne := by decide
      stem_digitFree := by decide +kernel
      opening_apart := by decide
      closing_apart := by decide }
  refine ⟨s, rfl, rfl, ?_⟩
  intro t
  have hone : Text.OccursAt (s.token ['1']) t 1 := by decide
  have htwo : Text.OccursAt (s.token ['2']) t 4 := by decide
  have hclear := s.tokens_never_overlap (t := t) ⟨rfl, List.all_eq_true.mp rfl⟩
    ⟨rfl, List.all_eq_true.mp rfl⟩ hone htwo
  exact ⟨by decide, hone, htwo, hclear.1 (by decide)⟩

end Settings

end Standin
