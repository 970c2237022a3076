import Standin.Buffer
import Mathlib.Data.List.Infix

/-!
# Reading and writing UTF-8

* `Coded`: a sequence of octets and the number of the character that it stands for;
* `decodeFrom_coded`, `exists_coded_of_decodeFrom`: what is read is one coded sequence after
  another;
* `coded_utf8EncodeChar`, `Coded.utf8EncodeChar_ofNat`: a character is written as its only coded
  sequence;
* `utf8EncodeChar_of_ascii`, `le_of_mem_utf8EncodeChar`: ASCII characters are one octet each, and
  their octets stand in no other character;
* **`decode_eq_ok_iff`**: octets are read as a text just when they are the octets of that text;
* `Text.Encodable`: a text in which no surrogate stands alone; **`chars?_eq_ok_iff`**: it is made of
  its characters;
* `Buffer.read_eq_ok_iff`: reading and wrapping for buffers of both forms;
* `Supply.Holds`, **`Supply.read_eq_ok_iff`**: what is read as a text.
-/

namespace Standin

namespace Utf8

/-- A sequence of octets and the number that it stands for. -/
inductive Coded : List Octet → Nat → Prop
  | one {b : Octet} : b.toNat < 0x80 → Coded [b] b.toNat
  | two {b b₁ : Octet} : 0xC2 ≤ b.toNat → b.toNat < 0xE0 → isTail b₁ = true →
      Coded [b, b₁] ((b.toNat - 0xC0) * 64 + tailBits b₁)
  | three {b b₁ b₂ : Octet} : 0xE0 ≤ b.toNat → b.toNat < 0xF0 → second3 b b₁ = true →
      isTail b₂ = true → Coded [b, b₁, b₂]
        ((b.toNat - 0xE0) * 4096 + tailBits b₁ * 64 + tailBits b₂)
  | four {b b₁ b₂ b₃ : Octet} : 0xF0 ≤ b.toNat → b.toNat < 0xF5 → second4 b b₁ = true →
      isTail b₂ = true → isTail b₃ = true → Coded [b, b₁, b₂, b₃]
        ((b.toNat - 0xF0) * 262144 + tailBits b₁ * 4096 + tailBits b₂ * 64 + tailBits b₃)

/-! ## Reading -/

theorem not_lt_of_le {b c : Octet} {n : Nat} (h : n ≤ b.toNat) (hc : c.toNat ≤ n) : ¬ b < c :=
  UInt8.not_lt.mpr (UInt8.le_iff_toNat_le.mpr (hc.trans h))

theorem le_of_not_lt {b c : Octet} (h : ¬ b < c) : c.toNat ≤ b.toNat :=
  UInt8.le_iff_toNat_le.mp (UInt8.not_lt.mp h)

theorem decodeFrom_coded {octets : List Octet} {n : Nat} (h : Coded octets n) (pos : Nat)
    (r : List Octet) : decodeFrom pos (octets ++ r) =
      (decodeFrom (pos + octets.length) r).map (Char.ofNat n :: ·) := by
  rw [decodeFrom.eq_def pos]
  cases h with
  | @one b h => exact if_pos (c := b < 0x80) h
  | @two b b₁ h₁ h₂ h₃ =>
    have h₀ : ¬ b < 0x80 := not_lt_of_le h₁ (by decide)
    have h₁ : ¬ b < 0xC2 := not_lt_of_le h₁ (by decide)
    have h₂ : b < 0xE0 := h₂
    simp only [List.cons_append, List.nil_append, if_neg h₀, if_neg h₁, if_pos h₂, if_pos h₃,
      List.length_cons, List.length_nil]
  | @three b b₁ b₂ h₁ h₂ h₃ h₄ =>
    have h₀ : ¬ b < 0x80 := not_lt_of_le h₁ (by decide)
    have h₀' : ¬ b < 0xC2 := not_lt_of_le h₁ (by decide)
    have h₁ : ¬ b < 0xE0 := not_lt_of_le h₁ (by decide)
    have h₂ : b < 0xF0 := h₂
    simp only [List.cons_append, List.nil_append, if_neg h₀, if_neg h₀', if_neg h₁, if_pos h₂,
      if_pos h₃, if_pos h₄, List.length_cons, List.length_nil]
  | @four b b₁ b₂ b₃ h₁ h₂ h₃ h₄ h₅ =>
    have h₀ : ¬ b < 0x80 := not_lt_of_le h₁ (by decide)
    have h₀' : ¬ b < 0xC2 := not_lt_of_le h₁ (by decide)
    have h₀'' : ¬ b < 0xE0 := not_lt_of_le h₁ (by decide)
    have h₁ : ¬ b < 0xF0 := not_lt_of_le h₁ (by decide)
    have h₂ : b < 0xF5 := h₂
    simp only [List.cons_append, List.nil_append, if_neg h₀, if_neg h₀', if_neg h₀'', if_neg h₁,
      if_pos h₂, if_pos h₃, if_pos h₄, if_pos h₅, List.length_cons, List.length_nil]

theorem map_eq_ok {ε α β : Type} {e : Except ε α} {f : α → β} {y : β} (h : e.map f = .ok y) :
    ∃ x, e = .ok x ∧ y = f x := by
  cases e with
  | error _ => cases h
  | ok x => exact ⟨x, rfl, (Except.ok.inj h).symm⟩

/-- Whatever is read begins with a coded sequence. -/
theorem exists_coded_of_decodeFrom {pos : Nat} {b : Octet} {r : List Octet} {s : List Char}
    (h : decodeFrom pos (b :: r) = .ok s) : ∃ octets n r' s', b :: r = octets ++ r' ∧
      Coded octets n ∧ decodeFrom (pos + octets.length) r' = .ok s' ∧ s = Char.ofNat n :: s' := by
  rw [decodeFrom.eq_def] at h
  simp only at h
  split at h
  · next h₁ =>
    obtain ⟨s', hs, rfl⟩ := map_eq_ok h
    exact ⟨[b], _, r, s', rfl, .one h₁, hs, rfl⟩
  split at h
  · cases h
  next h₁ =>
  split at h
  · next h₂ =>
    split at h
    · cases h
    split at h
    · next b₁ r h₃ =>
      obtain ⟨s', hs, rfl⟩ := map_eq_ok h
      exact ⟨[b, b₁], _, r, s', rfl, .two (le_of_not_lt h₁) h₂ h₃, hs, rfl⟩
    · cases h
  next h₂ =>
  split at h
  · next h₃ =>
    split at h
    · cases h
    split at h
    · next b₁ r h₄ =>
      split at h
      · cases h
      split at h
      · next b₂ r h₅ =>
        obtain ⟨s', hs, rfl⟩ := map_eq_ok h
        exact ⟨[b, b₁, b₂], _, r, s', rfl, .three (le_of_not_lt h₂) h₃ h₄ h₅, hs, rfl⟩
      · cases h
    · cases h
  next h₃ =>
  split at h
  · next h₄ =>
    split at h
    · cases h
    split at h
    · next b₁ r h₅ =>
      split at h
      · cases h
      split at h
      · next b₂ r h₆ =>
        split at h
        · cases h
        split at h
        · next b₃ r h₇ =>
          obtain ⟨s', hs, rfl⟩ := map_eq_ok h
          exact ⟨[b, b₁, b₂, b₃], _, r, s', rfl, .four (le_of_not_lt h₃) h₄ h₅ h₆ h₇, hs, rfl⟩
        · cases h
      · cases h
    · cases h
  · cases h

/-! ## Writing -/

theorem tailBits_eq (b : Octet) : tailBits b = b.toNat - 0x80 := rfl

theorem isTail_iff {b : Octet} : isTail b = true ↔ 0x80 ≤ b.toNat ∧ b.toNat < 0xC0 := by
  rw [isTail, Bool.and_eq_true, decide_eq_true_eq, decide_eq_true_eq]
  exact Iff.rfl

theorem second3_iff {b b₁ : Octet} : second3 b b₁ = true ↔ isTail b₁ = true ∧
    (b.toNat = 0xE0 → 0xA0 ≤ b₁.toNat) ∧ (b.toNat = 0xED → b₁.toNat < 0xA0) := by
  rw [second3, Bool.and_eq_true]
  refine and_congr_right fun _ => ?_
  have h₁ : b = 0xE0 ↔ b.toNat = 0xE0 := UInt8.toNat_inj.symm
  have h₂ : b = 0xED ↔ b.toNat = 0xED := UInt8.toNat_inj.symm
  simp only [beq_iff_eq, h₁, h₂]
  split
  · simp_all [UInt8.le_iff_toNat_le]
  · split <;> simp_all [UInt8.lt_iff_toNat_lt]

theorem second4_iff {b b₁ : Octet} : second4 b b₁ = true ↔ isTail b₁ = true ∧
    (b.toNat = 0xF0 → 0x90 ≤ b₁.toNat) ∧ (b.toNat = 0xF4 → b₁.toNat < 0x90) := by
  rw [second4, Bool.and_eq_true]
  refine and_congr_right fun _ => ?_
  have h₁ : b = 0xF0 ↔ b.toNat = 0xF0 := UInt8.toNat_inj.symm
  have h₂ : b = 0xF4 ↔ b.toNat = 0xF4 := UInt8.toNat_inj.symm
  simp only [beq_iff_eq, h₁, h₂]
  split
  · simp_all [UInt8.le_iff_toNat_le]
  · split <;> simp_all [UInt8.lt_iff_toNat_lt]

theorem coded_one {n : Nat} (h : n < 0x80) : Coded [UInt8.ofNat n] n := by
  have hb := UInt8.toNat_ofNat_of_lt' (show n < 256 by omega)
  have hc : Coded [UInt8.ofNat n] _ := .one (by omega)
  rwa [hb] at hc

theorem coded_two {n : Nat} (h₁ : 0x80 ≤ n) (h₂ : n < 0x800) :
    Coded [UInt8.ofNat (0xC0 + n / 64), UInt8.ofNat (0x80 + n % 64)] n := by
  have hb := UInt8.toNat_ofNat_of_lt' (show 0xC0 + n / 64 < 256 by omega)
  have hb₁ := UInt8.toNat_ofNat_of_lt' (show 0x80 + n % 64 < 256 by omega)
  have hc : Coded [UInt8.ofNat (0xC0 + n / 64), UInt8.ofNat (0x80 + n % 64)] _ :=
    .two (by omega) (by omega) (isTail_iff.mpr (by omega))
  rw [tailBits_eq, hb, hb₁] at hc
  rwa [show (0xC0 + n / 64 - 0xC0) * 64 + (0x80 + n % 64 - 0x80) = n by omega] at hc

theorem coded_three {n : Nat} (h₁ : 0x800 ≤ n) (h₂ : n < 0x10000) (h₃ : n < 0xD800 ∨ 0xDFFF < n) :
    Coded [UInt8.ofNat (0xE0 + n / 4096), UInt8.ofNat (0x80 + n / 64 % 64),
      UInt8.ofNat (0x80 + n % 64)] n := by
  have hb := UInt8.toNat_ofNat_of_lt' (show 0xE0 + n / 4096 < 256 by omega)
  have hb₁ := UInt8.toNat_ofNat_of_lt' (show 0x80 + n / 64 % 64 < 256 by omega)
  have hb₂ := UInt8.toNat_ofNat_of_lt' (show 0x80 + n % 64 < 256 by omega)
  have hc : Coded [UInt8.ofNat (0xE0 + n / 4096), UInt8.ofNat (0x80 + n / 64 % 64),
      UInt8.ofNat (0x80 + n % 64)] _ :=
    .three (by omega) (by omega) (second3_iff.mpr ⟨isTail_iff.mpr (by omega), by omega, by omega⟩)
      (isTail_iff.mpr (by omega))
  rw [tailBits_eq, tailBits_eq, hb, hb₁, hb₂] at hc
  rwa [show (0xE0 + n / 4096 - 0xE0) * 4096 + (0x80 + n / 64 % 64 - 0x80) * 64 +
    (0x80 + n % 64 - 0x80) = n by omega] at hc

theorem coded_four {n : Nat} (h₁ : 0x10000 ≤ n) (h₂ : n < 0x110000) :
    Coded [UInt8.ofNat (0xF0 + n / 262144), UInt8.ofNat (0x80 + n / 4096 % 64),
      UInt8.ofNat (0x80 + n / 64 % 64), UInt8.ofNat (0x80 + n % 64)] n := by
  have hb := UInt8.toNat_ofNat_of_lt' (show 0xF0 + n / 262144 < 256 by omega)
  have hb₁ := UInt8.toNat_ofNat_of_lt' (show 0x80 + n / 4096 % 64 < 256 by omega)
  have hb₂ := UInt8.toNat_ofNat_of_lt' (show 0x80 + n / 64 % 64 < 256 by omega)
  have hb₃ := UInt8.toNat_ofNat_of_lt' (show 0x80 + n % 64 < 256 by omega)
  have hc : Coded [UInt8.ofNat (0xF0 + n / 262144), UInt8.ofNat (0x80 + n / 4096 % 64),
      UInt8.ofNat (0x80 + n / 64 % 64), UInt8.ofNat (0x80 + n % 64)] _ :=
    .four (by omega) (by omega) (second4_iff.mpr ⟨isTail_iff.mpr (by omega), by omega, by omega⟩)
      (isTail_iff.mpr (by omega)) (isTail_iff.mpr (by omega))
  rw [tailBits_eq, tailBits_eq, tailBits_eq, hb, hb₁, hb₂, hb₃] at hc
  rwa [show (0xF0 + n / 262144 - 0xF0) * 262144 + (0x80 + n / 4096 % 64 - 0x80) * 4096 +
    (0x80 + n / 64 % 64 - 0x80) * 64 + (0x80 + n % 64 - 0x80) = n by omega] at hc

/-- The octets of a character by its number. -/
theorem utf8EncodeChar_eq (c : Char) : String.utf8EncodeChar c =
    if c.toNat < 0x80 then [UInt8.ofNat c.toNat]
    else if c.toNat < 0x800 then
      [UInt8.ofNat (0xC0 + c.toNat / 64), UInt8.ofNat (0x80 + c.toNat % 64)]
    else if c.toNat < 0x10000 then
      [UInt8.ofNat (0xE0 + c.toNat / 4096), UInt8.ofNat (0x80 + c.toNat / 64 % 64),
        UInt8.ofNat (0x80 + c.toNat % 64)]
    else
      [UInt8.ofNat (0xF0 + c.toNat / 262144), UInt8.ofNat (0x80 + c.toNat / 4096 % 64),
        UInt8.ofNat (0x80 + c.toNat / 64 % 64), UInt8.ofNat (0x80 + c.toNat % 64)] := by
  have hc : c.toNat < 0xD800 ∨ 0xDFFF < c.toNat ∧ c.toNat < 0x110000 := c.valid
  simp only [String.utf8EncodeChar, Char.toNat, ← Nat.lt_succ_iff, Nat.succ_eq_add_one,
    Nat.reduceAdd] at hc ⊢
  generalize c.val.toNat = n at hc
  split_ifs with h₁ h₂ h₃
  · rfl
  · rw [show n / 64 % 32 + 0xC0 = 0xC0 + n / 64 by omega, Nat.add_comm (n % 64)]
  · rw [show n / 4096 % 16 + 0xE0 = 0xE0 + n / 4096 by omega, Nat.add_comm (n / 64 % 64),
      Nat.add_comm (n % 64)]
  · rw [show n / 262144 % 8 + 0xF0 = 0xF0 + n / 262144 by omega, Nat.add_comm (n / 4096 % 64),
      Nat.add_comm (n / 64 % 64), Nat.add_comm (n % 64)]

/-- Every character is written as a coded sequence. -/
theorem coded_utf8EncodeChar (c : Char) : Coded (String.utf8EncodeChar c) c.toNat := by
  have hv : c.toNat < 0xD800 ∨ 0xDFFF < c.toNat ∧ c.toNat < 0x110000 := c.valid
  rw [utf8EncodeChar_eq]
  split
  · next h => exact coded_one h
  split
  · next h₁ h₂ => exact coded_two (Nat.le_of_not_lt h₁) h₂
  split
  · next h₁ h₂ => exact coded_three (Nat.le_of_not_lt h₁) h₂ (by omega)
  · next h₁ => exact coded_four (Nat.le_of_not_lt h₁) (by omega)

/-- A coded sequence stands for a character. -/
theorem Coded.valid {octets : List Octet} {n : Nat} (h : Coded octets n) :
    n < 0xD800 ∨ 0xDFFF < n ∧ n < 0x110000 := by
  cases h with
  | one h => omega
  | @two b b₁ h₁ h₂ h₃ =>
    rw [isTail_iff] at h₃
    have := tailBits_eq b₁
    omega
  | @three b b₁ b₂ h₁ h₂ h₃ h₄ =>
    rw [second3_iff, isTail_iff] at h₃
    rw [isTail_iff] at h₄
    have := tailBits_eq b₁
    have := tailBits_eq b₂
    omega
  | @four b b₁ b₂ b₃ h₁ h₂ h₃ h₄ h₅ =>
    rw [second4_iff, isTail_iff] at h₃
    rw [isTail_iff] at h₄ h₅
    have := tailBits_eq b₁
    have := tailBits_eq b₂
    have := tailBits_eq b₃
    omega

theorem Coded.toNat_ofNat {octets : List Octet} {n : Nat} (h : Coded octets n) :
    (Char.ofNat n).toNat = n := by
  have hv : n.isValidChar := h.valid
  rw [Char.ofNat, dif_pos hv]
  rfl

/-- The character of a coded sequence is written as this sequence. -/
theorem Coded.utf8EncodeChar_ofNat {octets : List Octet} {n : Nat} (h : Coded octets n) :
    String.utf8EncodeChar (Char.ofNat n) = octets := by
  simp only [utf8EncodeChar_eq, h.toNat_ofNat]
  cases h with
  | @one b h => rw [if_pos h, UInt8.ofNat_toNat]
  | @two b b₁ h₁ h₂ h₃ =>
    rw [isTail_iff] at h₃
    have ht := tailBits_eq b₁
    generalize hn : (b.toNat - 0xC0) * 64 + tailBits b₁ = n
    rw [if_neg (by omega), if_pos (by omega), show 0xC0 + n / 64 = b.toNat by omega,
      show 0x80 + n % 64 = b₁.toNat by omega, UInt8.ofNat_toNat, UInt8.ofNat_toNat]
  | @three b b₁ b₂ h₁ h₂ h₃ h₄ =>
    rw [second3_iff, isTail_iff] at h₃
    rw [isTail_iff] at h₄
    have ht₁ := tailBits_eq b₁
    have ht₂ := tailBits_eq b₂
    generalize hn : (b.toNat - 0xE0) * 4096 + tailBits b₁ * 64 + tailBits b₂ = n
    rw [if_neg (by omega), if_neg (by omega), if_pos (by omega),
      show 0xE0 + n / 4096 = b.toNat by omega, show 0x80 + n / 64 % 64 = b₁.toNat by omega,
      show 0x80 + n % 64 = b₂.toNat by omega, UInt8.ofNat_toNat, UInt8.ofNat_toNat,
      UInt8.ofNat_toNat]
  | @four b b₁ b₂ b₃ h₁ h₂ h₃ h₄ h₅ =>
    rw [second4_iff, isTail_iff] at h₃
    rw [isTail_iff] at h₄ h₅
    have ht₁ := tailBits_eq b₁
    have ht₂ := tailBits_eq b₂
    have ht₃ := tailBits_eq b₃
    generalize hn : (b.toNat - 0xF0) * 262144 + tailBits b₁ * 4096 + tailBits b₂ * 64 +
      tailBits b₃ = n
    rw [if_neg (by omega), if_neg (by omega), if_neg (by omega),
      show 0xF0 + n / 262144 = b.toNat by omega, show 0x80 + n / 4096 % 64 = b₁.toNat by omega,
      show 0x80 + n / 64 % 64 = b₂.toNat by omega, show 0x80 + n % 64 = b₃.toNat by omega,
      UInt8.ofNat_toNat, UInt8.ofNat_toNat, UInt8.ofNat_toNat, UInt8.ofNat_toNat]

/-! ## Both directions -/

theorem decodeFrom_encode : ∀ (pos : Nat) (s : List Char), decodeFrom pos (encode s) = .ok s
  | _, [] => rfl
  | pos, c :: s => by
    rw [encode, List.flatMap_cons, decodeFrom_coded (coded_utf8EncodeChar c), ← encode,
      decodeFrom_encode, Char.ofNat_toNat]
    rfl

theorem eq_encode_of_decodeFrom {pos : Nat} {octets : List Octet} {s : List Char}
    (h : decodeFrom pos octets = .ok s) : octets = encode s := by
  cases octets with
  | nil =>
    rw [decodeFrom, Except.ok.injEq] at h
    rw [← h]
    rfl
  | cons b r =>
    obtain ⟨first, n, rest, s', heq, hc, hr, rfl⟩ := exists_coded_of_decodeFrom h
    have hpos : 0 < first.length := by cases hc <;> exact Nat.succ_pos _
    have hlt : rest.length < (b :: r).length := by
      rw [heq, List.length_append]
      omega
    rw [heq, encode, List.flatMap_cons, hc.utf8EncodeChar_ofNat, eq_encode_of_decodeFrom hr, encode]
termination_by octets.length

/-- **Octets are read as a text just when they are the octets of that text.** -/
theorem decode_eq_ok_iff {octets : List Octet} {s : List Char} :
    decode octets = .ok s ↔ octets = encode s := by
  constructor
  · exact eq_encode_of_decodeFrom
  · rintro rfl
    exact decodeFrom_encode 0 s

/-! ## Octets of texts -/

theorem encode_nil : encode [] = [] := rfl

theorem encode_cons (c : Char) (s : List Char) :
    encode (c :: s) = String.utf8EncodeChar c ++ encode s := rfl

theorem encode_append (s t : List Char) : encode (s ++ t) = encode s ++ encode t :=
  List.flatMap_append

theorem utf8EncodeChar_of_ascii {c : Char} (h : c.toNat < 0x80) :
    String.utf8EncodeChar c = [UInt8.ofNat c.toNat] := by
  rw [utf8EncodeChar_eq, if_pos h]

/-- A character beyond ASCII has only octets beyond ASCII. -/
theorem le_of_mem_utf8EncodeChar {c : Char} (h : 0x80 ≤ c.toNat) {b : Octet}
    (hb : b ∈ String.utf8EncodeChar c) : 0x80 ≤ b.toNat := by
  have hc := coded_utf8EncodeChar c
  generalize String.utf8EncodeChar c = octets at hb hc
  generalize c.toNat = n at h hc
  cases hc with
  | one h₁ => omega
  | two h₁ h₂ h₃ =>
    simp only [List.mem_cons, List.not_mem_nil, or_false] at hb
    rcases hb with rfl | rfl
    · omega
    · exact (isTail_iff.mp h₃).1
  | three h₁ h₂ h₃ h₄ =>
    simp only [List.mem_cons, List.not_mem_nil, or_false] at hb
    rcases hb with rfl | rfl | rfl
    · omega
    · exact (isTail_iff.mp (second3_iff.mp h₃).1).1
    · exact (isTail_iff.mp h₄).1
  | four h₁ h₂ h₃ h₄ h₅ =>
    simp only [List.mem_cons, List.not_mem_nil, or_false] at hb
    rcases hb with rfl | rfl | rfl | rfl
    · omega
    · exact (isTail_iff.mp (second4_iff.mp h₃).1).1
    · exact (isTail_iff.mp h₄).1
    · exact (isTail_iff.mp h₅).1

end Utf8

/-! ## Lone surrogates -/

namespace Text

/-- No surrogate stands alone in the text. -/
def Encodable (s : Text) : Prop := ∀ c ∈ s, c.isSurrogate = false

instance (s : Text) : Decidable s.Encodable :=
  inferInstanceAs (Decidable (∀ c ∈ s, c.isSurrogate = false))

theorem encodable_ofChars (s : List Char) : (ofChars s).Encodable := by
  intro c hc
  obtain ⟨x, -, rfl⟩ := mem_ofChars.mp hc
  rfl

theorem exists_ofChars_of_encodable : ∀ {s : Text}, s.Encodable → ∃ chars, s = ofChars chars
  | [], _ => ⟨[], rfl⟩
  | .char c :: s, h => by
    obtain ⟨chars, rfl⟩ :=
      exists_ofChars_of_encodable fun x hx => h x (List.mem_cons_of_mem _ hx)
    exact ⟨c :: chars, rfl⟩
  | .surrogate _ :: _, h => nomatch h _ List.mem_cons_self

theorem encodable_append {s t : Text} : (s ++ t).Encodable ↔ s.Encodable ∧ t.Encodable :=
  List.forall_mem_append

theorem Encodable.of_isInfix {s w : Text} (hs : s.Encodable) (h : w <:+: s) : w.Encodable :=
  fun c hc => hs c (h.subset hc)

end Text

namespace Utf8

theorem charsFrom_ofChars : ∀ (pos : Nat) (s : List Char), charsFrom pos (Text.ofChars s) = .ok s
  | _, [] => rfl
  | pos, c :: s => by
    rw [Text.ofChars, List.map_cons, charsFrom, ← Text.ofChars, charsFrom_ofChars]
    rfl

theorem eq_ofChars_of_charsFrom : ∀ {pos : Nat} {s : Text} {chars : List Char},
    charsFrom pos s = .ok chars → s = Text.ofChars chars
  | _, [], chars, h => by
    cases h
    rfl
  | pos, .char c :: s, chars, h => by
    obtain ⟨rest, hrest, rfl⟩ := map_eq_ok h
    rw [eq_ofChars_of_charsFrom hrest]
    rfl

/-- **The characters of a text make the text**, if no surrogate stands alone in it. -/
theorem chars?_eq_ok_iff {s : Text} {chars : List Char} :
    chars? s = .ok chars ↔ s = Text.ofChars chars := by
  constructor
  · exact eq_ofChars_of_charsFrom
  · rintro rfl
    exact charsFrom_ofChars 0 chars

theorem chars?_ofChars (s : List Char) : chars? (Text.ofChars s) = .ok s := charsFrom_ofChars 0 s

end Utf8

/-! ## Buffers -/

variable {s : Text} {form : Form} {b : Buffer}

theorem Form.wrap_ofChars (form : Form) (chars : List Char) :
    form.wrap (Text.ofChars chars) =
      .ok (match form with
        | .text => .text (Text.ofChars chars)
        | .octets => .octets (Utf8.encode chars)) := by
  cases form with
  | text => rfl
  | octets =>
    rw [Form.wrap, Utf8.chars?_ofChars]
    rfl

theorem Form.wrap_octets_eq_ok_iff :
    Form.octets.wrap s = .ok b ↔
      ∃ chars, s = Text.ofChars chars ∧ b = .octets (Utf8.encode chars) := by
  constructor
  · intro h
    obtain ⟨chars, hchars, rfl⟩ := Utf8.map_eq_ok h
    exact ⟨chars, Utf8.chars?_eq_ok_iff.mp hchars, rfl⟩
  · rintro ⟨chars, rfl, rfl⟩
    exact Form.wrap_ofChars .octets chars

/-- A text can be had in octets just when no surrogate stands alone in it. -/
theorem Form.exists_wrap_octets_iff : (∃ b, Form.octets.wrap s = .ok b) ↔ s.Encodable := by
  simp only [Form.wrap_octets_eq_ok_iff]
  constructor
  · rintro ⟨_, chars, rfl, -⟩
    exact Text.encodable_ofChars chars
  · intro h
    obtain ⟨chars, rfl⟩ := Text.exists_ofChars_of_encodable h
    exact ⟨_, chars, rfl, rfl⟩

theorem Buffer.read_eq_ok_iff : b.read = .ok (s, form) ↔ form.wrap s = .ok b := by
  cases b with
  | text t =>
    cases form with
    | text => simp [Buffer.read, Form.wrap, eq_comm]
    | octets => simp [Buffer.read, Form.wrap_octets_eq_ok_iff]
  | octets o =>
    cases form with
    | text =>
      simp only [Buffer.read, Form.wrap]
      split <;> simp
    | octets =>
      simp only [Buffer.read, Form.wrap_octets_eq_ok_iff, Buffer.octets.injEq,
        ← Utf8.decode_eq_ok_iff]
      cases hd : Utf8.decode o with
      | ok chars => simp [eq_comm]
      | error fault => simp

/-- A text handed over in a form: as it is, or as the octets of its characters. -/
inductive Supply.Holds : Supply → Text → Form → Prop
  | text (t : Text) : Holds (.buffer (.text t)) t .text
  | octets (chars : List Char) :
    Holds (.buffer (.octets (Utf8.encode chars))) (Text.ofChars chars) .octets

variable {supply : Supply}

theorem Supply.holds_iff_wrap :
    supply.Holds s form ↔ ∃ b, form.wrap s = .ok b ∧ supply = .buffer b := by
  constructor
  · rintro (t | chars)
    · exact ⟨_, rfl, rfl⟩
    · exact ⟨_, Form.wrap_ofChars .octets chars, rfl⟩
  · rintro ⟨b, hb, rfl⟩
    cases form with
    | text =>
      cases hb
      exact .text s
    | octets =>
      obtain ⟨chars, rfl, rfl⟩ := Form.wrap_octets_eq_ok_iff.mp hb
      exact .octets chars

/-- **What is read as a text was handed over as that text** in the form that is told. -/
theorem Supply.read_eq_ok_iff : supply.read = .ok (s, form) ↔ supply.Holds s form := by
  rw [holds_iff_wrap]
  cases supply with
  | buffer b => simp [Supply.read, Buffer.read_eq_ok_iff]
  | other kind => simp [Supply.read]

end Standin
