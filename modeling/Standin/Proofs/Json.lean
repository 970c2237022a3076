import Standin.Proofs.Utf8
import Standin.Proofs.Key
import Standin.Json.Quoted
import Standin.Json.Token

/-!
# Reading JSON that was written

* `Escape`: the ways in which a character stands between quotes;
* `readString_quoted`: a quoted text is read as its octets;
* `readUnsigned_decimal`: a numeral in front of a bracket or separator is read as its number;
* `Spells`: characters that are read as some tokens, whatever comes behind it; **`spells_quote`**,
  `spells_sign` and **`spells_decimal`** are the parts that texts are written of.
-/

namespace Standin.Json

open Utf8 (Octet encode encode_cons encode_append utf8EncodeChar_of_ascii)

variable {b : Octet} {c : Char} {s w : List Char} {r rest front : List Octet} {t : Token}

theorem encode_ascii (h : ∀ c ∈ s, c.toNat < 0x80) : encode s = s.map octet := by
  induction s with
  | nil => rfl
  | cons c s ih =>
    rw [encode_cons, utf8EncodeChar_of_ascii (h c List.mem_cons_self),
      ih fun d hd => h d (List.mem_cons_of_mem c hd)]
    rfl

/-! ## Strings -/

theorem prepend_prepend (v w : List Octet) (o : Option (List Octet × List Octet)) :
    prepend v (prepend w o) = prepend (v ++ w) o := by
  cases o with
  | none => rfl
  | some p => simp [prepend]

theorem readString_plain (h : ∀ b ∈ front, b ≠ 0x22 ∧ ¬ b < 0x20 ∧ b ≠ 0x5C) :
    readString (front ++ r) = prepend front (readString r) := by
  induction front with
  | nil =>
    rw [List.nil_append]
    cases readString r <;> rfl
  | cons b front ih =>
    obtain ⟨h₁, h₂, h₃⟩ := h b List.mem_cons_self
    rw [List.cons_append, readString.eq_def]
    simp only [beq_iff_eq, bne_iff_ne, if_neg h₁, if_neg h₂, if_pos h₃]
    rw [ih fun x hx => h x (List.mem_cons_of_mem b hx), prepend_prepend, List.singleton_append]

theorem readString_letter {e x : Octet} (hu : e ≠ octet 'u') (he : escaped? e = some x) :
    readString (0x5C :: e :: r) = prepend [x] (readString r) := by
  have hne : (e == octet 'u') = false := beq_eq_false_iff_ne.mpr hu
  rw [readString.eq_def]
  simp [hne, he]

theorem readString_unit {x y z u : Octet} {n : Nat} (hn : unit? x y z u = some n)
    (hlt : n < 0xD800) : readString (0x5C :: octet 'u' :: x :: y :: z :: u :: r) =
      prepend (String.utf8EncodeChar (Char.ofNat n)) (readString r) := by
  have h₁ : ¬ 0xD800 ≤ n := by omega
  have h₂ : ¬ 0xDC00 ≤ n := by omega
  rw [readString.eq_def]
  simp [hn, h₁, h₂]

/-- The ways in which a character stands between quotes. -/
inductive Escape (c : Char) : List Char → Prop
  | letter {e : Char} : c.toNat < 0x80 → e.toNat < 0x80 → octet e ≠ octet 'u' →
      escaped? (octet e) = some (octet c) → Escape c ['\\', e]
  | unit : c.toNat < 0x20 → Escape c ('\\' :: 'u' :: Text.hex 4 c.toNat)
  | plain : 0x20 ≤ c.toNat → c ≠ '"' → c ≠ '\\' → Escape c [c]

theorem escape_escapeChar (c : Char) : Escape c (escapeChar c) := by
  unfold escapeChar
  split
  · next h =>
    rcases h with rfl | rfl
    · exact .letter (by decide) (by decide) (by decide) (by decide)
    · exact .letter (by decide) (by decide) (by decide) (by decide)
  next hsigns =>
  split
  · next h => exact h ▸ .letter (by decide) (by decide) (by decide) (by decide)
  split
  · next h => exact h ▸ .letter (by decide) (by decide) (by decide) (by decide)
  split
  · next h => exact h ▸ .letter (by decide) (by decide) (by decide) (by decide)
  split
  · next h => exact h ▸ .letter (by decide) (by decide) (by decide) (by decide)
  split
  · next h => exact h ▸ .letter (by decide) (by decide) (by decide) (by decide)
  split
  · next hlt => exact .unit hlt
  · next hge =>
    exact .plain (Nat.le_of_not_lt hge) (fun h => hsigns (.inl h)) fun h => hsigns (.inr h)

theorem unit?_hex_control : ∀ n < 0x20, ∃ x y z u,
    encode (Text.hex 4 n) = [x, y, z, u] ∧ unit? x y z u = some n := by
  have h : ∀ n < 0x20,
      encode (Text.hex 4 n) = [0x30, 0x30, octet (n / 16).digitChar, octet (n % 16).digitChar] ∧
      unit? 0x30 0x30 (octet (n / 16).digitChar) (octet (n % 16).digitChar) = some n := by
    decide
  exact fun n hn => ⟨_, _, _, _, h n hn⟩

/-- The octets of a character that needs no escape are none of those that strings treat. -/
theorem plain_of_mem_utf8EncodeChar (h : 0x20 ≤ c.toNat) (hquote : c ≠ '"') (hback : c ≠ '\\')
    (hb : b ∈ String.utf8EncodeChar c) : b ≠ 0x22 ∧ ¬ b < 0x20 ∧ b ≠ 0x5C := by
  have hn : b.toNat ≠ 0x22 ∧ ¬ b.toNat < 0x20 ∧ b.toNat ≠ 0x5C := by
    by_cases hascii : c.toNat < 0x80
    · rw [utf8EncodeChar_of_ascii hascii, List.mem_singleton] at hb
      have hbc : b.toNat = c.toNat := hb ▸ UInt8.toNat_ofNat_of_lt' (show c.toNat < 256 by omega)
      have h₁ : c.toNat ≠ 0x22 := fun h => hquote (Char.toNat_inj.mp h)
      have h₂ : c.toNat ≠ 0x5C := fun h => hback (Char.toNat_inj.mp h)
      omega
    · have := Utf8.le_of_mem_utf8EncodeChar (Nat.le_of_not_lt hascii) hb
      omega
  exact ⟨fun h => hn.1 (congrArg UInt8.toNat h), hn.2.1, fun h => hn.2.2 (congrArg UInt8.toNat h)⟩

theorem Escape.readString_eq (h : Escape c w) :
    readString (encode w ++ r) = prepend (String.utf8EncodeChar c) (readString r) := by
  cases h with
  | @letter e hc hascii hu he =>
    rw [encode_cons, encode_cons, utf8EncodeChar_of_ascii hascii, utf8EncodeChar_of_ascii hc]
    exact readString_letter hu he
  | unit hlt =>
    obtain ⟨x, y, z, u, hhex, hunit⟩ := unit?_hex_control c.toNat hlt
    rw [encode_cons, encode_cons, hhex]
    have hread := readString_unit (r := r) hunit (by omega)
    rwa [Char.ofNat_toNat] at hread
  | plain hge hquote hback =>
    rw [encode_cons, Utf8.encode_nil, List.append_nil]
    exact readString_plain fun b hb => plain_of_mem_utf8EncodeChar hge hquote hback hb

/-- A text is read as its octets, up to the closing quote. -/
theorem readString_quoted (s : List Char) :
    readString (encode (s.flatMap escapeChar) ++ 0x22 :: r) = some (encode s, r) := by
  induction s with
  | nil =>
    rw [List.flatMap_nil, Utf8.encode_nil, List.nil_append, readString.eq_def]
    rfl
  | cons c s ih =>
    rw [List.flatMap_cons, encode_append, List.append_assoc, (escape_escapeChar c).readString_eq,
      ih, encode_cons]
    rfl

/-! ## Brackets, separators and numerals -/

theorem mem_of_sign? (h : sign? b = some t) : b ∈ [0x7B, 0x7D, 0x5B, 0x5D, 0x3A, 0x2C] := by
  by_contra hno
  simp only [List.mem_cons, List.not_mem_nil, or_false, not_or] at hno
  simp [sign?, hno] at h

/-- No bracket or separator goes on a numeral. -/
theorem not_part_of_sign? (h : sign? b = some t) : isSpace b = false ∧ isDigit b = false ∧
    (b == octet '.') = false ∧ (b == octet 'e' || b == octet 'E') = false := by
  have hb := mem_of_sign? h
  simp only [List.mem_cons, List.not_mem_nil, or_false] at hb
  rcases hb with rfl | rfl | rfl | rfl | rfl | rfl <;> decide

/-- What a decimal digit is as an octet: it has its value, and no other token begins with it. -/
structure IsFigure (c : Char) : Prop where
  ascii : c.toNat < 0x80
  isDigit : Json.isDigit (octet c) = true
  value : (octet c).toNat - 0x30 = c.toNat - '0'.toNat
  isSpace : Json.isSpace (octet c) = false
  sign? : Json.sign? (octet c) = none
  notMem : octet c ∉ [0x22, octet 'n', octet 't', octet 'f']

theorem isFigure_of_mem_decimal {n : Nat} (h : c ∈ Text.decimal n) : IsFigure c := by
  have hall : ∀ d < 10, d.digitChar.toNat < 0x80 ∧ isDigit (octet d.digitChar) = true ∧
      (octet d.digitChar).toNat - 0x30 = d.digitChar.toNat - '0'.toNat ∧
      isSpace (octet d.digitChar) = false ∧ sign? (octet d.digitChar) = none ∧
      octet d.digitChar ∉ [0x22, octet 'n', octet 't', octet 'f'] := by
    decide
  obtain ⟨d, hd, heq⟩ := Text.exists_digitChar (c := .char c)
    (Nat.isDigit_of_mem_toDigits (by decide) (by decide) h)
  obtain rfl := CodePoint.char.inj heq
  obtain ⟨h₁, h₂, h₃, h₄, h₅, h₆⟩ := hall d hd
  exact ⟨h₁, h₂, h₃, h₄, h₅, h₆⟩

theorem digitsValue_decimal (n : Nat) : digitsValue ((Text.decimal n).map octet) = n := by
  rw [digitsValue, List.foldl_map]
  calc (Text.decimal n).foldl (fun k c => 10 * k + ((octet c).toNat - 0x30)) 0
    _ = (Text.decimal n).foldl (fun k c => 10 * k + (c.toNat - '0'.toNat)) 0 :=
      List.foldl_ext _ _ _ fun k c hc => by rw [(isFigure_of_mem_decimal hc).value]
    _ = n := by
      rw [← Nat.ofDigitChars_eq_foldl]
      exact Nat.ofDigitChars_ten_toDigits

theorem head?_decimal {n : Nat} (h : 0 < n) : ((Text.decimal n).map octet).head? ≠ some 0x30 := by
  induction n using Nat.strongRecOn with
  | ind n ih =>
    by_cases hn : n < 10
    · rw [Text.decimal, Nat.toDigits_of_lt_base hn]
      have hall : ∀ n < 10, 0 < n → ([n.digitChar].map octet).head? ≠ some 0x30 := by decide
      exact hall n hn h
    · -- all digits but the last are those of `n / 10`
      have hmap : (Nat.toDigits 10 (n / 10)).map octet ≠ [] := by
        simp [Nat.toDigits_ne_nil]
      rw [Text.decimal, Nat.toDigits_of_base_le (by decide) (by omega), List.map_append,
        List.head?_append_of_ne_nil _ hmap]
      exact ih (n / 10) (by omega) (by omega)

theorem leadingZero_decimal (n : Nat) :
    (((Text.decimal n).map octet).isEmpty || (((Text.decimal n).map octet).head? == some 0x30 &&
      ((Text.decimal n).map octet).length != 1)) = false := by
  have hne : (Text.decimal n).map octet ≠ [] := by simp [Text.decimal, Nat.toDigits_ne_nil]
  rw [List.isEmpty_eq_false_iff.mpr hne, Bool.false_or]
  cases n with
  | zero => decide
  | succ n => rw [beq_eq_false_iff_ne.mpr (head?_decimal n.succ_pos), Bool.false_and]

/-- A numeral in front of a bracket or separator is read as its number. -/
theorem readUnsigned_decimal (negative : Bool) (n : Nat) (h : sign? b = some t) :
    readUnsigned negative ((Text.decimal n).map octet ++ b :: r) =
      some (.int (if negative then -n else n), b :: r) := by
  obtain ⟨-, hdigit, hpoint, hexp⟩ := not_part_of_sign? h
  -- the sign ends the digits, and begins neither a fraction nor an exponent
  have hall : ∀ d ∈ (Text.decimal n).map octet, isDigit d = true := by
    intro d hd
    obtain ⟨c, hc, rfl⟩ := List.mem_map.mp hd
    exact (isFigure_of_mem_decimal hc).isDigit
  have hnot : ¬ isDigit b = true := by simp [hdigit]
  have htake : ((Text.decimal n).map octet ++ b :: r).takeWhile isDigit =
      (Text.decimal n).map octet := by
    rw [List.takeWhile_append_of_pos hall, List.takeWhile_cons_of_neg hnot, List.append_nil]
  have hdrop : ((Text.decimal n).map octet ++ b :: r).dropWhile isDigit = b :: r := by
    rw [List.dropWhile_append_of_pos hall, List.dropWhile_cons_of_neg hnot]
  have hfraction : readFraction (b :: r) = some ([], b :: r) := by
    simp [readFraction, hpoint]
  have hexponent : readExponent (b :: r) = some (none, b :: r) := by
    simp [readExponent, hexp]
  unfold readUnsigned
  simp only [htake, hdrop, leadingZero_decimal, digitsValue_decimal]
  simp [hfraction, hexponent]

/-! ## Tokens -/

theorem tokens_cons (hs : isSpace b = false) (h : readToken b r = some (t, rest)) :
    tokens (b :: r) = t :: tokens rest := by
  rw [tokens.eq_def]
  simp only [hs, Bool.false_eq_true, if_false]
  split
  · next hnone => simp [h] at hnone
  · next t' rest' hsome =>
    rw [h] at hsome
    cases hsome
    rfl

theorem tokens_blanks (h : ∀ b ∈ r, isSpace b = true) : tokens r = [] := by
  induction r with
  | nil => rw [tokens]
  | cons b r ih =>
    rw [tokens.eq_def]
    simp only [h b List.mem_cons_self, if_true]
    exact ih fun x hx => h x (List.mem_cons_of_mem b hx)

theorem tokens_sign (h : sign? b = some t) : tokens (b :: r) = t :: tokens r := by
  refine tokens_cons (not_part_of_sign? h).1 ?_
  simp [readToken, h]

/-- The text is read as some tokens, whatever comes behind it. -/
def Spells (s : List Char) (ts : List Token) : Prop :=
  ∀ r, tokens (encode s ++ r) = ts ++ tokens r

theorem spells_quote (s : List Char) : Spells (quote s) [.string (encode s)] := by
  intro r
  have hoctets : encode (quote s) ++ r = 0x22 :: (encode (s.flatMap escapeChar) ++ 0x22 :: r) := by
    rw [quote, List.cons_append, encode_cons, encode_append, List.append_assoc, List.append_assoc]
    rfl
  have hread : readToken 0x22 (encode (s.flatMap escapeChar) ++ 0x22 :: r) =
      some (.string (encode s), r) := by
    have hsign : sign? 0x22 = none := by decide
    simp [readToken, hsign, readString_quoted]
  rw [hoctets, tokens_cons (by decide) hread]
  rfl

/-- A bracket or separator is one token. -/
theorem spells_sign (hascii : c.toNat < 0x80) (h : sign? (octet c) = some t) : Spells [c] [t] := by
  intro r
  rw [encode_ascii (List.forall_mem_singleton.mpr hascii), List.map_singleton,
    List.singleton_append, tokens_sign h]
  rfl

theorem readWord_eq_none (h : b ∉ [0x22, octet 'n', octet 't', octet 'f']) :
    readWord (b :: r) = none := by
  have hnull : "null".toList.map octet = octet 'n' :: "ull".toList.map octet := by decide
  have htrue : "true".toList.map octet = octet 't' :: "rue".toList.map octet := by decide
  have hfalse : "false".toList.map octet = octet 'f' :: "alse".toList.map octet := by decide
  simp only [List.mem_cons, List.not_mem_nil, or_false, not_or] at h
  rw [readWord, hnull, htrue, hfalse]
  simp [List.isPrefixOf_cons_cons, Ne.symm h.2.1, Ne.symm h.2.2.1, Ne.symm h.2.2.2]

theorem tokens_number (hspace : isSpace b = false) (hsign : sign? b = none)
    (hno : b ∉ [0x22, octet 'n', octet 't', octet 'f'])
    (h : readNumber (b :: r) = some (t, rest)) : tokens (b :: r) = t :: tokens rest := by
  have hquote : (b == 0x22) = false :=
    beq_eq_false_iff_ne.mpr fun hb => hno (hb ▸ List.mem_cons_self)
  refine tokens_cons hspace ?_
  simp [readToken, hsign, hquote, readWord_eq_none hno, h]

theorem encode_decimal_append (n : Nat) (hascii : c.toNat < 0x80) :
    encode (Text.decimal n ++ [c]) ++ r = (Text.decimal n).map octet ++ octet c :: r := by
  rw [encode_append, encode_ascii fun d hd => (isFigure_of_mem_decimal hd).ascii,
    encode_ascii (List.forall_mem_singleton.mpr hascii), List.append_assoc]
  rfl

theorem spells_decimal (n : Nat) (hascii : c.toNat < 0x80) (h : sign? (octet c) = some t) :
    Spells (Text.decimal n ++ [c]) [.int n, t] := by
  intro r
  have hread : readUnsigned false ((Text.decimal n).map octet ++ octet c :: r) =
      some (.int n, octet c :: r) := readUnsigned_decimal false n h
  rw [encode_decimal_append n hascii]
  cases hdec : Text.decimal n with
  | nil => exact absurd hdec Nat.toDigits_ne_nil
  | cons d ds =>
    have hd : IsFigure d := isFigure_of_mem_decimal (hdec ▸ List.mem_cons_self)
    have hminus : (octet d == octet '-') = false := by
      apply beq_eq_false_iff_ne.mpr
      intro he
      have hdigit := hd.isDigit
      rw [he] at hdigit
      exact absurd hdigit (by decide)
    have hnumber : readNumber (octet d :: (ds.map octet ++ octet c :: r)) =
        some (.int n, octet c :: r) := by
      rw [hdec] at hread
      rw [readNumber, hminus]
      exact hread
    rw [List.map_cons, List.cons_append, tokens_number hd.isSpace hd.sign? hd.notMem hnumber,
      tokens_sign h]
    rfl

theorem spells_minus (n : Nat) (hascii : c.toNat < 0x80) (h : sign? (octet c) = some t) :
    Spells ('-' :: Text.decimal n ++ [c]) [.int (-n), t] := by
  intro r
  have hread : readNumber (octet '-' :: ((Text.decimal n).map octet ++ octet c :: r)) =
      some (.int (-n), octet c :: r) := readUnsigned_decimal true n h
  rw [List.cons_append, encode_cons, List.append_assoc, encode_decimal_append n hascii]
  change tokens (octet '-' :: ((Text.decimal n).map octet ++ octet c :: r)) = _
  rw [tokens_number (by decide) (by decide) (by decide) hread, tokens_sign h]
  rfl

end Standin.Json
