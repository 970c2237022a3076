import Standin.Text.Utf8

/-!
# Tokens of JSON

* `Token`: brackets, separators and scalars; what is no token at all is `bad` and ends the list;
* `readString`: the octets that a string stands for, escapes resolved;
* `readNumber`: a whole number, or a number with a point or an exponent;
* `tokens`: the tokens of a text given as octets.
-/

namespace Standin.Json

open Utf8 (Octet)

/-- A token. The octets of a string need not be a text. -/
inductive Token
  | braceOpen
  | braceClose
  | bracketOpen
  | bracketClose
  | colon
  | comma
  | null
  | bool (b : Bool)
  | string (octets : List Octet)
  | int (n : Int)
  /-- A number with a point or an exponent, and whether it is too large for a double. -/
  | float (tooLarge : Bool)
  | bad
deriving DecidableEq, Repr

/-- The octet of an ASCII character. -/
def octet (c : Char) : Octet := UInt8.ofNat c.toNat

def isSpace (b : Octet) : Bool := b == 0x20 || b == 0x09 || b == 0x0A || b == 0x0D

/-! ## Strings -/

def hexValue? (b : Octet) : Option Nat :=
  if 0x30 ≤ b && b ≤ 0x39 then some (b.toNat - 0x30)
  else if 0x41 ≤ b && b ≤ 0x46 then some (b.toNat - 0x37)
  else if 0x61 ≤ b && b ≤ 0x66 then some (b.toNat - 0x57)
  else none

/-- The UTF-16 unit that four hexadecimal digits spell. -/
def unit? (a b c d : Octet) : Option Nat := do
  return ((← hexValue? a) * 16 + (← hexValue? b)) * 256 + ((← hexValue? c) * 16 + (← hexValue? d))

/-- The octet that a letter stands for after a backslash. -/
def escaped? (b : Octet) : Option Octet :=
  if b == 0x22 || b == 0x5C || b == 0x2F then some b
  else if b == octet 'b' then some 0x08
  else if b == octet 'f' then some 0x0C
  else if b == octet 'n' then some 0x0A
  else if b == octet 'r' then some 0x0D
  else if b == octet 't' then some 0x09
  else none

/-- The string with some octets in front. -/
def prepend (front : List Octet) :
    Option (List Octet × List Octet) → Option (List Octet × List Octet)
  | none => none
  | some (s, rest) => some (front ++ s, rest)

/-- The octets of a string behind its opening quote, and what follows the closing one. Units from
U+D800 to U+DFFF have to come in pairs. -/
def readString : List Octet → Option (List Octet × List Octet)
  | [] => none
  | b :: r =>
    if b == 0x22 then some ([], r)
    else if b < 0x20 then none
    else if b != 0x5C then prepend [b] (readString r)
    else
      match r with
      | [] => none
      | e :: r =>
        if e == octet 'u' then
          match r with
          | a :: b :: c :: d :: r =>
            match unit? a b c d with
            | none => none
            | some u =>
              if 0xD800 ≤ u && u ≤ 0xDBFF then
                match r with
                | s :: t :: a :: b :: c :: d :: r =>
                  match unit? a b c d with
                  | none => none
                  | some l =>
                    if s == 0x5C && t == octet 'u' && 0xDC00 ≤ l && l ≤ 0xDFFF then
                      let n := 0x10000 + (u - 0xD800) * 0x400 + (l - 0xDC00)
                      prepend (String.utf8EncodeChar (Char.ofNat n)) (readString r)
                    else none
                | _ => none
              else if 0xDC00 ≤ u && u ≤ 0xDFFF then none
              else prepend (String.utf8EncodeChar (Char.ofNat u)) (readString r)
          | _ => none
        else
          match escaped? e with
          | none => none
          | some x => prepend [x] (readString r)

theorem exists_of_prepend {front s rest : List Octet} {o : Option (List Octet × List Octet)}
    (h : prepend front o = some (s, rest)) : ∃ s', o = some (s', rest) := by
  cases o with
  | none => simp [prepend] at h
  | some p =>
    simp only [prepend, Option.some.injEq, Prod.mk.injEq] at h
    exact ⟨p.1, by rw [← h.2]⟩

/-- What follows a string is not longer than the input. -/
theorem length_le_of_readString {l s rest : List Octet} (h : readString l = some (s, rest)) :
    rest.length ≤ l.length := by
  fun_induction readString l generalizing s
  all_goals first
    | (obtain ⟨s', hs⟩ := exists_of_prepend h
       rename_i ih
       have := ih hs
       simp only [List.length_cons]
       omega)
    | simp_all

/-! ## Numbers -/

def isDigit (b : Octet) : Bool := 0x30 ≤ b && b ≤ 0x39

/-- The number that digits spell. -/
def digitsValue (ds : List Octet) : Nat := ds.foldl (fun n d => 10 * n + (d.toNat - 0x30)) 0

/-- The least number that rounds beyond the largest double. -/
def tooLargeFrom : Nat := Nat.pow 2 1024 - Nat.pow 2 970

/-- The number `mantissa * 10 ^ exponent` is too large for a double. -/
def isTooLarge (mantissa : Nat) (exponent : Int) : Bool :=
  let size := (Nat.toDigits 10 mantissa).length + exponent
  if mantissa = 0 || size < 300 then false
  else if size > 320 then true
  else if 0 ≤ exponent then tooLargeFrom ≤ mantissa * Nat.pow 10 exponent.toNat
  else tooLargeFrom * Nat.pow 10 (-exponent).toNat ≤ mantissa

/-- The digits after a point, if there is one. -/
def readFraction (l : List Octet) : Option (List Octet × List Octet) :=
  match l with
  | b :: r =>
    if b == octet '.' then
      if (r.takeWhile isDigit).isEmpty then none
      else some (r.takeWhile isDigit, r.dropWhile isDigit)
    else some ([], l)
  | [] => some ([], l)

/-- A minus sign may stand, or a plus sign; whether it is a minus, and what follows. -/
def readSign : List Octet → Bool × List Octet
  | [] => (false, [])
  | b :: r =>
    if b == octet '-' then (true, r) else if b == octet '+' then (false, r) else (false, b :: r)

/-- The exponent, if there is one. -/
def readExponent (l : List Octet) : Option (Option Int × List Octet) :=
  match l with
  | b :: r =>
    if b == octet 'e' || b == octet 'E' then
      let ds := (readSign r).2.takeWhile isDigit
      if ds.isEmpty then none
      else
        let n : Int := digitsValue ds
        some (some (if (readSign r).1 then -n else n), (readSign r).2.dropWhile isDigit)
    else some (none, l)
  | [] => some (none, l)

/-- A number without its sign, and what follows it. A zero may lead only as the one digit in front
of the point. -/
def readUnsigned (negative : Bool) (l : List Octet) : Option (Token × List Octet) :=
  let whole := l.takeWhile isDigit
  if whole.isEmpty || (whole.head? == some 0x30 && whole.length != 1) then none
  else do
    let (fraction, rest) ← readFraction (l.dropWhile isDigit)
    let (exponent, rest) ← readExponent rest
    if fraction.isEmpty && exponent.isNone then
      let n : Int := digitsValue whole
      return (.int (if negative then -n else n), rest)
    else
      let mantissa := digitsValue (whole ++ fraction)
      return (.float (isTooLarge mantissa (exponent.getD 0 - fraction.length)), rest)

/-- A number, and what follows it. -/
def readNumber : List Octet → Option (Token × List Octet)
  | [] => none
  | b :: r => if b == octet '-' then readUnsigned true r else readUnsigned false (b :: r)

theorem length_dropWhile_le (p : Octet → Bool) (l : List Octet) :
    (l.dropWhile p).length ≤ l.length := (List.dropWhile_sublist p).length_le

theorem length_le_of_readFraction {l ds rest : List Octet} (h : readFraction l = some (ds, rest)) :
    rest.length ≤ l.length := by
  unfold readFraction at h
  split at h
  · next b r =>
    have := length_dropWhile_le isDigit r
    split at h
    · split at h
      · simp at h
      · simp only [Option.some.injEq, Prod.mk.injEq] at h
        simp only [← h.2, List.length_cons]
        omega
    · simp only [Option.some.injEq, Prod.mk.injEq] at h
      simp [← h.2]
  · simp only [Option.some.injEq, Prod.mk.injEq] at h
    simp [← h.2]

theorem length_readSign_le (l : List Octet) : (readSign l).2.length ≤ l.length := by
  unfold readSign
  split
  · simp
  · split
    · simp
    · split <;> simp

theorem length_le_of_readExponent {l rest : List Octet} {e : Option Int}
    (h : readExponent l = some (e, rest)) : rest.length ≤ l.length := by
  unfold readExponent at h
  split at h
  · next b r =>
    have h₁ := length_dropWhile_le isDigit (readSign r).2
    have h₂ := length_readSign_le r
    split at h
    · simp only at h
      split at h
      · simp at h
      · simp only [Option.some.injEq, Prod.mk.injEq] at h
        simp only [← h.2, List.length_cons]
        omega
    · simp only [Option.some.injEq, Prod.mk.injEq] at h
      simp [← h.2]
  · simp only [Option.some.injEq, Prod.mk.injEq] at h
    simp [← h.2]

theorem length_lt_of_readUnsigned {negative : Bool} {l rest : List Octet} {t : Token}
    (h : readUnsigned negative l = some (t, rest)) : rest.length < l.length := by
  unfold readUnsigned at h
  simp only at h
  split at h
  · simp at h
  · next hw =>
    have hsplit := congrArg List.length (List.takeWhile_append_dropWhile (p := isDigit) (l := l))
    have hpos : 0 < (l.takeWhile isDigit).length := by
      cases hl : l.takeWhile isDigit with
      | nil => simp [hl] at hw
      | cons => simp
    simp only [List.length_append] at hsplit
    cases hf : readFraction (l.dropWhile isDigit) with
    | none => simp [hf] at h
    | some p =>
      obtain ⟨fraction, rest₁⟩ := p
      cases he : readExponent rest₁ with
      | none => simp [hf, he] at h
      | some q =>
        obtain ⟨exponent, rest₂⟩ := q
        have h₁ := length_le_of_readFraction hf
        have h₂ := length_le_of_readExponent he
        have : rest₂ = rest := by
          simp only [hf, he, Option.bind_eq_bind, Option.bind_some] at h
          split at h <;> simp_all
        subst this
        omega

/-! ## Tokens -/

/-- A word that stands for a scalar, and what follows it. -/
def readWord (l : List Octet) : Option (Token × List Octet) :=
  if ("null".toList.map octet).isPrefixOf l then some (.null, l.drop 4)
  else if ("true".toList.map octet).isPrefixOf l then some (.bool true, l.drop 4)
  else if ("false".toList.map octet).isPrefixOf l then some (.bool false, l.drop 5)
  else none

theorem length_lt_of_readWord {b : Octet} {r : List Octet} {p : Token × List Octet}
    (h : readWord (b :: r) = some p) : p.2.length < (b :: r).length := by
  unfold readWord at h
  split at h
  · rw [← Option.some.inj h, List.length_drop, List.length_cons]
    omega
  · split at h
    · rw [← Option.some.inj h, List.length_drop, List.length_cons]
      omega
    · split at h
      · rw [← Option.some.inj h, List.length_drop, List.length_cons]
        omega
      · simp at h

/-- A bracket or separator. -/
def sign? (b : Octet) : Option Token :=
  if b == 0x7B then some .braceOpen
  else if b == 0x7D then some .braceClose
  else if b == 0x5B then some .bracketOpen
  else if b == 0x5D then some .bracketClose
  else if b == 0x3A then some .colon
  else if b == 0x2C then some .comma
  else none

/-- The first token and what follows it; there is at least one octet. -/
def readToken (b : Octet) (r : List Octet) : Option (Token × List Octet) :=
  match sign? b with
  | some token => some (token, r)
  | none =>
    if b == 0x22 then (readString r).map fun (s, rest) => (.string s, rest)
    else (readWord (b :: r)).or (readNumber (b :: r))

/-- What follows a token is shorter than the input. -/
theorem length_le_of_readToken {b : Octet} {r rest : List Octet} {t : Token}
    (h : readToken b r = some (t, rest)) : rest.length ≤ r.length := by
  unfold readToken at h
  split at h
  · simp only [Option.some.injEq, Prod.mk.injEq] at h
    simp [← h.2]
  · split at h
    · cases hs : readString r with
      | none => simp [hs] at h
      | some p =>
        have := length_le_of_readString hs
        simp only [hs, Option.map_some, Option.some.injEq, Prod.mk.injEq] at h
        rw [← h.2]
        exact this
    · cases hw : readWord (b :: r) with
      | some p =>
        have := length_lt_of_readWord hw
        simp only [hw, Option.some_or, Option.some.injEq] at h
        simp only [h, List.length_cons] at this
        omega
      | none =>
        simp only [hw, Option.none_or] at h
        unfold readNumber at h
        simp only at h
        split at h
        · have := length_lt_of_readUnsigned h
          omega
        · have := length_lt_of_readUnsigned h
          simp only [List.length_cons] at this
          omega

/-- The tokens of a text given as octets. -/
def tokens : List Octet → List Token
  | [] => []
  | b :: r =>
    if isSpace b then tokens r
    else
      match h : readToken b r with
      | none => [.bad]
      | some (token, rest) =>
        have := length_le_of_readToken h
        token :: tokens rest
termination_by l => l.length

end Standin.Json
