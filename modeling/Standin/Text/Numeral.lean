import Standin.Text.Blank
import Standin.Text.Digit

/-!
# Numerals

* `decimal`, `padded`: a number in decimal digits, and filled with zeros to a fixed length;
* `Writable`: a number is written only if it does not have too many digits;
* `readInt?`: the whole number that a text spells. Blanks around it are skipped; a sign may stand in
  front; digits of any script count, and one underscore may stand between two of them.
-/

namespace Standin.Text

/-- The decimal digits of a number. -/
def decimal (n : Nat) : List Char := Nat.toDigits 10 n

/-- The decimal digits of a number, filled with zeros in front to the given length. -/
def padded (length n : Nat) : List Char :=
  List.replicate (length - (decimal n).length) '0' ++ decimal n

/-- The longest run of digits that is written for a number, or read as one. -/
def maxDigits : Nat := 4300

/-- A number with no more digits than can be written. -/
def Writable (n : Nat) : Prop := (decimal n).length ≤ maxDigits

instance (n : Nat) : Decidable (Writable n) :=
  inferInstanceAs (Decidable ((decimal n).length ≤ maxDigits))

/-- The words for a number that is too long to be written. -/
def tooManyDigits : String :=
  "Exceeds the limit (4300 digits) for integer string conversion; " ++
    "use sys.set_int_max_str_digits() to increase the limit"

/-- Words about a number, or those for one that is too long to be written. -/
def sayNumber (n : Int) (say : String → String) : String :=
  if Writable n.natAbs then say (toString n) else tooManyDigits

/-- The value of a run of digits read after `acc`; `fresh` says that a digit must come next. -/
def readDigits? (acc : Nat) (fresh : Bool) : Text → Option Nat
  | [] => if fresh then none else some acc
  | c :: s =>
    if c = '_' then if fresh then none else readDigits? acc true s
    else (decimalValue? c).bind fun d => readDigits? (10 * acc + d) false s

/-- A blank around a numeral: the ASCII separators U+001C to U+001F do not count. -/
def isNumeralBlank (c : CodePoint) : Bool := isBlank c && !(0x1C ≤ c.toNat && c.toNat ≤ 0x1F)

/-- The whole number that a text spells. -/
def readInt? (s : Text) : Option Int :=
  let s := ((s.dropWhile isNumeralBlank).reverse.dropWhile isNumeralBlank).reverse
  let body := match s with
    | '+' :: r => r
    | '-' :: r => r
    | r => r
  if (body.filter fun c : CodePoint => c ≠ '_').length > maxDigits then none
  else
    (readDigits? 0 true body).map fun (n : Nat) =>
      if s.head? = some (.char '-') then -(n : Int) else (n : Int)

end Standin.Text
