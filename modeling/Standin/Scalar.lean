import Standin.Text.Numeral
import Standin.Text.Quoted

/-!
# Scalars

A setting may be given any plain value; checks come later and show the value they refuse.

* `Scalar`: a plain value;
* `Scalar.isOn`: the values that switch something on;
* `Scalar.shown`: a value as a message shows it. Decimals have their shortest form: with a point
  from a ten-thousandth up to ten to the sixteenth, else with an exponent of two digits or more.
-/

namespace Standin

/-- A plain value. -/
inductive Scalar
  | null
  | bool (b : Bool)
  | int (n : Int)
  /-- The number `mantissa / 10 ^ places`. -/
  | decimal (mantissa : Int) (places : Nat)
  | text (s : Text)
deriving DecidableEq, Repr

namespace Scalar

/-- Zeros at the end of a mantissa that the places allow to drop. -/
def trimZeros (mantissa : Nat) : Nat → Nat × Nat
  | 0 => (mantissa, 0)
  | places + 1 =>
    if mantissa % 10 = 0 then trimZeros (mantissa / 10) places else (mantissa, places + 1)

/-- The exponent of a number in scientific form. -/
def exponentText (e : Int) : List Char :=
  'e' :: (if e < 0 then '-' else '+') :: Text.padded 2 e.natAbs

/-- The decimal `mantissa / 10 ^ places` in its shortest form. -/
def decimalText (mantissa : Int) (places : Nat) : List Char :=
  let sign : List Char := if mantissa < 0 then ['-'] else []
  let (m, p) := trimZeros mantissa.natAbs places
  if m = 0 then sign ++ ['0', '.', '0']
  else
    let ds := Text.decimal m
    let point : Int := ds.length - p
    if -4 < point ∧ point ≤ 16 then
      if p = 0 then sign ++ ds ++ ['.', '0']
      else if point ≤ 0 then
        sign ++ ['0', '.'] ++ List.replicate (-point).toNat '0' ++ ds
      else sign ++ ds.take point.toNat ++ '.' :: ds.drop point.toNat
    else
      let rest := ((ds.drop 1).reverse.dropWhile (· = '0')).reverse
      sign ++ ds.take 1 ++ (if rest = [] then [] else '.' :: rest) ++ exponentText (point - 1)

/-- The value switches something on. -/
def isOn : Scalar → Bool
  | null => false
  | bool b => b
  | int n => n != 0
  | decimal m _ => m != 0
  | text s => !s.isEmpty

def kind : Scalar → String
  | null => "NoneType"
  | bool _ => "bool"
  | int _ => "int"
  | decimal .. => "float"
  | text _ => "str"

/-- The value as a message shows it. -/
def shown : Scalar → String
  | null => "None"
  | bool true => "True"
  | bool false => "False"
  | int n => toString n
  | decimal m p => String.ofList (decimalText m p)
  | text s => Text.quoted s

end Scalar

end Standin
