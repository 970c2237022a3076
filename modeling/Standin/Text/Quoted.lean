import Standin.Text.Printable

/-!
# Quoted texts

The form in which a message shows a text: between single quotes, or between double quotes if the
text has a single quote and no double one. A backslash and the quote in use are escaped; line feed,
carriage return and tab have letters; any other code point that does not print, a lone surrogate for
one, is written by its number with two, four or eight hexadecimal digits.

* `quoteMark`: the quote in use;
* `escapeChar`, `quote`: the quoted form of a code point and of a text.
-/

namespace Standin.Text

/-- The hexadecimal digits of `n`, at least `width` of them. -/
def hex (width n : Nat) : List Char :=
  let ds := Nat.toDigits 16 n
  List.replicate (width - ds.length) '0' ++ ds

/-- The quote that stands around a text. -/
def quoteMark (s : Text) : Char :=
  if s.elem (.char '\'') && !s.elem (.char '"') then '"' else '\''

/-- A code point as it stands between the quotes `q`. -/
def escapeChar (q : Char) : CodePoint → List Char
  | .surrogate n => '\\' :: 'u' :: hex 4 (0xD800 + n)
  | .char c =>
    if c == q || c == '\\' then ['\\', c]
    else if c == '\n' then ['\\', 'n']
    else if c == '\r' then ['\\', 'r']
    else if c == '\t' then ['\\', 't']
    else if isPrintable c then [c]
    else if c.toNat ≤ 0xFF then '\\' :: 'x' :: hex 2 c.toNat
    else if c.toNat ≤ 0xFFFF then '\\' :: 'u' :: hex 4 c.toNat
    else '\\' :: 'U' :: hex 8 c.toNat

/-- The text between quotes, which has no lone surrogates. -/
def quote (s : Text) : List Char :=
  let q := quoteMark s
  q :: s.flatMap (escapeChar q) ++ [q]

/-- The text between quotes, for a message. -/
def quoted (s : Text) : String := String.ofList (quote s)

end Standin.Text
