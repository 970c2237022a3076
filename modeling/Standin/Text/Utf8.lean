import Standin.Text.Basic

/-!
# UTF-8

* `encode`: the octets of characters; `chars?`: the characters of a text, if no surrogate stands
  alone in it;
* `Fault`, `Fault.message`: why octets are no text, and where;
* `decode`: the characters of octets. A sequence is refused at its first octet that cannot stand
  there: overlong forms and surrogates are thus refused at their second octet.
-/

namespace Standin.Utf8

abbrev Octet := UInt8

/-! ## Writing -/

/-- The octets of characters, those of one after another. -/
def encode (s : List Char) : List Octet := s.flatMap String.utf8EncodeChar

/-- Surrogates that stand alone: where the first run of them begins, the first of them, and how many
there are. -/
structure LoneFault where
  position : Nat
  first : Fin 0x800
  length : Nat
deriving DecidableEq, Repr

def LoneFault.message (f : LoneFault) : String :=
  let place :=
    if f.length = 1 then
      let first := String.ofList (Nat.toDigits 16 (0xD800 + f.first))
      s!"character '\\u{first}' in position {f.position}"
    else s!"characters in position {f.position}-{f.position + f.length - 1}"
  s!"'utf-8' codec can't encode {place}: surrogates not allowed"

/-- The characters of a text that begins at position `pos`. -/
def charsFrom (pos : Nat) : Text → Except LoneFault (List Char)
  | [] => .ok []
  | .char c :: s => (charsFrom (pos + 1) s).map (c :: ·)
  | .surrogate n :: s => .error ⟨pos, n, 1 + (s.takeWhile CodePoint.isSurrogate).length⟩

/-- The characters of a text, if no surrogate stands alone in it. -/
def chars? (s : Text) : Except LoneFault (List Char) := charsFrom 0 s

/-! ## Faults -/

/-- Why a sequence is refused. -/
inductive Reason
  /-- No sequence begins with this octet. -/
  | start
  /-- An octet cannot stand at its place in the sequence. -/
  | continuation
  /-- The octets end inside the sequence. -/
  | ended
deriving DecidableEq, Repr

/-- A refused sequence: where it begins, its first octet, and how many octets are at fault. -/
structure Fault where
  position : Nat
  first : Octet
  length : Nat
  reason : Reason
deriving DecidableEq, Repr

def Reason.message : Reason → String
  | .start => "invalid start byte"
  | .continuation => "invalid continuation byte"
  | .ended => "unexpected end of data"

def Fault.message (f : Fault) : String :=
  let place :=
    if f.length = 1 then
      let octet := String.ofList (Nat.toDigits 16 f.first.toNat)
      s!"byte 0x{octet} in position {f.position}"
    else s!"bytes in position {f.position}-{f.position + f.length - 1}"
  s!"'utf-8' codec can't decode {place}: {f.reason.message}"

/-! ## Reading -/

/-- An octet that continues a sequence. -/
def isTail (b : Octet) : Bool := 0x80 ≤ b && b < 0xC0

/-- The six bits that a continuing octet carries. -/
def tailBits (b : Octet) : Nat := b.toNat - 0x80

/-- The second octet of a sequence of three may follow the first. -/
def second3 (b b₁ : Octet) : Bool :=
  isTail b₁ && (if b == 0xE0 then 0xA0 ≤ b₁ else if b == 0xED then b₁ < 0xA0 else true)

/-- The second octet of a sequence of four may follow the first. -/
def second4 (b b₁ : Octet) : Bool :=
  isTail b₁ && (if b == 0xF0 then 0x90 ≤ b₁ else if b == 0xF4 then b₁ < 0x90 else true)

/-- The characters of octets that begin at position `pos`. -/
def decodeFrom (pos : Nat) : List Octet → Except Fault (List Char)
  | [] => .ok []
  | b :: r =>
    let fault (length : Nat) (reason : Reason) : Except Fault (List Char) :=
      .error ⟨pos, b, length, reason⟩
    if b < 0x80 then (decodeFrom (pos + 1) r).map (Char.ofNat b.toNat :: ·)
    else if b < 0xC2 then fault 1 .start
    else if b < 0xE0 then
      match r with
      | [] => fault 1 .ended
      | b₁ :: r =>
        if isTail b₁ then
          (decodeFrom (pos + 2) r).map
            (Char.ofNat ((b.toNat - 0xC0) * 64 + tailBits b₁) :: ·)
        else fault 1 .continuation
    else if b < 0xF0 then
      match r with
      | [] => fault 1 .ended
      | b₁ :: r =>
        if second3 b b₁ then
          match r with
          | [] => fault 2 .ended
          | b₂ :: r =>
            if isTail b₂ then
              (decodeFrom (pos + 3) r).map
                (Char.ofNat ((b.toNat - 0xE0) * 4096 + tailBits b₁ * 64 + tailBits b₂) :: ·)
            else fault 2 .continuation
        else fault 1 .continuation
    else if b < 0xF5 then
      match r with
      | [] => fault 1 .ended
      | b₁ :: r =>
        if second4 b b₁ then
          match r with
          | [] => fault 2 .ended
          | b₂ :: r =>
            if isTail b₂ then
              match r with
              | [] => fault 3 .ended
              | b₃ :: r =>
                if isTail b₃ then
                  (decodeFrom (pos + 4) r).map
                    (Char.ofNat ((b.toNat - 0xF0) * 262144 + tailBits b₁ * 4096 +
                      tailBits b₂ * 64 + tailBits b₃) :: ·)
                else fault 3 .continuation
            else fault 2 .continuation
        else fault 1 .continuation
    else fault 1 .start

/-- The characters of the octets, or the first fault. -/
def decode (octets : List Octet) : Except Fault (List Char) := decodeFrom 0 octets

end Standin.Utf8
