import Standin.Text.Utf8

/-!
# Buffers

* `Buffer`: a document as it is handed over, as text or as octets in UTF-8;
* `Supply`: whatever a caller may hand over in place of a buffer;
* `Supply.read`, `Form.wrap`: the text of a buffer, and a text in the form of its buffer.
-/

namespace Standin

/-- A complete document, as text or as octets. Octets are the same whatever kind of value holds
them. -/
inductive Buffer
  | text (text : Text)
  | octets (octets : List Utf8.Octet)
deriving DecidableEq, Repr

/-- What a caller hands over. -/
inductive Supply
  /-- A complete document. -/
  | buffer (buffer : Buffer)
  /-- A stream or any other value, known by the name of its kind. -/
  | other (kind : String)
deriving DecidableEq, Repr

/-- The form of a buffer. -/
inductive Form
  | text
  | octets
deriving DecidableEq, Repr

/-- Why no document can be had. -/
inductive SupplyFault
  /-- The octets are no text. -/
  | notText (fault : Utf8.Fault)
  /-- The value is no complete buffer. -/
  | notBuffer (kind : String)
deriving DecidableEq, Repr

def SupplyFault.message : SupplyFault → String
  | .notText fault => s!"buffer is not valid UTF-8: {fault.message}"
  | .notBuffer kind =>
    s!"expected a complete text buffer (str or bytes), got {kind}; " ++
      "streams and chunked sources are not supported"

/-- The text of a buffer and the form it came in. -/
def Buffer.read : Buffer → Except SupplyFault (Text × Form)
  | .text s => .ok (s, .text)
  | .octets b =>
    match Utf8.decode b with
    | .ok s => .ok (Text.ofChars s, .octets)
    | .error fault => .error (.notText fault)

/-- The text of what was handed over and the form it came in. -/
def Supply.read : Supply → Except SupplyFault (Text × Form)
  | .buffer b => b.read
  | .other kind => .error (.notBuffer kind)

/-- A text in the given form. There are no octets for a lone surrogate. -/
def Form.wrap : Form → Text → Except Utf8.LoneFault Buffer
  | .text, s => .ok (.text s)
  | .octets, s => (Utf8.chars? s).map fun s => .octets (Utf8.encode s)

end Standin
