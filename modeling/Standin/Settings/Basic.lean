import Standin.Marker
import Standin.Scalar

/-!
# Settings

* `Settings`: the markers, the form of the tokens and two switches, with what makes them valid;
* `Draft`, `Draft.check`: settings that are still to be checked, and the check;
* `Changes`, `Settings.evolve`: new values for some of the settings;
* `SettingsFault`: why a draft is refused. Of several faults the first in the order of the check
  counts: key length, stem, opening marker, closing marker.
-/

namespace Standin

/-- The longest key. -/
def maxKeyLength : Nat := 18

/-- One of two words is part of the other. -/
def overlaps (v w : Text) : Bool := Text.contains w v || Text.contains v w

/-- Checked settings. A token is the stem and a key of decimal digits. -/
structure Settings where
  markers : Markers
  keyLength : Nat
  stem : Text
  /-- A token that is missing when a text is unmasked is a problem. -/
  strict : Scalar
  /-- A closing marker outside all fragments is noticed. -/
  noticeStrays : Scalar
  keyLength_mem : 1 ≤ keyLength ∧ keyLength ≤ maxKeyLength
  stem_ne : stem ≠ []
  stem_digitFree : stem.any Text.isDigit = false
  opening_apart : overlaps stem markers.opening.symbol = false
  closing_apart : overlaps stem markers.closing.symbol = false

/-- Settings that are still to be checked. -/
structure Draft where
  markers : Markers := Style.jinja.markers
  keyLength : Scalar := .int 7
  stem : Scalar := .text ['F', 'R', 'A', 'G', 'M', 'E', 'N', 'T']
  strict : Scalar := .bool true
  noticeStrays : Scalar := .bool true
deriving DecidableEq, Repr

/-- Why settings are refused. -/
inductive SettingsFault
  /-- The key length is no whole number. -/
  | keyLengthKind (value : Scalar)
  /-- The key length is too small or too large. -/
  | keyLengthRange (value : Int)
  /-- The stem is empty or has a digit. -/
  | badStem (value : Scalar)
  /-- The stem is a value that holds no characters to look at. -/
  | stemKind (value : Scalar)
  /-- The stem and a marker are part of one another. -/
  | overlap (stem symbol : Text)
  /-- No settings have these names. -/
  | unknown (names : List String)
  /-- The markers are refused. -/
  | markers (fault : MarkerFault)
  /-- A variable that should spell a whole number does not. -/
  | notNumber (name : String) (raw : Text)
  /-- A variable that should spell a switch does not. -/
  | notSwitch (name : String) (raw : Text)
deriving DecidableEq, Repr

def SettingsFault.message : SettingsFault → String
  | .keyLengthKind v => s!"key_length must be an int (got {v.shown})"
  | .keyLengthRange n =>
    Text.sayNumber n fun n => s!"key_length must be in [1, {maxKeyLength}] (got {n})"
  | .badStem v => s!"prefix must be non-empty and digit-free (got {v.shown})"
  | .stemKind v => s!"'{v.kind}' object is not iterable"
  | .overlap stem symbol => s!"prefix {Text.quoted stem} overlaps marker {Text.quoted symbol}"
  | .unknown names =>
    let listed := String.intercalate ", " names
    s!"Unknown EngineConfig field(s): {listed}"
  | .markers fault => fault.message
  | .notNumber name raw => s!"{name} must be an integer (got {Text.quoted raw})"
  | .notSwitch name raw => s!"{name} must be a boolean flag (got {Text.quoted raw})"

namespace Draft

/-- The key length, if it is a whole number in the range. -/
def checkKeyLength : Scalar → Except SettingsFault { n : Nat // 1 ≤ n ∧ n ≤ maxKeyLength }
  | .int n =>
    if h : 1 ≤ n.toNat ∧ n.toNat ≤ maxKeyLength then .ok ⟨n.toNat, h⟩
    else .error (.keyLengthRange n)
  | v => .error (.keyLengthKind v)

/-- The stem, if it is a word without digits. -/
def checkStem : Scalar → Except SettingsFault { s : Text // s ≠ [] ∧ s.any Text.isDigit = false }
  | .text s =>
    if h : s ≠ [] ∧ s.any Text.isDigit = false then .ok ⟨s, h⟩ else .error (.badStem (.text s))
  | v => .error (if v.isOn then .stemKind v else .badStem v)

def check (d : Draft) : Except SettingsFault Settings := do
  let ⟨keyLength, hk⟩ ← checkKeyLength d.keyLength
  let ⟨stem, hs⟩ ← checkStem d.stem
  if ho : overlaps stem d.markers.opening.symbol = false then
    if hc : overlaps stem d.markers.closing.symbol = false then
      return ⟨d.markers, keyLength, stem, d.strict, d.noticeStrays, hk, hs.1, hs.2, ho, hc⟩
    else throw (.overlap stem d.markers.closing.symbol)
  else throw (.overlap stem d.markers.opening.symbol)

end Draft

namespace Settings

def draft (s : Settings) : Draft :=
  ⟨s.markers, .int s.keyLength, .text s.stem, s.strict, s.noticeStrays⟩

/-- The settings that hold when none are given. -/
def standard : Settings where
  markers := Style.jinja.markers
  keyLength := 7
  stem := ['F', 'R', 'A', 'G', 'M', 'E', 'N', 'T']
  strict := .bool true
  noticeStrays := .bool true
  keyLength_mem := by decide
  stem_ne := by decide
  stem_digitFree := by decide +kernel
  opening_apart := by decide
  closing_apart := by decide

def token (s : Settings) (key : Text) : Text := s.stem ++ key

/-- The settings as a message shows them. -/
def shown (s : Settings) : String :=
  s!"EngineConfig(markers={s.markers.shown}, key_length={s.keyLength}, " ++
    s!"prefix={Text.quoted s.stem}, strict_restore={s.strict.shown}, " ++
    s!"warn_stray_closing={s.noticeStrays.shown})"

end Settings

/-! ## Changes -/

/-- New values for some of the settings, and the names that no setting has. -/
structure Changes where
  markers : Option Markers := none
  keyLength : Option Scalar := none
  stem : Option Scalar := none
  strict : Option Scalar := none
  noticeStrays : Option Scalar := none
  unknown : List String := []
deriving DecidableEq, Repr

namespace Changes

/-- The draft with the changes made. -/
def apply (c : Changes) (d : Draft) : Draft where
  markers := c.markers.getD d.markers
  keyLength := c.keyLength.getD d.keyLength
  stem := c.stem.getD d.stem
  strict := c.strict.getD d.strict
  noticeStrays := c.noticeStrays.getD d.noticeStrays

/-- Both changes together; where both give a value, the later one counts. -/
def merge (first later : Changes) : Changes where
  markers := later.markers.or first.markers
  keyLength := later.keyLength.or first.keyLength
  stem := later.stem.or first.stem
  strict := later.strict.or first.strict
  noticeStrays := later.noticeStrays.or first.noticeStrays
  unknown := first.unknown ++ later.unknown.filter fun name => !first.unknown.elem name

end Changes

/-- The settings with changes made; names that no setting has come first among the faults. -/
def Settings.evolve (s : Settings) (c : Changes) : Except SettingsFault Settings :=
  if c.unknown = [] then (c.apply s.draft).check
  else .error (.unknown (c.unknown.mergeSort fun a b => decide (a ≤ b)))

end Standin
