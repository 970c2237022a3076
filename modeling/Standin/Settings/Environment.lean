import Standin.Settings.Basic
import Standin.Text.Lower

/-!
# Settings from the environment

* `Environment`: the variables that are set;
* `Settings.ofEnvironment`: the settings that the variables spell. An empty variable counts as one
  that is not set; single markers go before a style, and a style before the standard pair.
-/

namespace Standin

/-- The values of the variables that are set. -/
abbrev Environment := String → Option Text

namespace Environment

/-- The value of a setting's variable, unless it is empty. -/
def get? (env : Environment) (name : String) : Option Text :=
  (env s!"FRAGMASK_{name}").filter (· ≠ [])

/-- The switch that a text spells. -/
def switch? (raw : Text) : Option Bool :=
  let word := Text.lower (Text.trim raw)
  if word ∈ ["1", "true", "yes", "on"].map Text.ofString then some true
  else if word ∈ ["0", "false", "no", "off"].map Text.ofString then some false
  else none

/-- The pair of markers that the variables give. -/
def markers (env : Environment) : Except MarkerFault Markers := do
  let pair ← match env.get? "STYLE" with
    | some name => (Style.ofName (Text.lower name)).map Style.markers
    | none => .ok Style.jinja.markers
  match env.get? "OPEN", env.get? "CLOSE" with
  | none, none => .ok pair
  | opening, closing =>
    Markers.ofTexts (opening.getD pair.opening.symbol) (closing.getD pair.closing.symbol)

/-- The key length that the variables give. -/
def keyLength (env : Environment) : Except SettingsFault (Option Scalar) :=
  match env.get? "KEY_LENGTH" with
  | none => .ok none
  | some raw =>
    match Text.readInt? raw with
    | some n => .ok (some (.int n))
    | none => .error (.notNumber "FRAGMASK_KEY_LENGTH" raw)

/-- The switch for strict unmasking that the variables give. -/
def strict (env : Environment) : Except SettingsFault (Option Scalar) :=
  match env.get? "STRICT_RESTORE" with
  | none => .ok none
  | some raw =>
    match switch? raw with
    | some b => .ok (some (.bool b))
    | none => .error (.notSwitch "FRAGMASK_STRICT_RESTORE" raw)

end Environment

/-- The settings that the variables spell. -/
def Settings.ofEnvironment (env : Environment) : Except SettingsFault Settings := do
  let markers ← env.markers.mapError .markers
  let keyLength ← env.keyLength
  let stem := (env.get? "PREFIX").map Scalar.text
  let strict ← env.strict
  let changes : Changes := { markers, keyLength, stem, strict }
  (changes.apply {}).check

end Standin
