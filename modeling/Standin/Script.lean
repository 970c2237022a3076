import Standin.Relay
import Standin.Settings.Environment

/-!
# Scripts

A script masks or unmasks a text with remarks and problems printed on a console.

* `Wishes`: what a script asks for; what it leaves out comes from the environment;
* `Wishes.colorMode`, `Wishes.bridged`: how output is coloured, and whether remarks are printed;
* `Outlet`: the console of a script;
* `Console.run`: an outcome with all that is printed on the way;
* `Finish`: how a script ends.
-/

namespace Standin

/-! ## Wishes -/

/-- What a script asks for. -/
structure Wishes where
  color : Option Text := none
  pretty : Scalar := .null
  ownOnly : Bool := true

/-- The streams that are terminals. -/
structure Terminals where
  out : Bool := false
  err : Bool := false

namespace Wishes

/-- The colour wish in lower case. An empty one counts as left out, here and in the environment. -/
def colorMode (w : Wishes) (env : Environment) : Text :=
  Text.lower (((w.color.filter (· ≠ [])).or (env.get? "COLOR")).getD (Text.ofString "auto"))

/-- The wish for frames in lower case. -/
def prettyMode (w : Wishes) (env : Environment) : Text :=
  Text.lower (match w.pretty with
    | .null => (env "FRAGMASK_PRETTY_WARNINGS").getD (Text.ofString "auto")
    | .text s => s
    | v => Text.ofString v.shown)

/-- Remarks are printed in frames: on demand, or by default if some stream is a terminal. -/
def bridged (w : Wishes) (env : Environment) (t : Terminals) : Bool :=
  let mode := w.prettyMode env
  mode == Text.ofString "true" || mode == Text.ofString "1" ||
    (mode == Text.ofString "auto" && (t.out || t.err))

end Wishes

/-! ## Outlets -/

/-- The console of a script. -/
structure Outlet where
  console : Console
  /-- The script brought the console along. -/
  given : Bool
  terminal : Bool
  colourless : Bool

namespace Outlet

/-- A plain console that the script brought along. -/
def ofConsole (c : Console) : Outlet := ⟨c, true, false, false⟩

/-- The standard error stream. -/
def standard (color : Text) (t : Terminals) : Outlet :=
  ⟨{}, false, color == Text.ofString "always" || t.err, color == Text.ofString "never"⟩

end Outlet

/-! ## Running -/

/-- A problem that is printed; a missing key and a lone surrogate are not. -/
def Problem.isPrinted : Problem → Bool
  | noKey _ => false
  | lone _ => false
  | _ => true

/-- What came of a script. -/
structure ScriptRun (α : Type) where
  /-- All that was printed. -/
  printed : Text
  /-- The remarks that were not printed. -/
  recorded : List (Remark × String)
  result : Except Problem α

/-- The printed texts and the recorded remarks of deliveries. -/
def Delivery.sort (ds : List Delivery) : Text × List (Remark × String) :=
  (ds.flatMap fun
      | printed _ s => s
      | recorded .. => [],
    ds.filterMap fun
      | recorded r s => some (r, s)
      | printed .. => none)

/-- The notices of an outcome go through a relay, and then a problem is printed on the console,
if it is to be shown. -/
def Console.run {α : Type} (c : Console) (relay : Relay) (shows : Bool) (origin : Origin)
    (o : Outcome α) : Except RemarkFault (ScriptRun α) := do
  let deliveries ← o.notices.mapM fun n => relay.raise (n.remark origin)
  let (printed, recorded) := Delivery.sort deliveries
  let last ← match o.result with
    | .ok _ => pure []
    | .error p => if shows && p.isPrinted then c.showReport p.report else pure []
  return ⟨printed ++ last, recorded, o.result⟩

/-- The relay of a script: a handler that prints, or none. -/
def Relay.ofConsole (c : Console) (bridged ownOnly : Bool) : Relay :=
  if bridged then ({} : Relay).install c ownOnly else {}

/-- How a script ends. -/
inductive Finish (α : Type)
  | value (a : α)
  | problem (p : Problem)
  /-- The process exits with a status. -/
  | exit (status : Nat)

/-- A problem that is printed may turn into exit status 2. -/
def Finish.ofResult {α : Type} (exits : Bool) : Except Problem α → Finish α
  | .ok a => value a
  | .error p => if exits && p.isPrinted then exit 2 else problem p

end Standin
