import Standin.Page.Layout
import Standin.Page.Tags

/-!
# Relays

A remark goes to the handler in force. A relay puts handlers in force that print remarks on a
console, one in front of the other.

* `Remark`: something raised at a place of a program, with a category and a content;
* `Console`: where and how things are printed;
* `Handler`, `Handler.deliver`: what becomes of a remark. A printing handler may leave the remarks
  of others to the handler that was in force before it; diagnostics it always prints;
* `Relay`: the handler in force, and those that each uninstalling puts back in force.
-/

namespace Standin

/-! ## Remarks -/

inductive Category
  | general
  | diagnostic
  | stray
  | placeholder
  /-- A category of some other program. -/
  | foreign (name : String)
deriving DecidableEq, Repr

namespace Category

def name : Category → String
  | general => "FragmaskWarning"
  | diagnostic => "DiagnosticWarning"
  | stray => "StrayMarkerWarning"
  | placeholder => "PlaceholderWarning"
  | foreign name => name

def ofName (name : String) : Category :=
  ([general, diagnostic, stray, placeholder].find? fun c => c.name == name).getD (foreign name)

/-- A category of this program. -/
def isOwn : Category → Bool
  | foreign _ => false
  | _ => true

end Category

/-- A line of a program. -/
structure Origin where
  file : String
  line : Int
deriving DecidableEq, Repr

/-- Something raised at a place of a program. -/
structure Remark where
  category : Category
  report : Report
  origin : Origin
deriving DecidableEq, Repr

/-- The notice as a remark raised at a place. -/
def Notice.remark (origin : Origin) (n : Notice) : Remark :=
  let category := match n with
    | .stray .. => Category.stray
    | .tokenDropped _ => Category.placeholder
  ⟨category, n.report, origin⟩

/-- Why a remark cannot be printed. -/
inductive RemarkFault
  /-- A frame cannot be drawn, or the span of a diagnostic lies outside its document. -/
  | frame (fault : FrameFault)
  /-- A closing tag ends nothing. -/
  | tag (stray : Page.StrayTag)
deriving DecidableEq, Repr

/-! ## Consoles -/

/-- Where and how things are printed. -/
structure Console where
  width : Nat := 80
  theme : Theme := {}
  frame : FrameSettings := {}
deriving DecidableEq, Repr

namespace Console

/-- A diagnostic as it is printed. -/
def showDiagnostic (c : Console) (d : Diagnostic) : Except RemarkFault Text :=
  ((d.parts c.theme c.frame).mapError .frame).map (Page.layout c.width)

/-- A line of text as it is printed, tags removed. -/
def showLine (c : Console) (line : String) : Except RemarkFault Text :=
  ((Page.untag (Text.ofString line)).mapError .tag).map fun s =>
    Page.layout c.width [.text (Styled.ofText "" s)]

/-- A remark as it is printed: a diagnostic with its frame, a message with category and origin. -/
def showRemark (c : Console) (r : Remark) : Except RemarkFault Text :=
  match r.report.diagnostic with
  | some d => c.showDiagnostic d
  | none =>
    c.showLine s!"{r.category.name}: {r.report.message} ({r.origin.file}:{r.origin.line})"

/-- A report as it is printed, in the usual theme and frame. -/
def showReport (c : Console) (r : Report) : Except RemarkFault Text :=
  (r.parts.mapError .frame).map (Page.layout c.width)

end Console

/-! ## Handlers -/

/-- What handles remarks. -/
inductive Handler
  /-- Remarks are recorded. -/
  | record
  /-- Remarks are printed on a console; remarks of others may go to the earlier handler. -/
  | print (number : Nat) (console : Console) (ownOnly : Bool) (earlier : Handler)

/-- What became of a remark. -/
inductive Delivery
  | recorded (remark : Remark) (text : String)
  | printed (number : Nat) (text : Text)
deriving DecidableEq, Repr

/-- A remark, given also as one line of text, is handled. -/
def Handler.deliver (r : Remark) (text : String) : Handler → Except RemarkFault Delivery
  | record => .ok (.recorded r text)
  | print number console ownOnly earlier =>
    if ownOnly && r.report.diagnostic.isNone && !r.category.isOwn then earlier.deliver r text
    else (console.showRemark r).map (.printed number)

/-! ## Relays -/

/-- The handler in force, and for each installed handler the one that was in force before. -/
structure Relay where
  current : Handler := .record
  earlier : List Handler := []

namespace Relay

/-- A printing handler is put in force. Handlers are numbered in order. -/
def install (relay : Relay) (console : Console) (ownOnly : Bool) : Relay :=
  ⟨.print relay.earlier.length console ownOnly relay.current, relay.earlier ++ [relay.current]⟩

/-- The handler that was in force before handler `n` is put back in force, even if others have been
installed or uninstalled since. -/
def uninstall (relay : Relay) (n : Nat) : Relay :=
  { relay with current := (relay.earlier[n]?).getD relay.current }

/-- A remark is raised: its text is made first, and then it goes to the handler in force. -/
def raise (relay : Relay) (r : Remark) : Except RemarkFault Delivery := do
  relay.current.deliver r (← r.report.text.mapError fun fault => .frame (.span fault))

end Relay

end Standin
