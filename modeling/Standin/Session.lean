import Standin.Masking
import Standin.Table.Saved

/-!
# Sessions

A session masks and unmasks one document after another. Settings may change on the way; the source
of numbers goes on.

* `Slot`, `Session`: a masked text with its table, and all that a session remembers;
* `Step`, `Answer`: what can be done, and what comes of it;
* `Session.step`, `Session.run`: one step, and one after another. A step that fails changes neither
  settings nor slots.
-/

namespace Standin

/-- A masked text and its table. -/
structure Slot where
  text : Buffer
  table : Table

structure Session where
  settings : Settings
  draws : Draws
  slots : List Slot := []

/-- What can be done in a session. Slots are counted from zero. -/
inductive Step
  /-- Mask a document into a new slot. -/
  | mask (supply : Supply) (file : Option Path)
  /-- Change the text of a slot. -/
  | edit (slot : Nat) (change : Text → Text)
  /-- Unmask the text of a slot with the table of a slot. -/
  | unmask (slot table : Nat)
  /-- Save the table of a slot and read it back. -/
  | persist (slot : Nat)
  /-- Mask, transform and unmask a document. -/
  | roundTrip (supply : Supply) (transform : Text → Supply)
  /-- Change settings. -/
  | evolve (changes : Changes)

inductive Answer
  | masked (masked : Masked Buffer)
  | text (text : Buffer)
  | saved (saved : List Char)
  | settings (settings : Settings)

/-- Why a step fails. -/
inductive StepFault
  | problem (problem : Problem)
  | settings (fault : SettingsFault)
  | saved (fault : SavedFault)
  /-- There is no such slot. -/
  | noSlot (slot : Nat)

namespace Session

/-- The session with another slot in a place. -/
def setSlot (s : Session) (i : Nat) (slot : Slot) : Session :=
  { s with slots := s.slots.set i slot }

/-- The changed text of a buffer in the form of the buffer. -/
def editBuffer (change : Text → Text) (b : Buffer) : Except Problem Buffer := do
  let (text, form) ← b.read.mapError .unsupported
  form.seal (change text)

/-- An outcome as an answer. -/
def answer {α : Type} (o : Outcome α) (f : α → Answer) : List Notice × Except StepFault Answer :=
  (o.notices, match o.result with
    | .ok a => .ok (f a)
    | .error p => .error (.problem p))

def step (s : Session) : Step → Session × List Notice × Except StepFault Answer
  | .mask supply file =>
    match mask s.settings supply file s.draws with
    | (draws, outcome) =>
      let s := { s with draws }
      let s := match outcome.result with
        | .ok m => { s with slots := s.slots ++ [⟨m.text, m.table⟩] }
        | .error _ => s
      (s, answer outcome .masked)
  | .edit i change =>
    match s.slots[i]? with
    | none => (s, [], .error (.noSlot i))
    | some slot =>
      match editBuffer change slot.text with
      | .error problem => (s, [], .error (.problem problem))
      | .ok text => (s.setSlot i ⟨text, slot.table⟩, [], .ok (.text text))
  | .unmask i j =>
    match s.slots[i]?, s.slots[j]? with
    | none, _ => (s, [], .error (.noSlot i))
    | _, none => (s, [], .error (.noSlot j))
    | some slot, some other =>
      (s, answer (unmask s.settings other.table (.buffer slot.text)) .text)
  | .persist i =>
    match s.slots[i]? with
    | none => (s, [], .error (.noSlot i))
    | some slot =>
      match slot.table.write with
      | .error fault => (s, [], .error (.problem (.lone fault)))
      | .ok saved =>
        match Table.read (Utf8.encode saved) with
        | .error fault => (s, [], .error (.saved fault))
        | .ok table => (s.setSlot i ⟨slot.text, table⟩, [], .ok (.saved saved))
  | .roundTrip supply transform =>
    match roundTrip s.settings transform supply s.draws with
    | (draws, outcome) => ({ s with draws }, answer outcome .text)
  | .evolve changes =>
    match s.settings.evolve changes with
    | .error fault => (s, [], .error (.settings fault))
    | .ok settings => ({ s with settings }, [], .ok (.settings settings))

def run (s : Session) (steps : List Step) : Session := steps.foldl (fun s step => (s.step step).1) s

end Session

end Standin
