import Standin.Proofs.RoundTrip
import Standin.Proofs.Saved
import Standin.Session

/-!
# What a session keeps

* `Session.Does`: all that a step can do, one case for each; `Session.does_step`;
* `Session.unchanged_of_error`: a step that fails leaves settings and slots as they are;
* `Session.getElem?_step`, `Session.getElem?_run`: only an edit changes a slot, as a saved table is
  read back;
* `Slot.Holds`: a document can be had back from the slot;
* `mask_of_early`, `roundTrip_of_early`: a document that cannot be read or parted costs no number;
* **`Session.run_restores`**: all of this in every session that can come about.
-/

namespace Standin

variable {s : Session} {step : Step} {i : Nat} {slot : Slot}

/-! ## Steps -/

/-- The step changes the text of a slot. -/
def Step.edits (i : Nat) : Step → Prop
  | .edit j _ => j = i
  | _ => False

namespace Session

/-- All that a step can do: the session that it leaves, and its answer. -/
inductive Does (s : Session) : Step → Session → Except StepFault Answer → Prop
  | masked {supply : Supply} {file : Option Path} {m : Masked Buffer} (draws : Draws) :
      (mask s.settings supply file s.draws).2.result = .ok m →
      Does s (.mask supply file)
        { s with draws, slots := s.slots ++ [⟨m.text, m.table⟩] } (.ok (.masked m))
  | edited {i : Nat} {change : Text → Text} {slot : Slot} {text : Buffer} :
      s.slots[i]? = some slot → editBuffer change slot.text = .ok text →
      Does s (.edit i change) (s.setSlot i ⟨text, slot.table⟩) (.ok (.text text))
  | unmasked {i j : Nat} {slot other : Slot} {b : Buffer} :
      s.slots[i]? = some slot → s.slots[j]? = some other →
      (unmask s.settings other.table (.buffer slot.text)).result = .ok b →
      Does s (.unmask i j) s (.ok (.text b))
  | persisted {i : Nat} {slot : Slot} {saved : List Char} {table : Table} :
      s.slots[i]? = some slot → slot.table.write = .ok saved →
      Table.read (Utf8.encode saved) = .ok table →
      Does s (.persist i) (s.setSlot i ⟨slot.text, table⟩) (.ok (.saved saved))
  | turned {supply : Supply} {transform : Text → Supply} {b : Buffer} (draws : Draws) :
      (roundTrip s.settings transform supply s.draws).2.result = .ok b →
      Does s (.roundTrip supply transform) { s with draws } (.ok (.text b))
  | evolved {changes : Changes} {settings : Settings} : s.settings.evolve changes = .ok settings →
      Does s (.evolve changes) { s with settings } (.ok (.settings settings))
  | failed {step : Step} (draws : Draws) (fault : StepFault) :
      Does s step { s with draws } (.error fault)

theorem does_step (s : Session) (step : Step) :
    Does s step (s.step step).1 (s.step step).2.2 := by
  cases step with
  | mask supply file =>
    cases hr : (mask s.settings supply file s.draws).2.result with
    | ok m =>
      simp only [Session.step, answer, hr]
      exact .masked _ hr
    | error problem =>
      simp only [Session.step, answer, hr]
      exact .failed _ _
  | edit i change =>
    cases hs : s.slots[i]? with
    | none =>
      simp only [Session.step, hs]
      exact .failed s.draws _
    | some slot =>
      cases ht : editBuffer change slot.text with
      | ok text =>
        simp only [Session.step, hs, ht]
        exact .edited hs ht
      | error fault =>
        simp only [Session.step, hs, ht]
        exact .failed s.draws _
  | unmask i j =>
    cases hi : s.slots[i]? with
    | none =>
      simp only [Session.step, hi]
      exact .failed s.draws _
    | some slot =>
      cases hj : s.slots[j]? with
      | none =>
        simp only [Session.step, hi, hj]
        exact .failed s.draws _
      | some other =>
        cases hr : (unmask s.settings other.table (.buffer slot.text)).result with
        | ok b =>
          simp only [Session.step, answer, hi, hj, hr]
          exact .unmasked hi hj hr
        | error problem =>
          simp only [Session.step, answer, hi, hj, hr]
          exact .failed s.draws _
  | persist i =>
    cases hs : s.slots[i]? with
    | none =>
      simp only [Session.step, hs]
      exact .failed s.draws _
    | some slot =>
      cases hw : slot.table.write with
      | error fault =>
        simp only [Session.step, hs, hw]
        exact .failed s.draws _
      | ok saved =>
        cases ht : Table.read (Utf8.encode saved) with
        | ok table =>
          simp only [Session.step, hs, hw, ht]
          exact .persisted hs hw ht
        | error fault =>
          simp only [Session.step, hs, hw, ht]
          exact .failed s.draws _
  | roundTrip supply transform =>
    cases hr : (roundTrip s.settings transform supply s.draws).2.result with
    | ok b =>
      simp only [Session.step, answer, hr]
      exact .turned _ hr
    | error problem =>
      simp only [Session.step, answer, hr]
      exact .failed _ _
  | evolve changes =>
    cases hs : s.settings.evolve changes with
    | ok settings =>
      simp only [Session.step, hs]
      exact .evolved hs
    | error fault =>
      simp only [Session.step, hs]
      exact .failed s.draws _

/-- **A step that fails leaves settings and slots as they are.** -/
theorem unchanged_of_error {fault : StepFault} (h : (s.step step).2.2 = .error fault) :
    (s.step step).1.settings = s.settings ∧ (s.step step).1.slots = s.slots := by
  have hdoes := does_step s step
  rw [h] at hdoes
  generalize (s.step step).1 = s' at hdoes ⊢
  cases hdoes with
  | failed draws fault => exact ⟨rfl, rfl⟩

/-! ## Slots -/

theorem setSlot_of_getElem? (h : s.slots[i]? = some slot) : s.setSlot i slot = s := by
  obtain ⟨hi, rfl⟩ := List.getElem?_eq_some_iff.mp h
  rw [setSlot, List.set_getElem_self]

/-- **A step that does not edit a slot leaves it as it is**, if its table can be read back. -/
theorem getElem?_step (h : s.slots[i]? = some slot) (hschema : slot.table.schema = tableSchema)
    (hstep : ¬ step.edits i) : (s.step step).1.slots[i]? = some slot := by
  have hdoes := does_step s step
  generalize (s.step step).1 = s' at hdoes ⊢
  generalize (s.step step).2.2 = answer at hdoes
  cases hdoes with
  | masked draws hm =>
    have hi : i < s.slots.length := (List.getElem?_eq_some_iff.mp h).1
    rw [List.getElem?_append_left hi, h]
  | @edited j change slot' text hj ht =>
    have hne : j ≠ i := hstep
    exact (List.getElem?_set_ne hne).trans h
  | unmasked => exact h
  | @persisted j slot' saved table hj hsaved hread =>
    by_cases hji : j = i
    · subst hji
      obtain rfl : slot = slot' := Option.some.inj (h.symm.trans hj)
      -- the table that is read back is the one that was written
      obtain rfl : slot.table = table :=
        Except.ok.inj ((Table.read_write hsaved hschema).symm.trans hread)
      rw [setSlot_of_getElem? h]
      exact h
    · exact (List.getElem?_set_ne hji).trans h
  | turned => exact h
  | evolved => exact h
  | failed => exact h

theorem getElem?_run {steps : List Step} (h : s.slots[i]? = some slot)
    (hschema : slot.table.schema = tableSchema) (hsteps : ∀ step ∈ steps, ¬ step.edits i) :
    (s.run steps).slots[i]? = some slot := by
  induction steps generalizing s with
  | nil => exact h
  | cons step steps ih =>
    have hstep := getElem?_step h hschema (hsteps step List.mem_cons_self)
    exact ih hstep fun a ha => hsteps a (List.mem_cons_of_mem step ha)

end Session

/-- A document can be had back from the slot, under any settings. -/
structure Slot.Holds (slot : Slot) (b : Buffer) : Prop where
  schema : slot.table.schema = tableSchema
  unmask (settings : Settings) : unmask settings slot.table (.buffer slot.text) = ⟨[], .ok b⟩

theorem holds_of_mask {settings : Settings} {supply : Supply} {file : Option Path} {draws : Draws}
    {m : Masked Buffer} (h : (mask settings supply file draws).2.result = .ok m) :
    ∃ b, supply = .buffer b ∧ Slot.Holds ⟨m.text, m.table⟩ b := by
  obtain ⟨text, form, y, -, hseal⟩ := exists_layout_of_mask h
  have hschema : m.table.schema = tableSchema :=
    congrArg Table.schema (Masked.seal_eq_ok_iff.mp hseal).2
  obtain ⟨b, hb⟩ := exists_buffer_of_mask h
  exact ⟨b, hb.1, hschema, hb.2⟩

namespace Session

/-- A slot from which a document can be had back gives it back, and saving its table changes
nothing. -/
theorem step_of_holds {b : Buffer} (h : s.slots[i]? = some slot) (hb : slot.Holds b) :
    s.step (.persist i) = (s, [], match slot.table.write with
      | .ok saved => .ok (.saved saved)
      | .error fault => .error (.problem (.lone fault))) ∧
    s.step (.unmask i i) = (s, [], .ok (.text b)) := by
  constructor
  · cases hw : slot.table.write with
    | error fault => simp only [Session.step, h, hw]
    | ok saved =>
      simp only [Session.step, h, hw, Table.read_write hw hb.schema, setSlot_of_getElem? h]
  · simp only [Session.step, h, hb.unmask, answer]

theorem answer_mask_eq_ok_iff {supply : Supply} {file : Option Path} {m : Masked Buffer} :
    (s.step (.mask supply file)).2.2 = .ok (.masked m) ↔
      (mask s.settings supply file s.draws).2.result = .ok m := by
  simp only [Session.step, answer]
  cases (mask s.settings supply file s.draws).2.result with
  | ok m' => simp
  | error problem => simp

theorem answer_mask_eq_error_iff {supply : Supply} {file : Option Path} {problem : Problem} :
    (s.step (.mask supply file)).2.2 = .error (.problem problem) ↔
      (mask s.settings supply file s.draws).2.result = .error problem := by
  simp only [Session.step, answer]
  cases (mask s.settings supply file s.draws).2.result with
  | ok m => simp
  | error problem' => simp

theorem slots_step_mask {supply : Supply} {file : Option Path} {m : Masked Buffer}
    (h : (mask s.settings supply file s.draws).2.result = .ok m) :
    (s.step (.mask supply file)).1.slots = s.slots ++ [⟨m.text, m.table⟩] := by
  simp only [Session.step, h]

theorem run_cons (s : Session) (step : Step) (steps : List Step) :
    s.run (step :: steps) = (s.step step).1.run steps := rfl

theorem run_append (s : Session) (steps steps' : List Step) :
    s.run (steps ++ steps') = (s.run steps).run steps' :=
  List.foldl_append

end Session

/-! ## Problems before keys are drawn -/

/-- The problem is found before keys are drawn. -/
def Problem.IsEarly : Problem → Prop
  | .unsupported _ => True
  | .unclosed _ _ _ => True
  | .nested _ _ _ _ => True
  | _ => False

section Early

variable {settings : Settings} {d : Document} {supply : Supply} {draws : Draws} {problem : Problem}

theorem maskDocument_of_early (h : (maskDocument settings d draws).2.result = .error problem)
    (he : problem.IsEarly) : (maskDocument settings d draws).1 = draws := by
  unfold maskDocument at h ⊢
  simp only at h ⊢
  split at h
  · rfl
  · split at h
    · cases h
      cases he
    · cases h

theorem maskDocument_of_mask_error {text : Text} {form : Form} {file : Option Path}
    (hholds : supply.Holds text form)
    (h : (mask settings supply file draws).2.result = .error problem) (he : problem.IsEarly) :
    (maskDocument settings ⟨text, file⟩ draws).2.result = .error problem := by
  rw [result_mask_of_holds hholds] at h
  cases hm : (maskDocument settings ⟨text, file⟩ draws).2.result with
  | error problem' =>
    rw [hm] at h
    cases h
    rfl
  | ok m =>
    -- a masked text that cannot be handed back is a problem that comes late
    rw [hm] at h
    change m.seal form = .error problem at h
    rcases m.seal_cases form with ⟨m', hseal⟩ | ⟨fault, hseal⟩
    · rw [hseal] at h
      cases h
    · rw [hseal] at h
      cases h
      cases he

theorem mask_of_early {file : Option Path}
    (h : (mask settings supply file draws).2.result = .error problem) (he : problem.IsEarly) :
    (mask settings supply file draws).1 = draws := by
  cases hread : supply.read with
  | error fault => rw [mask_of_fault hread]
  | ok p =>
    have hholds := Supply.read_eq_ok_iff.mp hread
    rw [mask_of_holds hholds]
    exact maskDocument_of_early (maskDocument_of_mask_error hholds h he) he

theorem roundTrip_of_early (transform : Text → Supply)
    (h : (mask settings supply none draws).2.result = .error problem) (he : problem.IsEarly) :
    (roundTrip settings transform supply draws).1 = draws ∧
    (roundTrip settings transform supply draws).2.result = .error problem := by
  have hdraws := mask_of_early h he
  -- a round trip masks as if no file were told, and ends where masking fails
  rw [roundTrip]
  split
  · next heq =>
    rw [heq] at h hdraws
    cases h
    exact ⟨hdraws, rfl⟩
  · next heq =>
    rw [heq] at h
    cases h

end Early

/-! ## Runs -/

namespace Session

/-- **Whatever is done in a session, each document that was masked can be had back** from its text
and its table, as long as the text is not edited: settings may change, keys may come again in other
tables, and the table may be saved and read back, if it can be. No step that fails changes settings
or slots, and no number is drawn when a document cannot be read or is not parted into fragments. -/
theorem run_restores (s₀ : Session) (before : List Step) :
    let s₁ := s₀.run before
    (∀ (supply : Supply) (file : Option Path) (m : Masked Buffer) (after : List Step),
      (s₁.step (.mask supply file)).2.2 = .ok (.masked m) →
      let i := s₁.slots.length
      let s := s₀.run (before ++ .mask supply file :: after)
      (∀ step ∈ after, ¬ step.edits i) →
        s.slots[i]? = some ⟨m.text, m.table⟩ ∧
        s.step (.persist i) = (s, [], match m.table.write with
          | .ok saved => .ok (.saved saved)
          | .error fault => .error (.problem (.lone fault))) ∧
        ∃ b, supply = .buffer b ∧ s.step (.unmask i i) = (s, [], .ok (.text b))) ∧
    (∀ (step : Step) (fault : StepFault), (s₁.step step).2.2 = .error fault →
      (s₁.step step).1.settings = s₁.settings ∧ (s₁.step step).1.slots = s₁.slots) ∧
    ∀ (supply : Supply) (file : Option Path) (problem : Problem),
      (s₁.step (.mask supply file)).2.2 = .error (.problem problem) → problem.IsEarly →
        (s₁.step (.mask supply file)).1 = s₁ ∧
        (file = none → ∀ transform, (s₁.step (.roundTrip supply transform)).1 = s₁ ∧
          (s₁.step (.roundTrip supply transform)).2.2 = .error (.problem problem)) := by
  intro s₁
  refine ⟨?_, fun step fault => unchanged_of_error, ?_⟩
  · intro supply file m after hmask i s hafter
    have hm := answer_mask_eq_ok_iff.mp hmask
    obtain ⟨b, hsupply, hb⟩ := holds_of_mask hm
    have hnew : (s₁.step (.mask supply file)).1.slots[i]? = some ⟨m.text, m.table⟩ := by
      rw [slots_step_mask hm, List.getElem?_append_right (Nat.le_refl i), Nat.sub_self]
      rfl
    -- the mask step makes the slot, and the steps behind it keep it
    have hs : s = (s₁.step (.mask supply file)).1.run after := by
      rw [← run_cons, ← run_append]
    have hslot : s.slots[i]? = some ⟨m.text, m.table⟩ := by
      rw [hs]
      exact getElem?_run hnew hb.schema hafter
    obtain ⟨hpersist, hunmask⟩ := step_of_holds hslot hb
    exact ⟨hslot, hpersist, b, hsupply, hunmask⟩
  · intro supply file problem hstep he
    have hm := answer_mask_eq_error_iff.mp hstep
    constructor
    · simp only [Session.step, hm, mask_of_early hm he]
    · rintro rfl transform
      obtain ⟨hdraws, hr⟩ := roundTrip_of_early transform hm he
      simp only [Session.step, answer, hr, hdraws, and_self]

/-- A document is had back after its table was saved, the stem changed, the same document masked
again and a slot asked for that is not there. -/
theorem run_restores_evolved :
    let settings := { Settings.standard with keyLength := 1, keyLength_mem := by decide }
    let s₀ : Session := { settings, draws := ⟨id, 0⟩ }
    let b : Buffer := .text ['a', '\x7b', '%', 'b', '%', '\x7d']
    let after : List Step :=
      [.persist 0, .evolve { stem := some (.text ['K']) }, .mask (.buffer b) none, .unmask 7 7]
    ∃ m, (s₀.step (.mask (.buffer b) none)).2.2 = .ok (.masked m) ∧
      (∀ step ∈ after, ¬ step.edits 0) ∧
      ((s₀.run (.mask (.buffer b) none :: after)).step (.unmask 0 0)).2.2 = .ok (.text b) := by
  intro settings s₀ b after
  have hread : Reading.ofText settings.markers ['a', '\x7b', '%', 'b', '%', '\x7d'] =
      ⟨[⟨['a'], ['b']⟩], .complete []⟩ := by
    cbv
  have hkeys : settings.keys.nextMany ['a', '\x7b', '%', 'b', '%', '\x7d'] 1 [] ⟨id, 0⟩ =
      (⟨id, 1⟩, .ok [['0']]) := by
    cbv
  have hm : (mask settings (.buffer b) none ⟨id, 0⟩).2.result = .ok _ :=
    mask_eq_ok (.text _) (maskDocument_eq_ok hread hkeys).2 rfl
  have hstep : (s₀.step (.mask (.buffer b) none)).2.2 = .ok (.masked _) :=
    answer_mask_eq_ok_iff.mpr hm
  have hafter : ∀ step ∈ after, ¬ step.edits 0 := by
    simp [after, Step.edits]
  obtain ⟨-, -, b', hb, hunmask⟩ := (run_restores s₀ []).1 _ none _ after hstep hafter
  cases hb
  exact ⟨_, hstep, hafter, congrArg (fun r => r.2.2) hunmask⟩

end Session

end Standin
