import Standin.Proofs.Substitution

/-!
# Strict and lenient unmasking

Both kinds of unmasking go through the same texts up to the first token that is missing. There the
strict kind stops, and the lenient kind goes on as if the entry were not in the table.

* `tokensOf`: the tokens of entries; `Table.without`: a table without the entries of given tokens;
* `Fares`: which entries are put in and which are dropped, and the text at the end; `exists_fares`:
  every list of entries fares in some way in every text;
* `Fares.unmaskText_eq`: what either kind of unmasking makes of entries that fare so;
* `Fares.kept_alone`, `Fares.filter_eq`: the entries that are put in are those that are left when
  the tokens of dropped ones are, and they fare the same without the others;
* `unmaskOutcome_eq_ok_iff`, `unmaskOutcome_eq_error_iff`: how strict unmasking ends;
* **`strict_agrees_with_lenient`**: all of this for tables.
-/

namespace Standin

/-- The tokens of entries. -/
def tokensOf (stem : Text) (entries : List (Text × Text)) : List Text :=
  entries.map fun e => stem ++ e.1

/-- The entries that pass a test. -/
def Entries.filter (keep : Text × Text → Bool) (e : Entries) : Entries where
  toList := e.toList.filter keep
  nodup := e.nodup.sublist (List.filter_sublist.map Prod.fst)

/-- The table without the entries that have one of the tokens. -/
def Table.without (t : Table) (tokens : List Text) : Table :=
  { t with entries := t.entries.filter fun e => t.token e.1 ∉ tokens }

/-! ## One run through the entries -/

/-- How entries fare, one after another, in a text that changes on the way: an entry is put in where
its token first occurs, or it is dropped. -/
inductive Fares (stem : Text) : (t : Text) → (entries kept dropped : List (Text × Text)) →
    (result : Text) → Prop
  | done {t : Text} : Fares stem t [] [] [] t
  | putIn {t a b result key fragment : Text} {entries kept dropped : List (Text × Text)} :
      Text.cut (stem ++ key) t = some (a, b) →
      Fares stem (a ++ fragment ++ b) entries kept dropped result →
      Fares stem t ((key, fragment) :: entries) ((key, fragment) :: kept) dropped result
  | drop {t result key fragment : Text} {entries kept dropped : List (Text × Text)} :
      Text.cut (stem ++ key) t = none → Fares stem t entries kept dropped result →
      Fares stem t ((key, fragment) :: entries) kept ((key, fragment) :: dropped) result

variable {stem t result : Text} {entries kept dropped : List (Text × Text)}

theorem exists_fares (stem : Text) (entries : List (Text × Text)) (t : Text) :
    ∃ kept dropped result, Fares stem t entries kept dropped result := by
  induction entries generalizing t with
  | nil => exact ⟨[], [], t, .done⟩
  | cons e entries ih =>
    obtain ⟨key, fragment⟩ := e
    cases h : Text.cut (stem ++ key) t with
    | some parts =>
      obtain ⟨a, b⟩ := parts
      obtain ⟨kept, dropped, result, hrest⟩ := ih (a ++ fragment ++ b)
      exact ⟨_, _, _, .putIn h hrest⟩
    | none =>
      obtain ⟨kept, dropped, result, hrest⟩ := ih t
      exact ⟨_, _, _, .drop h hrest⟩

namespace Fares

/-- Strict unmasking comes to the first entry that is dropped, lenient unmasking to the end. -/
theorem unmaskText_eq (h : Fares stem t entries kept dropped result) (strict : Bool) :
    unmaskText strict stem entries t = unmaskOutcome strict stem dropped result := by
  induction h with
  | done => cases strict <;> rfl
  | putIn hcut _ ih => simp only [unmaskText, hcut, ih]
  | drop hcut _ ih =>
    cases strict with
    | true => simp only [unmaskText, hcut, if_true, unmaskOutcome]
    | false =>
      simp only [unmaskText, hcut, ih]
      rfl

theorem kept_alone (h : Fares stem t entries kept dropped result) :
    Fares stem t kept kept [] result := by
  induction h with
  | done => exact .done
  | putIn hcut _ ih => exact .putIn hcut ih
  | drop _ _ ih => exact ih

theorem sublist (h : Fares stem t entries kept dropped result) : dropped.Sublist entries := by
  induction h with
  | done => exact .slnil
  | putIn _ _ ih => exact ih.cons _
  | drop _ _ ih => exact ih.cons_cons _

theorem filter_eq (h : Fares stem t entries kept dropped result)
    (hnodup : (tokensOf stem entries).Nodup) :
    entries.filter (fun e => stem ++ e.1 ∉ tokensOf stem dropped) = kept := by
  induction h with
  | done => rfl
  | @putIn _ _ _ _ key fragment entries _ dropped _ hrest ih =>
    obtain ⟨hnew, htail⟩ := List.nodup_cons.mp hnodup
    have hkeep : stem ++ key ∉ tokensOf stem dropped := fun hmem =>
      hnew ((hrest.sublist.map _).subset hmem)
    rw [List.filter_cons_of_pos (by simpa using hkeep), ih htail]
  | @drop _ _ key fragment entries _ dropped _ _ ih =>
    obtain ⟨hnew, htail⟩ := List.nodup_cons.mp hnodup
    have hsame : ∀ e ∈ entries,
        decide (stem ++ e.1 ∉ tokensOf stem ((key, fragment) :: dropped)) =
          decide (stem ++ e.1 ∉ tokensOf stem dropped) := by
      intro e he
      have hne : stem ++ e.1 ≠ stem ++ key := fun heq =>
        hnew (List.mem_map.mpr ⟨e, he, heq⟩)
      refine decide_eq_decide.mpr (not_congr ?_)
      rw [tokensOf, List.map_cons, List.mem_cons, or_iff_right hne, tokensOf]
    rw [List.filter_cons_of_neg (by simp [tokensOf]), List.filter_congr hsame, ih htail]

end Fares

/-! ## How unmasking ends -/

section Endings

variable {form : Form} {r : Text} {b : Buffer} {problem : Problem}

theorem unmaskOutcome_eq_ok_iff :
    ((unmaskOutcome true stem dropped r).andThen form.seal).result = .ok b ↔
      dropped = [] ∧ form.seal r = .ok b := by
  cases dropped with
  | nil => simp [unmaskOutcome, Outcome.andThen, Except.bind]
  | cons e dropped => simp [unmaskOutcome, Outcome.andThen, Except.bind]

theorem unmaskOutcome_eq_error_iff :
    ((unmaskOutcome true stem dropped r).andThen form.seal).result = .error problem ↔
      (∃ e, dropped.head? = some e ∧ problem = .tokenMissing e.1 (stem ++ e.1)) ∨
        dropped = [] ∧ form.seal r = .error problem := by
  cases dropped with
  | nil => simp [unmaskOutcome, Outcome.andThen, Except.bind]
  | cons e dropped => simp [unmaskOutcome, Outcome.andThen, Except.bind, eq_comm]

end Endings

/-! ## Tables -/

theorem Table.tokensOf_entries (t : Table) : tokensOf t.stem t.entries.toList = t.tokens := by
  rw [tokens, Entries.keys, keysOf, List.map_map]
  rfl

theorem Table.nodup_tokens (t : Table) : t.tokens.Nodup :=
  t.entries.nodup.map fun _ _ h => List.append_cancel_left h

/-- **Strict and lenient unmasking agree**, whatever the table is. Lenient unmasking goes on to the
end and notices the tokens that it drops, in the order of the table; what it makes of a text is a
text. Strict unmasking makes the same just when there is none; else the first one is the problem. Of
the table without these tokens it makes what lenient unmasking makes of the whole table. -/
theorem strict_agrees_with_lenient {s s' : Settings} {supply : Supply} {text : Text} {form : Form}
    (hs : s.strict.isOn = true) (hs' : s'.strict.isOn = false) (table : Table)
    (hsupply : supply.Holds text form) :
    let strict (table : Table) := unmask s table supply
    let lenient := unmask s' table supply
    ∃ (restored : Text) (dropped : List Text),
      lenient = ⟨dropped.map Notice.tokenDropped, form.seal restored⟩ ∧
      (form = .text → form.seal restored = .ok (.text restored)) ∧
      dropped.Sublist table.tokens ∧ dropped.Nodup ∧
      (∀ b, (strict table).result = .ok b ↔ lenient.notices = [] ∧ lenient.result = .ok b) ∧
      (∀ problem, (strict table).result = .error problem →
        (∃ key ∈ table.entries.keys, problem = .tokenMissing key (table.token key) ∧
          lenient.notices.head? = some (.tokenDropped (table.token key))) ∨
        lenient.notices = [] ∧ lenient.result = .error problem) ∧
      strict (table.without dropped) = ⟨[], lenient.result⟩ := by
  intro strict lenient
  obtain ⟨kept, dropped, result, h⟩ := exists_fares table.stem table.entries.toList text
  have hnodup : (tokensOf table.stem table.entries.toList).Nodup :=
    table.tokensOf_entries ▸ table.nodup_tokens
  have hstrict : strict table =
      (unmaskOutcome true table.stem dropped result).andThen form.seal := by
    change unmask s table supply = _
    rw [unmask_of_holds hsupply, hs, h.unmaskText_eq]
  have hlenient : lenient =
      ⟨(tokensOf table.stem dropped).map .tokenDropped, form.seal result⟩ := by
    change unmask s' table supply = _
    rw [unmask_of_holds hsupply, hs', h.unmaskText_eq, tokensOf, List.map_map]
    rfl
  have hnone : lenient.notices = [] ↔ dropped = [] := by
    rw [hlenient]
    exact List.map_eq_nil_iff.trans List.map_eq_nil_iff
  have hdropped : (tokensOf table.stem dropped).Sublist table.tokens :=
    table.tokensOf_entries ▸ h.sublist.map _
  refine ⟨result, tokensOf table.stem dropped, hlenient, ?_, hdropped,
    hdropped.nodup table.nodup_tokens, ?_, ?_, ?_⟩
  · rintro rfl
    rfl
  · intro b
    rw [hstrict, hnone, unmaskOutcome_eq_ok_iff, hlenient]
  · intro problem hproblem
    rw [hstrict, unmaskOutcome_eq_error_iff] at hproblem
    rw [hnone, hlenient]
    refine hproblem.imp_left ?_
    rintro ⟨e, hhead, rfl⟩
    have hmem := h.sublist.subset (List.mem_of_head? hhead)
    refine ⟨e.1, List.mem_map_of_mem hmem, rfl, ?_⟩
    rw [tokensOf, List.head?_map, List.head?_map, hhead]
    rfl
  · have hwithout : (table.without (tokensOf table.stem dropped)).entries.toList = kept :=
      h.filter_eq hnodup
    have hkept : unmaskText s.strict.isOn table.stem kept text = ⟨[], .ok result⟩ := by
      rw [h.kept_alone.unmaskText_eq, hs]
      rfl
    change unmask s (table.without _) supply = _
    rw [unmask_of_holds hsupply, hwithout, hlenient]
    exact congrArg (Outcome.andThen form.seal) hkept

/-- A token begins another one, and a fragment and what follows it make a third. -/
theorem strict_agrees_with_lenient_entangled :
    let s := Settings.standard
    let s' := { Settings.standard with strict := .bool false }
    let table : Table :=
      { entries := Entries.ofList [(['1'], ['T', '2']), (['1', '2'], ['x']), (['2', '2'], ['y'])]
        stem := ['T'] }
    let supply := Supply.buffer (.text ['T', '1', '2'])
    s.strict.isOn = true ∧ s'.strict.isOn = false ∧ supply.Holds ['T', '1', '2'] .text ∧
      unmask s' table supply = ⟨[.tokenDropped ['T', '1', '2']], .ok (.text ['y'])⟩ ∧
      (unmask s table supply).result = .error (.tokenMissing ['1', '2'] ['T', '1', '2']) ∧
      unmask s (table.without [['T', '1', '2']]) supply = ⟨[], .ok (.text ['y'])⟩ := by
  intro s s' table supply
  have hs : s.strict.isOn = true := rfl
  have hs' : s'.strict.isOn = false := rfl
  have hsupply : supply.Holds ['T', '1', '2'] .text := .text _
  have hlenient : unmask s' table supply =
      ⟨[.tokenDropped ['T', '1', '2']], .ok (.text ['y'])⟩ := by
    cbv
  obtain ⟨restored, dropped, hrun, -, -, -, hsome, hproblem, hwithout⟩ :=
    strict_agrees_with_lenient hs hs' table hsupply
  rw [hlenient] at hrun hsome hproblem hwithout
  obtain ⟨hnotices, -⟩ := Outcome.mk.inj hrun
  obtain rfl : ([['T', '1', '2']] : List Text) = dropped :=
    List.map_injective_iff.mpr (fun _ _ => Notice.tokenDropped.inj) hnotices
  refine ⟨hs, hs', hsupply, hlenient, ?_, hwithout⟩
  cases hstrict : (unmask s table supply).result with
  | ok b => cases ((hsome b).mp hstrict).1
  | error problem =>
    rcases hproblem problem hstrict with ⟨key, -, rfl, hhead⟩ | ⟨hnone, -⟩
    · obtain rfl : (['1', '2'] : Text) = key := by
        simpa [Table.token, table] using hhead
      rfl
    · cases hnone

end Standin
