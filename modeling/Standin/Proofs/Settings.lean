import Standin.Proofs.Occurrence
import Standin.Settings.Environment

/-!
# Settings that can come about

* `Markers.ofTexts_eq_ok_iff`: two words are taken as they are;
* `Draft.Valid`: what the values of settings have to be;
* **`Draft.check_eq_ok_iff`**: a draft is accepted as it is, and **`Draft.valid_iff`**: just when it
  is valid;
* `Settings.evolve_eq_ok_iff`, `Changes.apply_merge`: changes are made in the draft, and two of them
  at once;
* `Settings.evolveEach`, `Settings.draft_of_foldlM`: changes one after another;
* **`settings_valid`**: settings are valid wherever they come from, and changes can be merged.
-/

namespace Standin

theorem bind_eq_ok_iff {ε α β : Type} {x : Except ε α} {f : α → Except ε β} {y : β} :
    x >>= f = .ok y ↔ ∃ a, x = .ok a ∧ f a = .ok y := by
  cases x with
  | error e => exact ⟨nofun, nofun⟩
  | ok a => exact ⟨fun h => ⟨a, rfl, h⟩, fun ⟨_, ha, h⟩ => Except.ok.inj ha ▸ h⟩

variable {s s' : Settings} {d : Draft} {c c' : Changes} {opening closing : Text} {v w : Text}
  {x : Scalar}

/-! ## Markers -/

theorem Marker.ofText_eq_ok_iff {m : Marker} : Marker.ofText w = .ok m ↔ m.symbol = w := by
  constructor
  · intro h
    unfold Marker.ofText at h
    split at h
    · cases h
    · rw [← Except.ok.inj h]
  · rintro rfl
    exact dif_neg m.symbol_ne

theorem Markers.ofTexts_eq_ok_iff {m : Markers} : Markers.ofTexts opening closing = .ok m ↔
    m.opening.symbol = opening ∧ m.closing.symbol = closing := by
  constructor
  · intro h
    obtain ⟨o, ho, h⟩ := bind_eq_ok_iff.mp h
    obtain ⟨c, hc, h⟩ := bind_eq_ok_iff.mp h
    unfold Markers.ofMarkers at h
    split at h
    · cases h
    · rw [← Except.ok.inj h]
      exact ⟨Marker.ofText_eq_ok_iff.mp ho, Marker.ofText_eq_ok_iff.mp hc⟩
  · rintro ⟨ho, hc⟩
    refine bind_eq_ok_iff.mpr ⟨m.opening, Marker.ofText_eq_ok_iff.mpr ho, ?_⟩
    refine bind_eq_ok_iff.mpr ⟨m.closing, Marker.ofText_eq_ok_iff.mpr hc, ?_⟩
    exact dif_neg m.distinct

theorem Markers.exists_ofTexts_iff : (∃ m, Markers.ofTexts opening closing = .ok m) ↔
    opening ≠ [] ∧ closing ≠ [] ∧ opening ≠ closing := by
  constructor
  · rintro ⟨m, h⟩
    obtain ⟨rfl, rfl⟩ := Markers.ofTexts_eq_ok_iff.mp h
    exact ⟨m.opening.symbol_ne, m.closing.symbol_ne, m.distinct⟩
  · rintro ⟨ho, hc, hne⟩
    exact ⟨⟨⟨opening, ho⟩, ⟨closing, hc⟩, hne⟩, Markers.ofTexts_eq_ok_iff.mpr ⟨rfl, rfl⟩⟩

/-! ## Drafts -/

/-- What the values of settings have to be. -/
structure Draft.Valid (d : Draft) : Prop where
  symbol_ne : ∀ m ∈ [d.markers.opening, d.markers.closing],
    m.symbol ≠ [] ∧ m.length = m.symbol.length
  distinct : d.markers.opening.symbol ≠ d.markers.closing.symbol
  keyLength : ∃ n : Int, d.keyLength = .int n ∧ 1 ≤ n ∧ n ≤ 18
  stem : ∃ stem : Text, d.stem = .text stem ∧ stem ≠ [] ∧ (∀ c ∈ stem, Text.isDigit c = false) ∧
    ∀ m ∈ [d.markers.opening, d.markers.closing], ¬ stem <:+: m.symbol ∧ ¬ m.symbol <:+: stem

theorem overlaps_eq_false_iff : overlaps v w = false ↔ ¬ v <:+: w ∧ ¬ w <:+: v := by
  rw [overlaps, Bool.or_eq_false_iff, Text.contains_eq_false_iff, Text.contains_eq_false_iff]

namespace Draft

theorem checkKeyLength_eq_ok_iff {n : { n : Nat // 1 ≤ n ∧ n ≤ maxKeyLength }} :
    checkKeyLength x = .ok n ↔ x = .int n.1 := by
  constructor
  · intro h
    unfold checkKeyLength at h
    split at h
    · split at h
      · rw [← Except.ok.inj h, Int.toNat_of_nonneg (by omega)]
      · cases h
    · cases h
  · rintro rfl
    exact dif_pos (c := 1 ≤ (n.1 : Int).toNat ∧ (n.1 : Int).toNat ≤ maxKeyLength) n.2

theorem checkStem_eq_ok_iff {stem : { s : Text // s ≠ [] ∧ s.any Text.isDigit = false }} :
    checkStem x = .ok stem ↔ x = .text stem.1 := by
  constructor
  · intro h
    unfold checkStem at h
    split at h
    · split at h
      · rw [← Except.ok.inj h]
      · cases h
    · cases h
  · rintro rfl
    exact dif_pos stem.2

theorem check_eq_ok_iff : d.check = .ok s ↔ s.draft = d := by
  constructor
  · intro h
    obtain ⟨⟨n, hn⟩, hkeyLength, h⟩ := bind_eq_ok_iff.mp h
    obtain ⟨⟨stem, hstem⟩, hcheck, h⟩ := bind_eq_ok_iff.mp h
    rw [checkKeyLength_eq_ok_iff] at hkeyLength
    rw [checkStem_eq_ok_iff] at hcheck
    simp only at h
    split at h
    · split at h
      · rw [← Except.ok.inj h]
        cases d
        cases hkeyLength
        cases hcheck
        rfl
      · cases h
    · cases h
  · rintro rfl
    refine bind_eq_ok_iff.mpr ⟨⟨s.keyLength, s.keyLength_mem⟩, checkKeyLength_eq_ok_iff.mpr rfl, ?_⟩
    refine bind_eq_ok_iff.mpr ⟨⟨s.stem, s.stem_ne, s.stem_digitFree⟩,
      checkStem_eq_ok_iff.mpr rfl, ?_⟩
    exact (dif_pos s.opening_apart).trans (dif_pos s.closing_apart)

/-- **A draft is accepted just when it is valid.** -/
theorem valid_iff : d.Valid ↔ ∃ s, d.check = .ok s := by
  simp only [check_eq_ok_iff]
  constructor
  · rintro ⟨-, -, ⟨n, hkeyLength, hpos, hmax⟩, stem, hstem, hne, hdigits, hapart⟩
    obtain ⟨markers, keyLength, stem', strict, noticeStrays⟩ := d
    obtain rfl : keyLength = .int n := hkeyLength
    obtain rfl : stem' = .text stem := hstem
    have hmem : 1 ≤ n.toNat ∧ n.toNat ≤ maxKeyLength := by
      rw [maxKeyLength]
      omega
    have hdigitFree : stem.any Text.isDigit = false := by
      rw [List.any_eq_false]
      exact fun c hc => Bool.eq_false_iff.mp (hdigits c hc)
    refine ⟨⟨markers, n.toNat, stem, strict, noticeStrays, hmem, hne, hdigitFree,
      overlaps_eq_false_iff.mpr (hapart _ (by simp)),
      overlaps_eq_false_iff.mpr (hapart _ (by simp))⟩, ?_⟩
    rw [Settings.draft, Int.toNat_of_nonneg (by omega)]
  · rintro ⟨s, rfl⟩
    refine ⟨?_, s.markers.distinct, ⟨s.keyLength, rfl, ?_⟩, s.stem, rfl, s.stem_ne, ?_, ?_⟩
    · exact fun m _ => ⟨m.symbol_ne, rfl⟩
    · have hmem := s.keyLength_mem
      rw [maxKeyLength] at hmem
      omega
    · exact fun c hc => Bool.eq_false_iff.mpr (List.any_eq_false.mp s.stem_digitFree c hc)
    · simp only [List.forall_mem_cons]
      exact ⟨overlaps_eq_false_iff.mp s.opening_apart, overlaps_eq_false_iff.mp s.closing_apart,
        nofun⟩

end Draft

/-! ## Changes -/

namespace Changes

theorem apply_merge (c c' : Changes) (d : Draft) : (c.merge c').apply d = c'.apply (c.apply d) := by
  have hor : ∀ {α : Type} (a b : Option α) (x : α), (b.or a).getD x = b.getD (a.getD x) := by
    intro α a b x
    cases b <;> rfl
  simp only [apply, merge, hor]

theorem unknown_merge (h : c.unknown = []) (h' : c'.unknown = []) :
    (c.merge c').unknown = [] := by
  simp [merge, h, h']

/-- Changes put together, a later one before an earlier one. -/
def mergeAll (cs : List Changes) : Changes := cs.foldl merge {}

end Changes

namespace Settings

theorem evolve_eq_ok_iff : s.evolve c = .ok s' ↔ c.unknown = [] ∧ s'.draft = c.apply s.draft := by
  unfold evolve
  split
  · next h => rw [Draft.check_eq_ok_iff, and_iff_right h]
  · next h => simp [h]

/-- **All settings have valid values.** -/
theorem valid_draft (s : Settings) : s.draft.Valid :=
  Draft.valid_iff.mpr ⟨s, Draft.check_eq_ok_iff.mpr rfl⟩

/-- The settings after changes, one after another; those that are refused change nothing. -/
def evolveEach (s : Settings) (cs : List Changes) : Settings :=
  cs.foldl (fun s c => (s.evolve c).toOption.getD s) s

variable {cs : List Changes}

theorem evolveEach_of_foldlM (h : cs.foldlM evolve s = .ok s') : s.evolveEach cs = s' := by
  induction cs generalizing s with
  | nil => exact Except.ok.inj h
  | cons c cs ih =>
    rw [List.foldlM_cons] at h
    obtain ⟨s₁, hc, hcs⟩ := bind_eq_ok_iff.mp h
    have hstep : (s.evolve c).toOption.getD s = s₁ := by
      rw [hc]
      rfl
    rw [evolveEach, List.foldl_cons, hstep]
    exact ih hcs

theorem draft_of_foldlM {merged : Changes} (hunknown : merged.unknown = [])
    (hs : s.draft = merged.apply d) (h : cs.foldlM evolve s = .ok s') :
    (cs.foldl Changes.merge merged).unknown = [] ∧
      s'.draft = (cs.foldl Changes.merge merged).apply d := by
  induction cs generalizing s merged with
  | nil => exact ⟨hunknown, Except.ok.inj h ▸ hs⟩
  | cons c cs ih =>
    rw [List.foldlM_cons] at h
    obtain ⟨s₁, hc, hcs⟩ := bind_eq_ok_iff.mp h
    obtain ⟨hknown, hdraft⟩ := evolve_eq_ok_iff.mp hc
    rw [hs, ← Changes.apply_merge] at hdraft
    exact ih (Changes.unknown_merge hunknown hknown) hdraft hcs

end Settings

/-- **Settings are valid wherever they come from.** Two words make a pair of markers just when they
are words and differ, and a draft makes settings just when its values are valid; the settings have
these values. So have settings read from an environment and settings that were changed any number of
times, refused changes leaving them as they are. Changes that are all made, one after another, can
be made at once when they are merged. -/
theorem settings_valid :
    (∀ opening closing, (∃ m, Markers.ofTexts opening closing = .ok m) ↔
      opening ≠ [] ∧ closing ≠ [] ∧ opening ≠ closing) ∧
    (∀ d : Draft, d.Valid ↔ ∃ s, d.check = .ok s ∧ s.draft = d) ∧
    (∀ env s, Settings.ofEnvironment env = .ok s → s.draft.Valid) ∧
    ∀ (s : Settings) (cs : List Changes), (s.evolveEach cs).draft.Valid ∧
      ∀ s', cs.foldlM Settings.evolve s = .ok s' →
        s.evolveEach cs = s' ∧ s.evolve (Changes.mergeAll cs) = .ok s' := by
  refine ⟨fun _ _ => Markers.exists_ofTexts_iff, fun d => ?_, fun _ s _ => s.valid_draft,
    fun s cs => ⟨Settings.valid_draft _, fun s' h => ⟨Settings.evolveEach_of_foldlM h, ?_⟩⟩⟩
  · rw [Draft.valid_iff]
    simp only [Draft.check_eq_ok_iff, and_self]
  · exact Settings.evolve_eq_ok_iff.mpr (Settings.draft_of_foldlM rfl rfl h)

/-- Settings from an environment with a stem of its own, changed twice; between the changes, a
switch in place of the key length is refused. -/
theorem settings_valid_changed :
    let env : Environment := fun name => if name = "FRAGMASK_PREFIX" then some ['K'] else none
    let c : Changes := { keyLength := some (.int 3), strict := some .null }
    let refused : Changes := { keyLength := some (.bool true) }
    let c' : Changes := { strict := some (.bool false) }
    ∃ s s', Settings.ofEnvironment env = .ok s ∧ s.draft.Valid ∧
      (s.evolveEach [c, refused, c']).draft.Valid ∧ [c, c'].foldlM Settings.evolve s = .ok s' ∧
      s.evolve { keyLength := some (.int 3), strict := some (.bool false) } = .ok s' := by
  intro env c refused c'
  let s : Settings :=
    { Settings.standard with
      stem := ['K']
      stem_ne := by decide
      stem_digitFree := by decide +kernel
      opening_apart := by decide
      closing_apart := by decide }
  let s₁ : Settings := { s with keyLength := 3, keyLength_mem := by decide, strict := .null }
  let s' : Settings := { s₁ with strict := .bool false }
  have hread : Settings.ofEnvironment env = .ok s := by
    change Draft.check { stem := .text ['K'] } = .ok s
    exact Draft.check_eq_ok_iff.mpr rfl
  have hsteps : [c, c'].foldlM Settings.evolve s = .ok s' :=
    bind_eq_ok_iff.mpr ⟨s₁, Settings.evolve_eq_ok_iff.mpr ⟨rfl, rfl⟩,
      bind_eq_ok_iff.mpr ⟨s', Settings.evolve_eq_ok_iff.mpr ⟨rfl, rfl⟩, rfl⟩⟩
  obtain ⟨-, -, henv, hchanges⟩ := settings_valid
  exact ⟨s, s', hread, henv env s hread, (hchanges s [c, refused, c']).1, hsteps,
    ((hchanges s [c, c']).2 s' hsteps).2⟩

end Standin
