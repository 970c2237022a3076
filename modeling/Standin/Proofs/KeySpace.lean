import Standin.Proofs.Fragments
import Standin.Proofs.Masking
import Mathlib.Data.Set.Card

/-!
# When a document can be masked

Every key that is drawn makes one key less. Draws alone may miss the free keys that are left, but
the sweep behind them goes through all numbers, so keys run out only when none is free.

* `Keys.exhausted_of_next`: a search that fails has seen all keys;
* `Keys.nextMany_ok_iff`: as many keys can be drawn together as are free;
* `Settings.room`: how many tokens a text leaves for its fragments;
* **`mask_ok_iff_le_room`**: masking succeeds just when a text is handed over that has fragments,
  and has room for them; else the first of these that fails is the problem.
-/

namespace Standin

namespace Keys

variable {k : Keys} {taken : List Text} {avoid key : Text} {d : Draws} {fault : KeyFault}

/-! ## Searches that fail -/

theorem exists_add_mod_eq {size m : Nat} (n : Nat) (hm : m < size) :
    ∃ i < size, (n + i) % size = m := by
  have hr := Nat.mod_lt n (Nat.zero_lt_of_lt hm)
  have hn := Nat.div_add_mod n size
  by_cases h : n % size ≤ m
  · refine ⟨m - n % size, by omega, ?_⟩
    rw [show n + (m - n % size) = size * (n / size) + m by omega, Nat.mul_add_mod,
      Nat.mod_eq_of_lt hm]
  · refine ⟨m + size - n % size, by omega, ?_⟩
    rw [show n + (m + size - n % size) = size * (n / size) + (size + m) by omega, Nat.mul_add_mod,
      Nat.add_mod_left, Nat.mod_eq_of_lt hm]

theorem exists_passed (taken : List Text) (d : Draws) (hk : IsKey k.length key) :
    ∃ i < k.size, k.spell (k.passed taken d i) = key := by
  obtain ⟨m, hm, rfl⟩ := exists_spell hk
  obtain ⟨i, hi, rfl⟩ := exists_add_mod_eq (d.number k.size (taken.length + 32)) hm
  exact ⟨i, hi, rfl⟩

/-- **A search that finds no key has seen all keys.** -/
theorem not_free_of_exhausted {n : Nat} (h : (k.next taken avoid d).2 = .error (.exhausted n)) :
    n = k.length ∧ ∀ key, ¬ k.Free taken avoid key := by
  rcases next_cases k taken avoid d with ⟨n, -, -, hnext⟩ | ⟨hcounted, hnext⟩
  · rw [h, write] at hnext
    split at hnext <;> cases hnext
  · rw [h] at hnext
    cases hnext
    refine ⟨rfl, fun key hfree => ?_⟩
    obtain ⟨i, hi, rfl⟩ := exists_passed taken d hfree.isKey
    exact hcounted i hi fun _ => (free_iff.mp hfree).2

theorem exhausted_of_next (hk : k.length ≤ Text.maxDigits)
    (h : (k.next taken avoid d).2 = .error fault) :
    fault = .exhausted k.length ∧ ∀ key, ¬ k.Free taken avoid key := by
  rcases next_cases k taken avoid d with ⟨n, hn, -, hnext⟩ | ⟨-, hnext⟩
  · rw [h, write_of_writable (writable_of_lt_size hk hn)] at hnext
    cases hnext
  · obtain rfl := Except.error.inj (h.symm.trans hnext)
    exact ⟨rfl, (not_free_of_exhausted h).2⟩

/-! ## Keys drawn together -/

theorem free_cons_iff {x : Text} : k.Free (key :: taken) avoid x ↔
    k.Free taken avoid x ∧ x ≠ key := by
  constructor
  · intro h
    exact ⟨⟨h.isKey, fun hmem => h.notMem (List.mem_cons_of_mem _ hmem), h.absent⟩,
      fun he => h.notMem (he ▸ List.mem_cons_self)⟩
  · rintro ⟨h, hne⟩
    refine ⟨h.isKey, fun hmem => ?_, h.absent⟩
    rcases List.mem_cons.mp hmem with he | hmem
    · exact hne he
    · exact h.notMem hmem

theorem finite_free (k : Keys) (taken : List Text) (avoid : Text) :
    {key | k.Free taken avoid key}.Finite := by
  refine ((Set.finite_lt_nat k.size).image k.spell).subset ?_
  intro key h
  obtain ⟨n, hn, rfl⟩ := exists_spell h.isKey
  exact ⟨n, hn, rfl⟩

theorem ncard_free_cons (h : k.Free taken avoid key) :
    {x | k.Free (key :: taken) avoid x}.ncard + 1 = {x | k.Free taken avoid x}.ncard := by
  have hdiff : {x | k.Free (key :: taken) avoid x} = {x | k.Free taken avoid x} \ {key} := by
    ext x
    simp [free_cons_iff]
  rw [hdiff]
  exact Set.ncard_sdiff_singleton_add_one h (finite_free k taken avoid)

/-- **As many keys can be drawn together as are free**, whatever numbers are drawn. -/
theorem nextMany_ok_iff (hk : k.length ≤ Text.maxDigits) :
    ∀ {count : Nat} {taken : List Text} {d : Draws},
      (∃ keys, (k.nextMany avoid count taken d).2 = .ok keys) ↔
        count ≤ {key | k.Free taken avoid key}.ncard
  | 0, taken, d => by simp [nextMany]
  | count + 1, taken, d => by
    rw [nextMany]
    split
    · next hnext =>
      have hnone : {key | k.Free taken avoid key} = ∅ :=
        Set.eq_empty_iff_forall_notMem.mpr (exhausted_of_next hk (congrArg Prod.snd hnext)).2
      rw [hnone, Set.ncard_empty]
      simp
    · next d' key hnext =>
      have hcard := ncard_free_cons (free_of_next (congrArg Prod.snd hnext))
      rw [show count + 1 ≤ {key | k.Free taken avoid key}.ncard ↔
        count ≤ {x | k.Free (key :: taken) avoid x}.ncard by omega, ← nextMany_ok_iff hk (d := d')]
      cases hrest : k.nextMany avoid count (key :: taken) d' with
      | mk d'' result =>
        cases result with
        | error fault => simp
        | ok keys => simp

theorem exhausted_of_nextMany (hk : k.length ≤ Text.maxDigits) :
    ∀ {count : Nat} {taken : List Text} {d : Draws},
      (k.nextMany avoid count taken d).2 = .error fault → fault = .exhausted k.length
  | 0, taken, d, h => by cases h
  | count + 1, taken, d, h => by
    rw [nextMany] at h
    split at h
    · next hnext =>
      cases h
      exact (exhausted_of_next hk (congrArg Prod.snd hnext)).1
    · split at h
      · next hrest =>
        cases h
        exact exhausted_of_nextMany hk (congrArg Prod.snd hrest)
      · cases h

end Keys

/-! ## Documents that have room for their keys -/

/-- How many keys have a token that does not occur in the text. -/
noncomputable def Settings.room (s : Settings) (text : Text) : Nat :=
  {key | IsKey s.keyLength key ∧ ¬ s.token key <:+: text}.ncard

variable {s : Settings} {d : Document} {draws : Draws} {noticeStrays : Bool} {spans : List Span}

theorem Settings.room_eq (s : Settings) (text : Text) :
    s.room text = {key | s.keys.Free [] text key}.ncard := by
  unfold Settings.room
  congr 1
  ext key
  exact ⟨fun h => ⟨h.1, List.not_mem_nil, h.2⟩, fun h => ⟨h.isKey, h.absent⟩⟩

theorem Settings.ofLength_keys (s : Settings) : Keys.ofLength s.keyLength s.stem = .ok s.keys := by
  unfold Keys.ofLength
  rw [dif_pos (show 0 < (s.keyLength : Int).toNat from s.keyLength_mem.1)]
  rfl

theorem maskDocument_of_error {problem : Problem}
    (h : (d.fragments s.markers noticeStrays).result = .error problem) :
    (maskDocument s d draws).1 = draws ∧ (maskDocument s d draws).2.result = .error problem := by
  unfold Document.fragments at h
  unfold maskDocument
  cases hc : (Reading.ofText s.markers d.text).complete d s.markers with
  | error problem' =>
    simp only [hc, Except.map, Except.error.injEq] at h ⊢
    exact ⟨trivial, h⟩
  | ok parts =>
    simp only [hc, Except.map] at h
    cases h

theorem fragments_error_cases {problem : Problem}
    (h : (d.fragments s.markers noticeStrays).result = .error problem) :
    (∃ p, problem = .unclosed d s.markers p) ∨ ∃ p r, problem = .nested d s.markers p r := by
  obtain ⟨ps, gap, rest, hop, hno⟩ := exists_opening_of_error h
  rcases hop.cut_of_not_completes hno with hc | ⟨body, after, i, hc, hb⟩
  · rw [fragments_unclosed hop hc] at h
    cases h
    exact Or.inl ⟨_, rfl⟩
  · rw [fragments_nested hop hc hb] at h
    cases h
    exact Or.inr ⟨_, _, rfl⟩

theorem maskDocument_of_parting (draws : Draws) (y : Parting s.markers d.text) :
    if y.pieces.length ≤ s.room d.text then ∃ m, (maskDocument s d draws).2.result = .ok m
    else (maskDocument s d draws).2.result = .error (.noKey (.exhausted s.keyLength)) := by
  rw [Settings.room_eq]
  cases hk : s.keys.nextMany d.text y.pieces.length [] draws with
  | mk draws' result =>
    have hmany : (∃ keys, (s.keys.nextMany d.text y.pieces.length [] draws).2 = .ok keys) ↔ _ :=
      Keys.nextMany_ok_iff s.length_keys_le
    rw [hk] at hmany
    unfold maskDocument
    simp only [y.ofText_eq, Reading.complete]
    cases result with
    | error fault =>
      obtain rfl := Keys.exhausted_of_nextMany s.length_keys_le (congrArg Prod.snd hk)
      rw [if_neg (by rw [← hmany]; simp)]
      simp only [hk]
      rfl
    | ok keys =>
      rw [if_pos (by rw [← hmany]; exact ⟨keys, rfl⟩)]
      simp only [hk]
      exact ⟨_, rfl⟩

theorem slices_of_fragments (h : (d.fragments s.markers noticeStrays).result = .ok spans) :
    ∀ span ∈ spans, Span.between span.start span.stop = .ok span ∧ ∃ w, d.slice span = .ok w := by
  obtain ⟨y⟩ := parting_of_fragments h
  rw [fragments_of_parting d noticeStrays y] at h
  cases h
  intro span hspan
  constructor
  · have hlt := span.start_lt_stop
    unfold Span.between
    rw [dif_neg (by omega), dif_pos (by omega)]
    rfl
  · obtain ⟨i, hi⟩ := List.mem_iff_getElem?.mp hspan
    have hlen : i < y.pieces.length := by
      rw [← length_spansFrom s.markers 0]
      exact (List.getElem?_eq_some_iff.mp hi).1
    have hslice : Document.slice ⟨[] ++ joined s.markers y.pieces ++ y.tail, d.file⟩ span =
        .ok _ := slice_of_spansFrom (List.getElem?_eq_getElem hlen) hi
    rw [List.nil_append, ← y.text_eq] at hslice
    exact ⟨_, hslice⟩

/-! ## Whatever is handed over -/

theorem Supply.exists_fault {supply : Supply}
    (h : ¬ ∃ (text : Text) (form : Form), supply.Holds text form) :
    ∃ fault, supply.read = .error fault := by
  cases hr : supply.read with
  | error fault => exact ⟨fault, rfl⟩
  | ok p =>
    obtain ⟨text, form⟩ := p
    exact absurd ⟨text, form, Supply.read_eq_ok_iff.mp hr⟩ h

variable {supply : Supply} {file : Option Path} {text tail : Text} {form : Form}

/-! ### Masked documents in octets -/

theorem IsKey.encodable {length : Nat} {key : Text} (hk : IsKey length key) : key.Encodable := by
  intro c hc
  have hdigit := hk.digits c hc
  cases c with
  | char c => rfl
  | surrogate n => cases hdigit

theorem encodable_woven (ht : tail.Encodable) : ∀ {l : List Cell},
    (∀ c ∈ l, c.piece.gap.Encodable ∧ IsKey s.keyLength c.key) →
      ((woven s l tail).Encodable ↔ (l ≠ [] → s.stem.Encodable))
  | [], _ => by simp [woven_nil, ht]
  | c :: l, h => by
    obtain ⟨⟨hgap, hkey⟩, hrest⟩ := List.forall_mem_cons.mp h
    rw [woven_cons, Text.encodable_append, Text.encodable_append, Settings.token,
      Text.encodable_append, encodable_woven ht hrest]
    constructor
    · exact fun h _ => h.1.2.1
    · intro hstem
      have := hstem (List.cons_ne_nil c l)
      exact ⟨⟨hgap, this, hkey.encodable⟩, fun _ => this⟩

theorem Layout.encodable_masked (y : Layout s text) (h : text.Encodable) :
    y.masked.text.Encodable ↔ (y.cells ≠ [] → s.stem.Encodable) :=
  encodable_woven (h.of_isInfix y.tail_isInfix) fun c hc =>
    ⟨h.of_isInfix (y.gap_isInfix hc), y.isKey c hc⟩

/-- The masked document can be handed back unless it is asked for in octets and has a token with a
lone surrogate. -/
theorem Layout.exists_seal_iff (y : Layout s text) (h : supply.Holds text form) :
    (∃ m, y.masked.seal form = .ok m) ↔
      (form = .octets → y.cells ≠ [] → s.stem.Encodable) := by
  simp only [Masked.seal_eq_ok_iff]
  cases h with
  | text t => simpa using ⟨⟨.text y.masked.text, y.masked.table⟩, rfl, rfl⟩
  | octets chars =>
    rw [← y.encodable_masked (Text.encodable_ofChars chars), ← Form.exists_wrap_octets_iff]
    constructor
    · rintro ⟨m, hm, -⟩ -
      exact ⟨_, hm⟩
    · intro hseal
      obtain ⟨b, hb⟩ := hseal rfl
      exact ⟨⟨b, _⟩, hb, rfl⟩

/-! ### The result -/

theorem Layout.result_fragments (y : Layout s text) (file : Option Path) (noticeStrays : Bool) :
    (Document.fragments ⟨text, file⟩ s.markers noticeStrays).result =
      .ok (Reading.spansFrom s.markers 0 (y.cells.map Cell.piece)) := by
  unfold Document.fragments
  rw [y.reading]
  rfl

theorem mask_of_fragments (draws : Draws) (h : supply.Holds text form)
    (hscan : (Document.fragments ⟨text, file⟩ s.markers noticeStrays).result = .ok spans) :
    if s.room text < spans.length then
      (mask s supply file draws).2.result = .error (.noKey (.exhausted s.keyLength))
    else if form = .octets → spans ≠ [] → s.stem.Encodable then
      ∃ m, (mask s supply file draws).2.result = .ok m
    else ∃ fault, (mask s supply file draws).2.result = .error (.lone fault) := by
  obtain ⟨y⟩ := parting_of_fragments hscan
  have hspans := (fragments_of_parting ⟨text, file⟩ noticeStrays y).symm.trans hscan
  have hlen : spans.length = y.pieces.length := by
    rw [← Except.ok.inj hspans, length_spansFrom]
  have hdoc := maskDocument_of_parting draws y
  rw [result_mask_of_holds h, hlen]
  split at hdoc
  · next hle =>
    obtain ⟨m, hm⟩ := hdoc
    obtain ⟨z, rfl⟩ := exists_layout_of_maskDocument hm
    have hcells : spans ≠ [] ↔ z.cells ≠ [] := by
      have hz := (z.result_fragments file noticeStrays).symm.trans hscan
      rw [← List.length_pos_iff, ← List.length_pos_iff, ← Except.ok.inj hz, length_spansFrom,
        List.length_map]
    have hseal := z.exists_seal_iff h
    rw [← hcells] at hseal
    rw [if_neg (Nat.not_lt.mpr hle), hm]
    split
    · next hstem => exact hseal.mpr hstem
    · next hstem =>
      exact (Masked.seal_cases form z.masked).resolve_left fun h => hstem (hseal.mp h)
  · next hlt =>
    rw [if_pos (Nat.not_le.mp hlt), hdoc]
    rfl

/-- **Masking succeeds just when a text is handed over that has fragments, and has room for them**,
and its masked text can be handed back: a stem with a surrogate that stands alone has no octets.
Whether it succeeds is no matter of the numbers drawn. Else the first of these that fails is the
problem, and no step on the way can fail in another way. -/
theorem mask_ok_iff_le_room (s : Settings) (supply : Supply) (file : Option Path) (draws : Draws) :
    let scan (text : Text) :=
      (Document.fragments ⟨text, file⟩ s.markers s.noticeStrays.isOn).result
    ((∃ m, (mask s supply file draws).2.result = .ok m) ↔
      ∃ (text : Text) (form : Form) (spans : List Span),
        supply.Holds text form ∧ scan text = .ok spans ∧ spans.length ≤ s.room text ∧
          (form = .octets → spans ≠ [] → s.stem.Encodable)) ∧
    ((¬ ∃ (text : Text) (form : Form), supply.Holds text form) →
      ∃ fault, (mask s supply file draws).2.result = .error (.unsupported fault)) ∧
    ∀ (text : Text) (form : Form), supply.Holds text form →
      (∀ problem, scan text = .error problem →
        (mask s supply file draws).2.result = .error problem ∧
        ((∃ p, problem = .unclosed ⟨text, file⟩ s.markers p) ∨
          ∃ p r, problem = .nested ⟨text, file⟩ s.markers p r)) ∧
      ∀ spans, scan text = .ok spans →
        (s.room text < spans.length →
          (mask s supply file draws).2.result = .error (.noKey (.exhausted s.keyLength))) ∧
        (spans.length ≤ s.room text → form = .octets → spans ≠ [] → ¬ s.stem.Encodable →
          ∃ fault, (mask s supply file draws).2.result = .error (.lone fault)) ∧
        Keys.ofLength s.keyLength s.stem = .ok s.keys ∧
        ∀ span ∈ spans, Span.between span.start span.stop = .ok span ∧
          ∃ w, Document.slice ⟨text, file⟩ span = .ok w := by
  intro scan
  refine ⟨⟨?_, ?_⟩, ?_, ?_⟩
  · rintro ⟨m, hm⟩
    obtain ⟨text, form, y, hholds, -⟩ := exists_layout_of_mask hm
    have hscan : scan text = .ok _ := y.result_fragments file _
    have h := mask_of_fragments draws hholds hscan
    rw [hm] at h
    refine ⟨text, form, _, hholds, hscan, ?_⟩
    split at h
    · cases h
    · next hle =>
      split at h
      · next hseal => exact ⟨Nat.not_lt.mp hle, hseal⟩
      · simp at h
  · rintro ⟨text, form, spans, hholds, hscan, hle, hseal⟩
    have h := mask_of_fragments draws hholds hscan
    rwa [if_neg (Nat.not_lt.mpr hle), if_pos hseal] at h
  · intro hno
    obtain ⟨fault, hfault⟩ := Supply.exists_fault hno
    exact ⟨fault, by rw [mask_of_fault hfault]⟩
  · intro text form hholds
    constructor
    · intro problem hscan
      refine ⟨?_, fragments_error_cases hscan⟩
      rw [result_mask_of_holds hholds, (maskDocument_of_error hscan).2]
      rfl
    · intro spans hscan
      have h := mask_of_fragments draws hholds hscan
      refine ⟨fun hlt => ?_, fun hle hform hspans hstem => ?_, s.ofLength_keys,
        slices_of_fragments hscan⟩
      · rwa [if_pos hlt] at h
      · rwa [if_neg (Nat.not_lt.mpr hle), if_neg fun hseal => hstem (hseal hform hspans)] at h

/-- A stem that is a lone surrogate: there is room for the fragment of a document in octets, and
masking fails. -/
theorem mask_lone_stem :
    let s :=
      { Settings.standard with
        keyLength := 1, stem := [.surrogate 0]
        keyLength_mem := by decide, stem_ne := by decide, stem_digitFree := by decide +kernel
        opening_apart := by decide, closing_apart := by decide }
    let chars := ['\x7b', '%', 'a', '%', '\x7d']
    let supply : Supply := .buffer (.octets (Utf8.encode chars))
    supply.Holds (Text.ofChars chars) .octets ∧
      (∃ span, (Document.fragments ⟨Text.ofChars chars, none⟩ s.markers true).result = .ok [span]) ∧
      1 ≤ s.room (Text.ofChars chars) ∧
      (mask s supply none ⟨id, 0⟩).2.result = .error (.lone ⟨0, 0, 1⟩) := by
  intro s chars supply
  have hread : Reading.ofText s.markers (Text.ofChars chars) = ⟨[⟨[], ['a']⟩], .complete []⟩ := by
    cbv
  have hkeys : s.keys.nextMany (Text.ofChars chars) 1 [] ⟨id, 0⟩ = (⟨id, 1⟩, .ok [['0']]) := by
    cbv
  have hkey : (['0'] : Text) ∈ {key | s.keys.Free [] (Text.ofChars chars) key} :=
    Keys.free_iff.mpr ⟨⟨rfl, List.all_eq_true.mp rfl⟩, by decide⟩
  have hholds : supply.Holds (Text.ofChars chars) .octets := .octets chars
  refine ⟨hholds, ?_, ?_, ?_⟩
  · rw [Document.fragments, hread]
    exact ⟨_, rfl⟩
  · rw [s.room_eq]
    exact (Set.ncard_pos (Keys.finite_free _ _ _)).mpr ⟨_, hkey⟩
  · rw [result_mask_of_holds hholds, (maskDocument_eq_ok hread hkeys).2]
    rfl

end Standin
