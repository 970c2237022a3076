import Standin.Proofs.Token
import Standin.Proofs.Reading
import Standin.Proofs.Utf8

/-!
# What masking makes

A document that is masked has a layout: the pieces of its reading, each with a key of its own, and
the tail.

* `Cell`, `woven`: a piece with the key that is put in its place, and the text that cells make;
* `Layout`, `Layout.masked`: cells that can come of masking a text, and what comes of them;
* **`exists_layout_of_mask`**: whatever masking makes is made of a layout;
* `occursAt_woven_iff`: in woven text a token stands at the places of its cells only;
* `mask_of_holds`, `unmask_of_holds`, `mask_of_fault`, `unmask_of_fault`: what is done to what was
  handed over is done to its text, if it has one, and the text that comes of it is handed back in
  the same form.
-/

namespace Standin

/-! ## Entries put one after another -/

namespace Entries

theorem putEntry_of_notMem {key fragment : Text} : ∀ {l : List (Text × Text)}, key ∉ keysOf l →
    putEntry key fragment l = l ++ [(key, fragment)]
  | [], _ => rfl
  | e :: l, h => by
    have hne : e.1 ≠ key := fun he => h (he ▸ List.mem_cons_self)
    rw [putEntry, if_neg hne, putEntry_of_notMem fun hmem => h (List.mem_cons_of_mem _ hmem),
      List.cons_append]

theorem toList_foldl_put : ∀ {l : List (Text × Text)} {e : Entries},
    (keysOf (e.toList ++ l)).Nodup →
      (l.foldl (fun e (key, fragment) => e.put key fragment) e).toList = e.toList ++ l
  | [], e, _ => (List.append_nil _).symm
  | (key, fragment) :: l, e, h => by
    have hput : (e.put key fragment).toList = e.toList ++ [(key, fragment)] := by
      refine putEntry_of_notMem fun hmem => ?_
      rw [keysOf, List.map_append, List.nodup_append] at h
      exact h.2.2 key hmem key List.mem_cons_self rfl
    rw [List.foldl_cons, toList_foldl_put (by rwa [hput, List.append_assoc]), hput,
      List.append_assoc, List.singleton_append]

/-- Entries that are put one after another are there in this order. -/
theorem ofList_toList (e : Entries) : ofList e.toList = e := by
  have h : (ofList e.toList).toList = e.toList := toList_foldl_put e.nodup
  cases hl : ofList e.toList
  cases e
  simp only [hl] at h
  subst h
  rfl

end Entries

/-! ## Woven text -/

/-- A piece and the key of the token that stands for its fragment. -/
structure Cell where
  piece : Piece
  key : Text

/-- The key and the fragment of a cell. -/
def Cell.entry (m : Markers) (c : Cell) : Text × Text := (c.key, c.piece.fragment m)

variable {s : Settings} {c : Cell} {l l' : List Cell} {tail text key : Text} {p : Nat}

/-- The gaps of the cells, each with its token behind it, and the tail. -/
def woven (s : Settings) (l : List Cell) (tail : Text) : Text :=
  weave s.token (l.map Cell.piece) (l.map Cell.key) tail

theorem woven_nil : woven s [] tail = tail := rfl

theorem woven_cons :
    woven s (c :: l) tail = c.piece.gap ++ s.token c.key ++ woven s l tail := rfl

theorem woven_append : ∀ {l : List Cell}, woven s (l ++ l') tail = woven s l (woven s l' tail)
  | [] => rfl
  | c :: l => by
    rw [List.cons_append, woven_cons, woven_cons, woven_append]

theorem woven_tail_append {rest : Text} : ∀ {l : List Cell},
    woven s l (tail ++ rest) = woven s l tail ++ rest
  | [] => rfl
  | c :: l => by
    rw [woven_cons, woven_cons, woven_tail_append, List.append_assoc _ _ rest]

/-- The places of the tokens of cells that begin at `pos`. -/
def startsFrom (s : Settings) (pos : Nat) : List Cell → List Nat
  | [] => []
  | c :: l =>
    (pos + c.piece.gap.length) :: startsFrom s (pos + c.piece.gap.length + s.tokenLength) l

theorem length_startsFrom (s : Settings) : ∀ (pos : Nat) (l : List Cell),
    (startsFrom s pos l).length = l.length
  | _, [] => rfl
  | _, _ :: l => congrArg (· + 1) (length_startsFrom s _ l)

theorem le_of_mem_startsFrom : ∀ {l : List Cell} {pos q : Nat}, q ∈ startsFrom s pos l → pos ≤ q
  | c :: l, pos, q, h => by
    rcases List.mem_cons.mp h with rfl | h
    · exact Nat.le_add_right _ _
    · have := le_of_mem_startsFrom h
      omega

/-- **In woven text a token stands at the places of its cells only**, if neither a gap nor the tail
holds it. -/
theorem occursAt_woven_iff (hk : IsKey s.keyLength key) : ∀ {l : List Cell} (pos : Nat) {p : Nat},
    (∀ c ∈ l, IsKey s.keyLength c.key) → (∀ c ∈ l, ¬ s.token key <:+: c.piece.gap) →
      ¬ s.token key <:+: tail →
        (Text.OccursAt (s.token key) (woven s l tail) p ↔
          (key, pos + p) ∈ (l.map Cell.key).zip (startsFrom s pos l))
  | [], pos, p, _, _, ht => by
    rw [woven_nil]
    simpa using fun hocc : Text.OccursAt (s.token key) tail p => ht hocc.isInfix
  | c :: l, pos, p, hkeys, hgaps, ht => by
    have hck := hkeys c List.mem_cons_self
    have hlen : (s.token key).length = s.tokenLength := Settings.length_token hk
    have hclen : (c.piece.gap ++ s.token c.key).length = c.piece.gap.length + s.tokenLength := by
      rw [List.length_append, Settings.length_token hck]
    have ih : ∀ {q : Nat}, Text.OccursAt (s.token key) (woven s l tail) q ↔ _ :=
      occursAt_woven_iff hk (pos + c.piece.gap.length + s.tokenLength)
        (fun d hd => hkeys d (List.mem_cons_of_mem c hd))
        (fun d hd => hgaps d (List.mem_cons_of_mem c hd)) ht
    have hc := Text.occursAt_append_length c.piece.gap (s.token c.key) (woven s l tail)
    rw [woven_cons, startsFrom, List.map_cons, List.zip_cons_cons, List.mem_cons, Prod.mk.injEq]
    constructor
    · intro hocc
      rcases Nat.lt_trichotomy p c.piece.gap.length with hlt | rfl | hgt
      · have hle := Settings.le_of_occursAt_token hk hocc hc hlt
        rw [List.append_assoc] at hocc
        exact absurd (hocc.of_append_left (hlen ▸ hle)).isInfix (hgaps c List.mem_cons_self)
      · exact Or.inl ⟨Settings.eq_of_occursAt_token hk hck hocc hc, rfl⟩
      · have hle := Settings.le_of_occursAt_token hck hc hocc hgt
        have hrest := hocc.of_append_right (hclen ▸ hle)
        refine Or.inr ?_
        rw [ih, hclen] at hrest
        rwa [show pos + p = pos + c.piece.gap.length + s.tokenLength +
          (p - (c.piece.gap.length + s.tokenLength)) by omega]
    · rintro (⟨rfl, hp⟩ | hmem)
      · rwa [Nat.add_left_cancel hp]
      · have hle := le_of_mem_startsFrom (List.of_mem_zip hmem).2
        obtain ⟨q, rfl⟩ : ∃ q, p = (c.piece.gap.length + s.tokenLength) + q :=
          ⟨p - (c.piece.gap.length + s.tokenLength), by omega⟩
        rw [← hclen, Text.occursAt_append_add, ih]
        rwa [← Nat.add_assoc, ← Nat.add_assoc] at hmem

/-- A key of no cell gives no token in woven text, if no gap and no tail holds it. -/
theorem not_token_isInfix_woven (hk : IsKey s.keyLength key)
    (hkeys : ∀ c ∈ l, IsKey s.keyLength c.key) (hne : key ∉ l.map Cell.key)
    (hgaps : ∀ c ∈ l, ¬ s.token key <:+: c.piece.gap) (ht : ¬ s.token key <:+: tail) :
    ¬ s.token key <:+: woven s l tail := by
  rw [Text.isInfix_iff_occursAt]
  rintro ⟨p, hocc⟩
  rw [occursAt_woven_iff hk 0 hkeys hgaps ht] at hocc
  exact hne (List.of_mem_zip hocc).1

/-! ## Layouts -/

/-- The pieces of a text, each with a key of its own whose token is no part of the text, and the
tail. -/
structure Layout (s : Settings) (text : Text) where
  cells : List Cell
  tail : Text
  reading : Reading.ofText s.markers text = ⟨cells.map Cell.piece, .complete tail⟩
  nodup : (cells.map Cell.key).Nodup
  isKey : ∀ c ∈ cells, IsKey s.keyLength c.key
  absent : ∀ c ∈ cells, ¬ s.token c.key <:+: text

namespace Layout

theorem text_eq (y : Layout s text) : text = joined s.markers (y.cells.map Cell.piece) ++ y.tail :=
  (Reading.ofText_eq_complete_iff.mp y.reading).1

theorem tail_isInfix (y : Layout s text) : y.tail <:+: text := by
  have h := (List.suffix_append (joined s.markers (y.cells.map Cell.piece)) y.tail).isInfix
  rwa [← y.text_eq] at h

theorem isInfix_of_joined (y : Layout s text) {w : Text}
    (h : w <:+: joined s.markers (y.cells.map Cell.piece)) : w <:+: text := by
  have hw := h.trans (List.prefix_append _ y.tail).isInfix
  rwa [← y.text_eq] at hw

theorem gap_isInfix (y : Layout s text) (h : c ∈ y.cells) : c.piece.gap <:+: text :=
  y.isInfix_of_joined (gap_isInfix_joined (List.mem_map_of_mem h))

theorem fragment_isInfix (y : Layout s text) (h : c ∈ y.cells) :
    c.piece.fragment s.markers <:+: text :=
  y.isInfix_of_joined (fragment_isInfix_joined (List.mem_map_of_mem h))

theorem keysOf_entries (m : Markers) (l : List Cell) :
    keysOf (l.map (Cell.entry m)).reverse = (l.map Cell.key).reverse := by
  rw [keysOf, List.map_reverse, List.map_map]
  rfl

/-- What comes of a layout: the woven text, and the table with the last cell first. -/
def masked (y : Layout s text) : Masked Text where
  text := woven s y.cells y.tail
  table :=
    { entries :=
        { toList := (y.cells.map (Cell.entry s.markers)).reverse
          nodup := by
            rw [keysOf_entries]
            exact List.nodup_reverse.mpr y.nodup }
      stem := s.stem
      keyLength := s.keyLength }

end Layout

/-! ## Masking makes layouts -/

variable {d : Document} {draws : Draws} {m : Masked Text}

theorem exists_cells : ∀ {pieces : List Piece} {keys : List Text}, keys.length = pieces.length →
    ∃ l : List Cell, l.map Cell.piece = pieces ∧ l.map Cell.key = keys
  | [], keys, h => ⟨[], rfl, (List.length_eq_zero_iff.mp h).symm⟩
  | piece :: pieces, key :: keys, h => by
    obtain ⟨l, rfl, rfl⟩ := exists_cells (Nat.succ.inj h)
    exact ⟨⟨piece, key⟩ :: l, rfl, rfl⟩

theorem zip_reverse_eq_entries (m : Markers) (l : List Cell) :
    (l.map Cell.key).reverse.zip ((l.map Cell.piece).map (Piece.fragment m)).reverse =
      (l.map (Cell.entry m)).reverse := by
  rw [List.map_map, List.zip_eq_zipWith, ← List.reverse_zipWith (by simp), ← List.zip_eq_zipWith,
    List.zip_map']
  rfl

/-- Keys drawn for the pieces of a reading, the last piece first, make a layout. -/
theorem exists_layout_of_keys {pieces : List Piece} {keys : List Text}
    (hr : Reading.ofText s.markers text = ⟨pieces, .complete tail⟩)
    (hlen : keys.length = pieces.length) (hnodup : keys.Nodup)
    (hfree : ∀ key ∈ keys, s.keys.Free [] text key) :
    ∃ y : Layout s text, y.masked =
      { text := weave s.token pieces keys.reverse tail
        table :=
          { entries := Entries.ofList (keys.zip (pieces.map (Piece.fragment s.markers)).reverse)
            stem := s.stem
            keyLength := s.keyLength } } := by
  obtain ⟨l, rfl, hkeys⟩ := exists_cells (by rwa [List.length_reverse] : keys.reverse.length = _)
  obtain rfl : keys = (l.map Cell.key).reverse := by rw [hkeys, List.reverse_reverse]
  have hmem : ∀ c ∈ l, s.keys.Free [] text c.key := fun c hc =>
    hfree c.key (List.mem_reverse.mpr (List.mem_map_of_mem hc))
  let y : Layout s text :=
    ⟨l, tail, hr, List.nodup_reverse.mp hnodup, fun c hc => (hmem c hc).isKey,
      fun c hc => (hmem c hc).absent⟩
  refine ⟨y, ?_⟩
  have hentries : Entries.ofList (l.map (Cell.entry s.markers)).reverse = y.masked.table.entries :=
    Entries.ofList_toList y.masked.table.entries
  rw [zip_reverse_eq_entries, hentries, List.reverse_reverse]
  rfl

/-- **What masking makes of a document is made of a layout.** -/
theorem exists_layout_of_maskDocument (h : (maskDocument s d draws).2.result = .ok m) :
    ∃ y : Layout s d.text, m = y.masked := by
  simp only [maskDocument] at h
  split at h
  · cases h
  · next pieces tail hc =>
    have hr : Reading.ofText s.markers d.text = ⟨pieces, .complete tail⟩ := by
      rw [Reading.complete] at hc
      split at hc
      · next hend =>
        obtain ⟨rfl, rfl⟩ := Prod.mk.inj (Except.ok.inj hc)
        rw [← hend]
      · cases hc
      · cases hc
    split at h
    · cases h
    · next keys hkeys =>
      obtain ⟨hlen, hnodup, hfree⟩ := Keys.free_of_nextMany hkeys
      obtain ⟨y, hy⟩ := exists_layout_of_keys hr hlen hnodup hfree
      exact ⟨y, (Except.ok.inj h).symm.trans hy.symm⟩

/-! ## Whatever is handed over -/

variable {supply : Supply} {file : Option Path} {form : Form} {b : Buffer}

theorem Form.seal_eq_ok_iff : form.seal text = .ok b ↔ form.wrap text = .ok b := by
  rw [Form.seal]
  cases form.wrap text <;> simp [Except.mapError]

theorem Masked.seal_eq_ok_iff {m' : Masked Buffer} :
    m.seal form = .ok m' ↔ form.wrap m.text = .ok m'.text ∧ m'.table = m.table := by
  rw [Masked.seal, ← Form.seal_eq_ok_iff]
  cases form.seal m.text with
  | error _ => simp [Except.map]
  | ok b =>
    simp only [Except.map, Except.ok.injEq]
    constructor
    · rintro rfl
      exact ⟨rfl, rfl⟩
    · rintro ⟨rfl, htable⟩
      rw [← htable]

theorem Masked.seal_cases (form : Form) (m : Masked Text) :
    (∃ m', m.seal form = .ok m') ∨ ∃ fault, m.seal form = .error (.lone fault) := by
  rw [Masked.seal, Form.seal]
  cases form.wrap m.text with
  | error fault => exact Or.inr ⟨fault, rfl⟩
  | ok b => exact Or.inl ⟨_, rfl⟩

theorem mask_of_fault {fault : SupplyFault} (h : supply.read = .error fault) :
    mask s supply file draws = (draws, ⟨[], .error (.unsupported fault)⟩) := by
  unfold mask
  rw [h]

theorem unmask_of_fault {table : Table} {fault : SupplyFault} (h : supply.read = .error fault) :
    unmask s table supply = ⟨[], .error (.unsupported fault)⟩ := by
  rw [unmask, h]

theorem mask_of_holds (h : supply.Holds text form) : mask s supply file draws =
    (maskDocument s ⟨text, file⟩ draws).map id (Outcome.andThen (Masked.seal form)) := by
  rw [mask, Supply.read_eq_ok_iff.mpr h]
  rfl

theorem result_mask_of_holds (h : supply.Holds text form) : (mask s supply file draws).2.result =
    (maskDocument s ⟨text, file⟩ draws).2.result.bind (Masked.seal form) := by
  rw [mask_of_holds h]
  rfl

theorem unmask_of_holds {table : Table} (h : supply.Holds text form) : unmask s table supply =
    (unmaskText s.strict.isOn table.stem table.entries.toList text).andThen form.seal := by
  rw [unmask, Supply.read_eq_ok_iff.mpr h]

/-- **What masking makes is made of a layout**, in the form of what was handed over. -/
theorem exists_layout_of_mask {m : Masked Buffer}
    (h : (mask s supply file draws).2.result = .ok m) :
    ∃ (text : Text) (form : Form) (y : Layout s text), supply.Holds text form ∧
      y.masked.seal form = .ok m := by
  cases hread : supply.read with
  | error fault =>
    rw [mask_of_fault hread] at h
    cases h
  | ok p =>
    obtain ⟨text, form⟩ := p
    have hholds := Supply.read_eq_ok_iff.mp hread
    rw [result_mask_of_holds hholds] at h
    cases hm : (maskDocument s ⟨text, file⟩ draws).2.result with
    | error problem =>
      rw [hm] at h
      cases h
    | ok m' =>
      rw [hm] at h
      obtain ⟨y, rfl⟩ := exists_layout_of_maskDocument hm
      exact ⟨text, form, y, hholds, h⟩

/-! ## Masking succeeds -/

/-- Settings have keys that can all be written. -/
theorem Settings.length_keys_le (s : Settings) : s.keys.length ≤ Text.maxDigits :=
  s.keyLength_mem.2.trans (by decide)

/-- A document that is read completely is masked if there are keys for its pieces. -/
theorem maskDocument_eq_ok {pieces : List Piece} {keys : List Text} {draws' : Draws}
    (hr : Reading.ofText s.markers d.text = ⟨pieces, .complete tail⟩)
    (hk : s.keys.nextMany d.text pieces.length [] draws = (draws', .ok keys)) :
    (maskDocument s d draws).1 = draws' ∧ (maskDocument s d draws).2.result =
      .ok
        { text := weave s.token pieces keys.reverse tail
          table :=
            { entries := Entries.ofList (keys.zip (pieces.map (Piece.fragment s.markers)).reverse)
              stem := s.stem
              keyLength := s.keyLength } } := by
  rw [maskDocument, hr]
  simp only [Reading.complete, hk, and_self]

theorem mask_eq_ok {m' : Masked Buffer} (h : supply.Holds text form)
    (hm : (maskDocument s ⟨text, file⟩ draws).2.result = .ok m) (hseal : m.seal form = .ok m') :
    (mask s supply file draws).2.result = .ok m' := by
  rw [result_mask_of_holds h, hm]
  exact hseal

end Standin
