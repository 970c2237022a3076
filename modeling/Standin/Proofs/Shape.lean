import Standin.Proofs.Masking
import Standin.Proofs.Stretch

/-!
# The shape of a masked document

* `alternate`: gaps with words between them; `Document.gaps`: the gaps that spans leave;
* `Masked.Shaped`: a masked text has the gaps of its document with tokens between them, and its
  table the fragments that are cut out, the last one first;
* `Layout.shaped`: what comes of a layout has this shape;
* `Masked.Shaped.exists_renaming`: two masked texts of one shape differ by the names of their keys;
* **`mask_shape`**: both for whatever masking makes.
-/

namespace Standin

/-- Gaps with a word behind each but the last. -/
def alternate : List Text → List Text → Text
  | gap :: gaps, word :: words => gap ++ word ++ alternate gaps words
  | gaps, _ => gaps.flatten

/-- The texts in front of, between and behind spans of a document. -/
def Document.gaps (d : Document) (spans : List Span) : List Text :=
  (stretches d.text.length 0 spans).map fun b => d.text.between b.1 b.2

/-- The fragments of a table, in its order. -/
def Table.fragments (t : Table) : List Text := t.entries.toList.map Prod.snd

/-- A masked text has the gaps of its document, and a token in place of each fragment. The table has
the fragments, the last one first, each with a key of its own. -/
structure Masked.Shaped (m : Masked Text) (s : Settings) (d : Document) (spans : List Span) :
    Prop where
  ordered : spans.Pairwise fun a b => a.stop ≤ b.start
  /-- There is one entry for each span. -/
  fragments : m.table.fragments.map Except.ok = spans.reverse.map d.slice
  keys_nodup : m.table.entries.keys.Nodup
  isKey : ∀ key ∈ m.table.entries.keys, IsKey s.keyLength key
  stem_eq : m.table.stem = s.stem
  keyLength_eq : m.table.keyLength = s.keyLength
  /-- Gaps and fragments are all of the document. -/
  document_eq : d.text = alternate (d.gaps spans) m.table.fragments.reverse
  text_eq : m.text = alternate (d.gaps spans) m.table.tokens.reverse

variable {s : Settings} {text tail : Text} {file : Option Path} {d : Document} {spans : List Span}

/-! ## The shape of a layout -/

theorem joined_eq_alternate (m : Markers) (tail : Text) : ∀ ps : List Piece,
    joined m ps ++ tail = alternate (ps.map Piece.gap ++ [tail]) (ps.map (Piece.fragment m))
  | [] => (List.append_nil tail).symm
  | p :: ps => by
    rw [List.map_cons, List.map_cons, List.cons_append, alternate, ← joined_eq_alternate m tail ps,
      joined_cons, List.append_assoc]
    rfl

theorem woven_eq_alternate (s : Settings) (tail : Text) : ∀ l : List Cell,
    woven s l tail =
      alternate ((l.map Cell.piece).map Piece.gap ++ [tail]) ((l.map Cell.key).map s.token)
  | [] => (List.append_nil tail).symm
  | c :: l => by
    rw [woven_cons, woven_eq_alternate s tail l]
    rfl

/-- The spans of pieces cut out their fragments. -/
theorem map_slice_spansFrom (m : Markers) (ps : List Piece) (tail : Text) (file : Option Path) :
    (Reading.spansFrom m 0 ps).map (Document.slice ⟨joined m ps ++ tail, file⟩) =
      (ps.map (Piece.fragment m)).map Except.ok := by
  apply List.ext_getElem
  · simp only [List.length_map, length_spansFrom]
  · intro i hi hi'
    simp only [List.length_map] at hi hi'
    have hslice : Document.slice ⟨[] ++ joined m ps ++ tail, file⟩ _ = .ok _ :=
      slice_of_spansFrom (List.getElem?_eq_getElem hi') (List.getElem?_eq_getElem hi)
    simp only [List.getElem_map]
    exact hslice

namespace Layout

theorem gaps_eq (y : Layout s text) (file : Option Path) :
    Document.gaps ⟨text, file⟩ (Reading.spansFrom s.markers 0 (y.cells.map Cell.piece)) =
      (y.cells.map Cell.piece).map Piece.gap ++ [y.tail] := by
  have h := between_stretches (m := s.markers) (y.cells.map Cell.piece) [] y.tail []
  rw [List.append_nil, List.nil_append, ← y.text_eq] at h
  exact h

theorem fragments_eq (y : Layout s text) : y.masked.table.fragments =
    ((y.cells.map Cell.piece).map (Piece.fragment s.markers)).reverse := by
  rw [Table.fragments, masked, List.map_reverse, List.map_map, List.map_map]
  rfl

theorem keys_eq (y : Layout s text) :
    y.masked.table.entries.keys = (y.cells.map Cell.key).reverse :=
  keysOf_entries s.markers y.cells

/-- What comes of a layout has the shape of its pieces. -/
theorem shaped (y : Layout s text) (file : Option Path) :
    y.masked.Shaped s ⟨text, file⟩ (Reading.spansFrom s.markers 0 (y.cells.map Cell.piece)) where
  ordered := pairwise_spansFrom _ _ _
  fragments := by
    have h := map_slice_spansFrom s.markers (y.cells.map Cell.piece) y.tail file
    rw [← y.text_eq] at h
    rw [y.fragments_eq, List.map_reverse, List.map_reverse, h]
  keys_nodup := y.masked.table.entries.nodup
  isKey := by
    intro key hkey
    rw [y.keys_eq, List.mem_reverse] at hkey
    obtain ⟨c, hc, rfl⟩ := List.mem_map.mp hkey
    exact y.isKey c hc
  stem_eq := rfl
  keyLength_eq := rfl
  document_eq := by
    rw [y.gaps_eq, y.fragments_eq, List.reverse_reverse, ← joined_eq_alternate]
    exact y.text_eq
  text_eq := by
    rw [y.gaps_eq, Table.tokens, y.keys_eq, List.map_reverse, List.reverse_reverse]
    exact woven_eq_alternate s y.tail y.cells

end Layout

/-! ## Other keys -/

theorem exists_map_eq {as bs : List Text} (hnodup : as.Nodup) (hlen : as.length = bs.length) :
    ∃ ρ : Text → Text, as.map ρ = bs := by
  refine ⟨fun a => bs.getD (as.idxOf a) [], ?_⟩
  apply List.ext_getElem
  · rw [List.length_map, hlen]
  · intro i hi hi'
    rw [List.getElem_map, hnodup.idxOf_getElem, List.getD_eq_getElem?_getD,
      List.getElem?_eq_getElem hi', Option.getD_some]

namespace Masked.Shaped

variable {m m' : Masked Text}

theorem fragments_eq (h : m.Shaped s d spans) (h' : m'.Shaped s d spans) :
    m'.table.fragments = m.table.fragments := by
  have hinj : Function.Injective (@Except.ok SpanFault Text) := fun _ _ => Except.ok.inj
  exact List.map_injective_iff.mpr hinj (h'.fragments.trans h.fragments.symm)

/-- Two masked texts of one shape differ by the names of their keys. -/
theorem exists_renaming (h : m.Shaped s d spans) (h' : m'.Shaped s d spans) : ∃ ρ : Text → Text,
    Set.InjOn ρ {key | key ∈ m.table.entries.keys} ∧
    m'.table.entries.toList = m.table.entries.toList.map (Prod.map ρ id) := by
  have hfragments := h.fragments_eq h'
  have hlen : m.table.entries.keys.length = m'.table.entries.keys.length := by
    have h := congrArg List.length hfragments
    simpa [Table.fragments, Entries.keys, keysOf] using h.symm
  obtain ⟨ρ, hkeys⟩ := exists_map_eq h.keys_nodup hlen
  refine ⟨ρ, List.inj_on_of_nodup_map (hkeys ▸ h'.keys_nodup), ?_⟩
  -- entries are the same if their keys and their fragments are
  have hrenamed : m.table.entries.toList.map (Prod.map ρ id) =
      m'.table.entries.keys.zip m'.table.fragments := by
    refine List.zip_of_prod ?_ ?_
    · rw [List.map_map, ← hkeys, Entries.keys, keysOf, List.map_map]
      rfl
    · rw [List.map_map, hfragments]
      rfl
  rw [hrenamed]
  exact List.zip_of_prod rfl rfl

end Masked.Shaped

/-- **Whatever masking makes has the shape of the document**: its gaps with a token in place of each
fragment, and a table of the fragments, the last one first, under keys of their own. What other
numbers make of the document has the same gaps and fragments, with other names for the keys. -/
theorem mask_shape {supply : Supply} {draws : Draws} {m : Masked Buffer}
    (h : (mask s supply file draws).2.result = .ok m) :
    ∃ (text : Text) (form : Form) (spans : List Span) (m₁ : Masked Text),
      supply.Holds text form ∧ m₁.seal form = .ok m ∧
      (Document.fragments ⟨text, file⟩ s.markers s.noticeStrays.isOn).result = .ok spans ∧
      m₁.Shaped s ⟨text, file⟩ spans ∧
      ∀ (draws' : Draws) (m' : Masked Buffer), (mask s supply file draws').2.result = .ok m' →
        ∃ (m₂ : Masked Text) (ρ : Text → Text), m₂.seal form = .ok m' ∧
          m₂.Shaped s ⟨text, file⟩ spans ∧ Set.InjOn ρ {key | key ∈ m₁.table.entries.keys} ∧
          m₂.table.entries.toList = m₁.table.entries.toList.map (Prod.map ρ id) := by
  obtain ⟨text, form, y, hholds, hseal⟩ := exists_layout_of_mask h
  have hshaped := y.shaped file
  refine ⟨text, form, _, y.masked, hholds, hseal, ?_, hshaped, fun draws' m' h' => ?_⟩
  · rw [Document.fragments, y.reading]
    rfl
  · obtain ⟨text', form', z, hholds', hseal'⟩ := exists_layout_of_mask h'
    -- the document is the same, so it is read as the same pieces
    have hread :=
      (Supply.read_eq_ok_iff.mpr hholds').symm.trans (Supply.read_eq_ok_iff.mpr hholds)
    obtain ⟨rfl, rfl⟩ := Prod.mk.inj (Except.ok.inj hread)
    have hpieces : z.cells.map Cell.piece = y.cells.map Cell.piece :=
      congrArg Reading.pieces (z.reading.symm.trans y.reading)
    have hshaped' := z.shaped file
    rw [hpieces] at hshaped'
    obtain ⟨ρ, hρ, hentries⟩ := hshaped.exists_renaming hshaped'
    exact ⟨z.masked, ρ, hseal', hshaped', hρ, hentries⟩

/-- Two fragments without a gap between them, masked with numbers in order, and with others that
come twice each. -/
theorem mask_shape_adjacent :
    let s := { Settings.standard with keyLength := 1, keyLength_mem := by decide }
    let chars := ['\x7b', '%', 'a', '%', '\x7d', '\x7b', '%', 'b', '%', '\x7d', 'c']
    let supply := Supply.buffer (.octets (Utf8.encode chars))
    ∃ m m', (mask s supply none ⟨id, 0⟩).2.result = .ok m ∧
      (mask s supply none ⟨fun n => 5 - n / 2, 0⟩).2.result = .ok m' ∧
      ∃ (text : Text) (form : Form) (spans : List Span) (m₁ m₂ : Masked Text) (ρ : Text → Text),
        supply.Holds text form ∧ m₁.seal form = .ok m ∧ m₂.seal form = .ok m' ∧
        m₁.Shaped s ⟨text, none⟩ spans ∧ m₂.Shaped s ⟨text, none⟩ spans ∧
        m₂.table.entries.toList = m₁.table.entries.toList.map (Prod.map ρ id) := by
  intro s chars supply
  have hread : Reading.ofText s.markers (Text.ofChars chars) =
      ⟨[⟨[], ['a']⟩, ⟨[], ['b']⟩], .complete ['c']⟩ := by
    cbv
  have hkeys : s.keys.nextMany (Text.ofChars chars) 2 [] ⟨id, 0⟩ =
      (⟨id, 2⟩, .ok [['0'], ['1']]) := by
    cbv
  have hkeys' : s.keys.nextMany (Text.ofChars chars) 2 [] ⟨fun n => 5 - n / 2, 0⟩ =
      (⟨fun n => 5 - n / 2, 3⟩, .ok [['5'], ['4']]) := by
    cbv
  have hm : (mask s supply none ⟨id, 0⟩).2.result = .ok _ :=
    mask_eq_ok (.octets chars) (maskDocument_eq_ok hread hkeys).2 rfl
  have hm' : (mask s supply none ⟨fun n => 5 - n / 2, 0⟩).2.result = .ok _ :=
    mask_eq_ok (.octets chars) (maskDocument_eq_ok hread hkeys').2 rfl
  obtain ⟨text, form, spans, m₁, htext, hm₁, -, hshaped, hother⟩ := mask_shape hm
  obtain ⟨m₂, ρ, hm₂, hshaped', -, hentries⟩ := hother _ _ hm'
  exact ⟨_, _, hm, hm', text, form, spans, m₁, m₂, ρ, htext, hm₁, hm₂, hshaped, hshaped', hentries⟩

end Standin
