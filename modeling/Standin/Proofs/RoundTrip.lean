import Standin.Proofs.Masking

/-!
# Unmasking what was masked

The table of a masked document has the last fragment first. When an entry is put back, only its own
token and tokens in front of it are left, so its token is found where masking has put it.

* `cut_woven_token`: one entry finds its token;
* `unmaskText_woven`: all entries do, one after another;
* **`unmask_mask`**: a masked document is unmasked to what was handed over.
-/

namespace Standin

variable {s : Settings} {l : List Cell} {tail text gap key : Text}

/-- Behind woven text without it, a token is found at the end. -/
theorem cut_woven_token (hk : IsKey s.keyLength key) (hno : ¬ s.token key <:+: woven s l gap) :
    Text.cut (s.token key) (woven s l gap ++ s.token key ++ tail) = some (woven s l gap, tail) := by
  refine Text.cut_eq_some_iff.mpr ⟨rfl, fun p hocc => ?_⟩
  by_contra hlt
  have hle := Settings.le_of_occursAt_token hk hocc
    (Text.occursAt_append_length (woven s l gap) (s.token key) tail) (Nat.lt_of_not_le hlt)
  rw [List.append_assoc] at hocc
  rw [← Settings.length_token hk] at hle
  exact hno (hocc.of_append_left hle).isInfix

theorem unmaskText_woven (strict : Bool) (hkeys : ∀ c ∈ l, IsKey s.keyLength c.key)
    (hnodup : (l.map Cell.key).Nodup) (htext : text = joined s.markers (l.map Cell.piece) ++ tail)
    (habsent : ∀ c ∈ l, ¬ s.token c.key <:+: text) :
    unmaskText strict s.stem (l.map (Cell.entry s.markers)).reverse (woven s l tail) =
      ⟨[], .ok text⟩ := by
  induction l using List.reverseRecOn generalizing tail with
  | nil =>
    rw [htext]
    rfl
  | append_singleton l c ih =>
    have hc : c ∈ l ++ [c] := List.mem_append_right l (List.mem_singleton_self c)
    have hl : ∀ d ∈ l, d ∈ l ++ [c] := fun d hd => List.mem_append_left [c] hd
    rw [List.map_append, List.map_singleton, List.nodup_append] at hnodup
    have hparts : text = joined s.markers (l.map Cell.piece) ++
        (c.piece.gap ++ c.piece.fragment s.markers ++ tail) := by
      rw [htext, List.map_append, joined, List.flatMap_append, List.append_assoc]
      simp [joined, Piece.text]
    -- the token of the last cell is in no gap, for the gaps are parts of the text
    have hno : ¬ s.token c.key <:+: woven s l c.piece.gap := by
      have hgap : ∀ {g : Text}, g <:+: text → ¬ s.token c.key <:+: g := fun hg hin =>
        habsent c hc (hin.trans hg)
      refine not_token_isInfix_woven (hkeys c hc) (fun d hd => hkeys d (hl d hd)) ?_ ?_ ?_
      · intro hmem
        exact hnodup.2.2 c.key hmem c.key (List.mem_singleton_self _) rfl
      · intro d hd
        refine hgap ?_
        rw [hparts]
        exact (gap_isInfix_joined (List.mem_map_of_mem hd)).trans (List.prefix_append _ _).isInfix
      · refine hgap ?_
        rw [hparts, List.append_assoc]
        exact (List.prefix_append c.piece.gap _).isInfix.trans (List.suffix_append _ _).isInfix
    have hwoven : woven s (l ++ [c]) tail = woven s l c.piece.gap ++ s.token c.key ++ tail := by
      rw [woven_append, woven_cons, woven_nil, woven_tail_append, woven_tail_append]
    rw [List.map_append, List.map_singleton, List.reverse_append, List.reverse_singleton,
      List.singleton_append, Cell.entry, unmaskText, hwoven, ← Settings.token,
      cut_woven_token (hkeys c hc) hno]
    have hback : woven s l c.piece.gap ++ c.piece.fragment s.markers ++ tail =
        woven s l (c.piece.gap ++ c.piece.fragment s.markers ++ tail) := by
      rw [woven_tail_append, woven_tail_append]
    simp only [hback]
    exact ih (fun d hd => hkeys d (hl d hd)) hnodup.1 hparts fun d hd => habsent d (hl d hd)

theorem Layout.unmaskText_masked (y : Layout s text) (strict : Bool) :
    unmaskText strict y.masked.table.stem y.masked.table.entries.toList y.masked.text =
      ⟨[], .ok text⟩ :=
  unmaskText_woven strict y.isKey y.nodup y.text_eq y.absent

theorem exists_buffer_of_mask {supply : Supply} {file : Option Path} {draws : Draws}
    {m : Masked Buffer} (h : (mask s supply file draws).2.result = .ok m) :
    ∃ b, supply = .buffer b ∧ ∀ s', unmask s' m.table (.buffer m.text) = ⟨[], .ok b⟩ := by
  obtain ⟨text, form, y, hholds, hseal⟩ := exists_layout_of_mask h
  obtain ⟨b, hb, rfl⟩ := Supply.holds_iff_wrap.mp hholds
  obtain ⟨hmasked, htable⟩ := Masked.seal_eq_ok_iff.mp hseal
  refine ⟨b, rfl, fun s' => ?_⟩
  rw [unmask_of_holds (Supply.holds_iff_wrap.mpr ⟨_, hmasked, rfl⟩), htable, y.unmaskText_masked]
  exact congrArg (Outcome.mk []) (Form.seal_eq_ok_iff.mpr hb)

/-- **A masked document is unmasked to what was handed over**, without a notice, whatever the
settings are that it is unmasked with. -/
theorem unmask_mask {s' : Settings} {supply : Supply} {file : Option Path} {draws : Draws}
    {m : Masked Buffer} (h : (mask s supply file draws).2.result = .ok m) :
    ∃ b, supply = .buffer b ∧ unmask s' m.table (.buffer m.text) = ⟨[], .ok b⟩ := by
  obtain ⟨b, hb, hunmask⟩ := exists_buffer_of_mask h
  exact ⟨b, hb, hunmask s'⟩

/-- A document in octets that holds a look-alike of its first token, unmasked with keys of another
length. -/
theorem unmask_mask_lookAlike :
    let s := { Settings.standard with keyLength := 1, keyLength_mem := by decide }
    let chars := ['é', '\x7b', '%', 'a', '%', '\x7d', 'F', 'R', 'A', 'G', 'M', 'E', 'N', 'T', '0']
    let supply := Supply.buffer (.octets (Utf8.encode chars))
    ∃ m, (mask s supply none ⟨id, 0⟩).2.result = .ok m ∧
      ∃ b, supply = .buffer b ∧ unmask .standard m.table (.buffer m.text) = ⟨[], .ok b⟩ := by
  intro s chars supply
  have hread : Reading.ofText s.markers (Text.ofChars chars) =
      ⟨[⟨['é'], ['a']⟩], .complete (s.token ['0'])⟩ := by
    cbv
  have hkeys : s.keys.nextMany (Text.ofChars chars) 1 [] ⟨id, 0⟩ = (⟨id, 2⟩, .ok [['1']]) := by
    cbv
  have hm : (mask s supply none ⟨id, 0⟩).2.result = .ok _ :=
    mask_eq_ok (.octets chars) (maskDocument_eq_ok hread hkeys).2 rfl
  exact ⟨_, hm, unmask_mask hm⟩

end Standin
