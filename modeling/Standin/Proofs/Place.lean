import Standin.Proofs.Fragments
import Standin.Proofs.Masking

/-!
# Where tokens stand

* `tokenPlaces`: where tokens stand that are put in place of spans of a document;
* `Layout.occursAt_token_iff`: a token stands in the text of its layout at one place only;
* **`token_stands_once`**: a token of a table stands in the masked text where its fragment was cut
  out, nowhere else, and nowhere in the document.
-/

namespace Standin

/-- The places of tokens of `width` characters that stand for spans, when `gone` characters were cut
out before the spans and `put` characters were put in. -/
def tokenPlaces (width : Nat) : (gone put : Nat) → List Span → List Nat
  | _, _, [] => []
  | gone, put, p :: ps =>
    (p.start - gone + put) :: tokenPlaces width (gone + p.length) (put + width) ps

variable {s : Settings} {c : Cell} {l : List Cell} {text key : Text} {p q i : Nat}

/-! ## Spans and fragments -/

theorem tokenPlaces_spansFrom : ∀ {l : List Cell} {pos gone put : Nat}, gone ≤ pos →
    tokenPlaces s.tokenLength gone put (Reading.spansFrom s.markers pos (l.map Cell.piece)) =
      startsFrom s (pos - gone + put) l
  | [], _, _, _, _ => rfl
  | c :: l, pos, gone, put, h => by
    have hspan : (Span.ofWord (pos + c.piece.gap.length) (c.piece.fragment s.markers)
        (c.piece.fragment_ne s.markers)).length = (c.piece.fragment s.markers).length :=
      Nat.add_sub_cancel_left _ _
    have hlen : c.piece.length s.markers =
      c.piece.gap.length + (c.piece.fragment s.markers).length := rfl
    rw [List.map_cons, Reading.spansFrom, tokenPlaces, startsFrom, hspan,
      tokenPlaces_spansFrom (by omega)]
    refine congrArg₂ List.cons ?_ (congrArg (startsFrom s · l) ?_)
    · simp only [Span.ofWord]
      omega
    · omega

/-! ## The one place of a token -/

theorem mem_zip_iff_of_nodup {α β : Type} {a : α} {b x : β} :
    ∀ {as : List α} {bs : List β} {i : Nat}, as.Nodup → as[i]? = some a → bs[i]? = some b →
      ((a, x) ∈ as.zip bs ↔ x = b)
  | a' :: as, b' :: bs, 0, hnodup, ha, hb => by
    obtain rfl := Option.some.inj ha
    obtain rfl := Option.some.inj hb
    rw [List.zip_cons_cons, List.mem_cons, Prod.mk.injEq]
    constructor
    · rintro (⟨-, hx⟩ | hmem)
      · exact hx
      · exact absurd (List.of_mem_zip hmem).1 (List.nodup_cons.mp hnodup).1
    · rintro rfl
      exact Or.inl ⟨rfl, rfl⟩
  | a' :: as, b' :: bs, i + 1, hnodup, ha, hb => by
    rw [List.getElem?_cons_succ] at ha hb
    have hne : a ≠ a' := by
      rintro rfl
      exact (List.nodup_cons.mp hnodup).1 (List.mem_of_getElem? ha)
    rw [List.zip_cons_cons, List.mem_cons, Prod.mk.injEq,
      mem_zip_iff_of_nodup (List.nodup_cons.mp hnodup).2 ha hb]
    simp [hne]

/-- A token stands in the text of its layout at one place only. -/
theorem Layout.occursAt_token_iff (y : Layout s text) (hc : y.cells[i]? = some c)
    (hq : (startsFrom s 0 y.cells)[i]? = some q) :
    Text.OccursAt (s.token c.key) y.masked.text p ↔ p = q := by
  have hmem := List.mem_of_getElem? hc
  have habsent : ∀ {g : Text}, g <:+: text → ¬ s.token c.key <:+: g := fun hg hin =>
    y.absent c hmem (hin.trans hg)
  have hkey : (y.cells.map Cell.key)[i]? = some c.key := by
    rw [List.getElem?_map, hc, Option.map_some]
  rw [masked, occursAt_woven_iff (y.isKey c hmem) 0 y.isKey
    (fun d hd => habsent (y.gap_isInfix hd)) (habsent y.tail_isInfix), Nat.zero_add]
  exact mem_zip_iff_of_nodup y.nodup hkey hq

/-! ## Every token of a table -/

/-- A masked text has one token for each span of the document, the last span first in the table. A
token stands in the masked text once, where the fragment of its entry was cut out, and nowhere in
the document. -/
structure Masked.Placed (m : Masked Text) (d : Document) (spans : List Span) : Prop where
  size_eq : m.table.size = spans.length
  entry : ∀ {i : Nat} {key fragment : Text},
    m.table.entries.toList.reverse[i]? = some (key, fragment) → ∃ span place,
      spans[i]? = some span ∧ d.slice span = .ok fragment ∧
      (tokenPlaces (m.table.token key).length 0 0 spans)[i]? = some place ∧
      (∀ p, Text.OccursAt (m.table.token key) m.text p ↔ p = place) ∧
      ¬ m.table.token key <:+: d.text

theorem Layout.placed (y : Layout s text) (file : Option Path) :
    y.masked.Placed ⟨text, file⟩ (Reading.spansFrom s.markers 0 (y.cells.map Cell.piece)) := by
  have hlen : (Reading.spansFrom s.markers 0 (y.cells.map Cell.piece)).length = y.cells.length := by
    rw [length_spansFrom, List.length_map]
  refine ⟨by rw [hlen, Table.size, masked, List.length_reverse, List.length_map], ?_⟩
  intro i key fragment hi
  rw [masked, List.reverse_reverse, List.getElem?_map] at hi
  obtain ⟨c, hc, he⟩ := Option.map_eq_some_iff.mp hi
  obtain ⟨rfl, rfl⟩ := Prod.mk.inj he
  have hmem := List.mem_of_getElem? hc
  have hil : i < y.cells.length := (List.getElem?_eq_some_iff.mp hc).1
  have hspan := List.getElem?_eq_getElem (hlen ▸ hil)
  have hplace := List.getElem?_eq_getElem (length_startsFrom s 0 y.cells ▸ hil)
  refine ⟨_, _, hspan, ?_, ?_, fun p => y.occursAt_token_iff hc hplace, y.absent c hmem⟩
  · have hpiece : (y.cells.map Cell.piece)[i]? = some c.piece := by
      rw [List.getElem?_map, hc, Option.map_some]
    have hslice : Document.slice ⟨[] ++ joined s.markers _ ++ y.tail, file⟩ _ = .ok _ :=
      slice_of_spansFrom hpiece hspan
    rwa [List.nil_append, ← y.text_eq] at hslice
  · have htoken : (s.token c.key).length = s.tokenLength := Settings.length_token (y.isKey c hmem)
    change (tokenPlaces (s.token c.key).length 0 0 _)[i]? = _
    rw [htoken, tokenPlaces_spansFrom (Nat.le_refl 0)]
    exact hplace

/-- **A token of a table stands in the masked text once**, where its fragment was cut out, and
nowhere in the document. -/
theorem token_stands_once {supply : Supply} {file : Option Path} {draws : Draws} {m : Masked Buffer}
    (h : (mask s supply file draws).2.result = .ok m) :
    ∃ (text : Text) (form : Form) (m' : Masked Text) (spans : List Span),
      supply.Holds text form ∧ m'.seal form = .ok m ∧
      (Document.fragments ⟨text, file⟩ s.markers s.noticeStrays.isOn).result = .ok spans ∧
      m'.Placed ⟨text, file⟩ spans := by
  obtain ⟨text, form, y, hholds, hseal⟩ := exists_layout_of_mask h
  refine ⟨text, form, y.masked, _, hholds, hseal, ?_, y.placed file⟩
  rw [Document.fragments, y.reading]
  rfl

/-- A stem that overlaps itself, behind a part of it and in front of a digit. -/
theorem token_stands_once_amongLookAlikes :
    let s :=
      { Settings.standard with
        keyLength := 1, stem := ['A', 'A']
        keyLength_mem := by decide, stem_ne := by decide, stem_digitFree := by decide +kernel
        opening_apart := by decide, closing_apart := by decide }
    let text : Text := ['A', '\x7b', '%', '%', '\x7d', '\x7b', '%', 'b', '%', '\x7d', '1']
    let supply := Supply.buffer (.text text)
    ∃ m, (mask s supply none ⟨id, 0⟩).2.result = .ok m ∧
      ∃ (text : Text) (form : Form) (m' : Masked Text) (spans : List Span),
        supply.Holds text form ∧ m'.seal form = .ok m ∧
        (Document.fragments ⟨text, none⟩ s.markers s.noticeStrays.isOn).result = .ok spans ∧
        m'.Placed ⟨text, none⟩ spans := by
  intro s text supply
  have hread : Reading.ofText s.markers text = ⟨[⟨['A'], []⟩, ⟨[], ['b']⟩], .complete ['1']⟩ := by
    cbv
  have hkeys : s.keys.nextMany text 2 [] ⟨id, 0⟩ = (⟨id, 2⟩, .ok [['0'], ['1']]) := by
    cbv
  have hm : (mask s supply none ⟨id, 0⟩).2.result = .ok _ :=
    mask_eq_ok (.text text) (maskDocument_eq_ok hread hkeys).2 rfl
  exact ⟨_, hm, token_stands_once hm⟩

end Standin
