import Standin.Proofs.Masking

/-!
# Seams between text and tokens

A gap holds no opening marker, but a marker may come about where a gap and a token meet. Settings
are checked for a stem and a marker of which one is part of the other, and this does not rule it
out.

* `Settings.Seamless`: no part of a token goes together with plain text to an opening marker;
  `Settings.Seamless.of_foreign`: in particular if the marker has no character of a token;
* `not_opening_isInfix_woven`: with seamless settings, woven text holds no opening marker;
* `exists_mask_of_body`: a document with one fragment is masked with any key that is free;
* **`seamless_iff`**: masked text never holds an opening marker, and is masked to itself, just when
  the settings are seamless;
* `opening_isInfix_masked`: settings that are not.
-/

namespace Standin

open Text (OccursAt Apart)

variable {u v w x o gap tail : Text}

/-! ## Words that overlap themselves -/

namespace Text

/-- A word that goes on with the period `u` also goes on with a word that commutes with it. -/
theorem prefix_append_of_commute {y : Text} (hne : u ≠ []) (hu : u <+: w) (hw : w <+: u ++ w)
    (hc : u ++ x = x ++ u) (hy : y <+: w) : y <+: x ++ w := by
  by_cases hle : y.length ≤ u.length
  · have hyu : y <+: u := List.prefix_of_prefix_length_le hy hu hle
    have hxu : x ++ u <+: x ++ w := (List.prefix_append_right_inj x).mpr hu
    exact (hyu.trans (List.prefix_append u x)).trans (hc ▸ hxu)
  · obtain ⟨z, rfl⟩ := List.prefix_of_prefix_length_le hu hy (by omega)
    have hz : z <+: w := (List.prefix_append_right_inj u).mp (hy.trans hw)
    have hlt : z.length < (u ++ z).length := by
      have := List.length_pos_iff.mpr hne
      rw [List.length_append]
      omega
    have hstep : u ++ z <+: x ++ (u ++ w) := by
      rw [← List.append_assoc, ← hc, List.append_assoc]
      exact (List.prefix_append_right_inj u).mpr (prefix_append_of_commute hne hu hw hc hz)
    refine List.prefix_of_prefix_length_le hstep ((List.prefix_append_right_inj x).mpr hw) ?_
    have := hy.length_le
    simp only [List.length_append] at this ⊢
    omega
termination_by y.length

theorem find?_append_of_not_prefix (ho : o = u ++ v) (hv : ¬ v <+: o) :
    find? o (u ++ o) = some u.length := by
  refine find?_eq_some_iff.mpr ⟨?_, fun q hq => ?_⟩
  · rw [OccursAt, List.drop_left]
  by_contra hlt
  have hlt : q < u.length := Nat.lt_of_not_le hlt
  refine hv ?_
  obtain ⟨x, u', rfl, hx⟩ : ∃ x u', u = x ++ u' ∧ x.length = q :=
    ⟨u.take q, u.drop q, (List.take_append_drop q u).symm, by rw [List.length_take]; omega⟩
  have hne : u' ≠ [] := by
    rintro rfl
    rw [List.append_nil] at hlt
    omega
  -- the occurrence in between gives the word the period `u'`
  have hperiod : o <+: u' ++ o := by
    rw [OccursAt, List.append_assoc, ← hx, List.drop_left] at hq
    exact hq
  have hxu : x ++ u' <+: o := ho ▸ List.prefix_append _ v
  have hu : u' <+: o := List.prefix_of_prefix_length_le (List.prefix_append u' o) hperiod (by
    have := hxu.length_le
    rw [List.length_append] at this
    omega)
  have hc : u' ++ x = x ++ u' := by
    obtain ⟨z, rfl⟩ := hu
    have hz : z <+: u' ++ z := (List.prefix_append_right_inj u').mp hperiod
    have hxz : x <+: z :=
      List.prefix_of_prefix_length_le ((List.prefix_append x u').trans hxu) hz (by
        have := hxu.length_le
        simp only [List.length_append] at this
        omega)
    have hux : u' ++ x <+: u' ++ z := (List.prefix_append_right_inj u').mpr hxz
    have hlen : (u' ++ x).length = (x ++ u').length := by
      rw [List.length_append, List.length_append, Nat.add_comm]
    exact (List.prefix_of_prefix_length_le hux hxu hlen.le).eq_of_length hlen
  have hself : o <+: (x ++ u') ++ o := by
    rw [List.append_assoc]
    exact (prefix_append_of_commute hne hu hperiod hc List.prefix_rfl).trans
      ((List.prefix_append_right_inj x).mpr hperiod)
  have hcancel : (x ++ u') ++ v <+: (x ++ u') ++ o := ho ▸ hself
  exact (List.prefix_append_right_inj _).mp hcancel

end Text

/-! ## Seamless settings -/

namespace Settings

/-- No part of a token goes together with plain text to an opening marker. -/
structure Seamless (s : Settings) : Prop where
  /-- An end of the marker that begins the stem begins the marker, too, so that the marker in the
  document would have been found earlier. -/
  front : ∀ {v}, v ≠ [] → v <:+ s.markers.opening.symbol → v <+: s.stem →
    v <+: s.markers.opening.symbol
  inside : ∀ {key}, IsKey s.keyLength key → ¬ s.markers.opening.symbol <:+: s.token key
  /-- Where the end of a token and what follows make a marker, the closing marker in front made the
  token a part of the document, so that its key was not free. -/
  back : ∀ {key w z}, IsKey s.keyLength key → s.markers.opening.symbol = w ++ z → w ≠ [] →
    w <:+ s.token key → s.token key <:+: s.markers.closing.symbol ++ z

variable {s : Settings} {key : Text} {l : List Cell}

theorem not_stem_isInfix_opening (s : Settings) : ¬ s.stem <:+: s.markers.opening.symbol := by
  have h := s.opening_apart
  rw [overlaps, Bool.or_eq_false_iff] at h
  exact Text.contains_eq_false_iff.mp h.1

theorem not_stem_isInfix_closing (s : Settings) : ¬ s.stem <:+: s.markers.closing.symbol := by
  have h := s.closing_apart
  rw [overlaps, Bool.or_eq_false_iff] at h
  exact Text.contains_eq_false_iff.mp h.1

/-- What an opening marker has of a token that stands behind it is the beginning of the stem. -/
theorem prefix_stem_of_prefix_token {rest : Text} (hv : v <+: s.token key ++ rest)
    (ho : v <:+: s.markers.opening.symbol) : v <+: s.stem := by
  have hstem : s.stem <+: s.token key ++ rest :=
    (List.prefix_append s.stem key).trans (List.prefix_append _ rest)
  rcases List.prefix_or_prefix_of_prefix hv hstem with h | h
  · exact h
  · exact absurd (h.isInfix.trans ho) s.not_stem_isInfix_opening

namespace Seamless

/-- Settings are seamless if the opening marker has no character of a token. -/
theorem of_foreign (h : ∀ c ∈ s.markers.opening.symbol, c.isDigit = false ∧ c ∉ s.stem) :
    s.Seamless := by
  have hno : ∀ {key v : Text}, IsKey s.keyLength key → v ≠ [] →
      v <:+: s.markers.opening.symbol → ¬ v <:+: s.token key := by
    intro key v hk hne hv hin
    obtain ⟨c, hc⟩ := List.exists_mem_of_ne_nil v hne
    obtain ⟨hdigit, hstem⟩ := h c (hv.subset hc)
    rcases mem_token hk (hin.subset hc) with hc | hc
    · exact hstem hc
    · rw [hdigit] at hc
      cases hc
  refine ⟨fun hne hv hstem => ?_, fun hk hin => ?_, fun hk ho hne hw => ?_⟩
  · obtain ⟨c, hc⟩ := List.exists_mem_of_ne_nil _ hne
    exact absurd (hstem.subset hc) (h c (hv.subset hc)).2
  · exact absurd hin (hno hk s.markers.opening.symbol_ne List.infix_rfl)
  · exact absurd hw.isInfix (hno hk hne (ho ▸ (List.prefix_append _ _).isInfix))

example : Settings.standard.Seamless := of_foreign fun c hc => by
  rcases List.mem_pair.mp hc with rfl | rfl <;> exact ⟨by decide, by decide⟩

theorem prefix_opening (hs : s.Seamless) {rest : Text} (hv : v <+: s.token key ++ rest)
    (ho : v <:+ s.markers.opening.symbol) : v <+: s.markers.opening.symbol := by
  by_cases hne : v = []
  · rw [hne]
    exact List.nil_prefix
  · exact hs.front hne ho (prefix_stem_of_prefix_token hv ho.isInfix)

theorem length_le_of_occursAt (hs : s.Seamless) {rest : Text} {p : Nat}
    (hgap : Text.find? s.markers.opening.symbol (gap ++ s.markers.opening.symbol) = some gap.length)
    (hp : OccursAt s.markers.opening.symbol (gap ++ (s.token key ++ rest)) p) : gap.length ≤ p := by
  by_contra hlt
  have hmin := (Text.find?_eq_some_iff.mp hgap).2
  rw [OccursAt, List.drop_append_of_le_length (by omega)] at hp
  rcases List.prefix_or_prefix_of_prefix hp (List.prefix_append (gap.drop p) _) with h | ⟨v, hv⟩
  · have hocc : OccursAt s.markers.opening.symbol gap p := h
    exact hlt (hmin p (hocc.append_right _))
  · -- the marker would stand in the document at the same place
    rw [← hv, List.prefix_append_right_inj] at hp
    have happ := (List.prefix_append_right_inj (gap.drop p)).mpr (hs.prefix_opening hp ⟨_, hv⟩)
    refine hlt (hmin p ?_)
    rw [OccursAt, List.drop_append_of_le_length (by omega)]
    rwa [hv] at happ

theorem prefix_joined_of_prefix_woven (hs : s.Seamless) {z : Text} (hz : z <+: woven s l tail)
    (ho : z <:+ s.markers.opening.symbol) :
    z <+: joined s.markers (l.map Cell.piece) ++ tail := by
  cases l with
  | nil => exact hz
  | cons c l =>
    rw [List.map_cons, joined_cons_append]
    rw [woven_cons, List.append_assoc] at hz
    rcases List.prefix_or_prefix_of_prefix hz (List.prefix_append c.piece.gap _) with h | ⟨v, rfl⟩
    · exact h.trans (List.prefix_append _ _)
    · rw [List.prefix_append_right_inj] at hz ⊢
      exact (hs.prefix_opening hz ((List.suffix_append _ v).trans ho)).trans
        (List.prefix_append _ _)

/-- **With seamless settings, woven text holds no opening marker.** -/
theorem not_opening_isInfix_woven (hs : s.Seamless) (ht : ¬ s.markers.opening.symbol <:+: tail) :
    ∀ {l : List Cell}, (∀ c ∈ l, c.piece.WellFormed s.markers) →
      (∀ c ∈ l, IsKey s.keyLength c.key) →
      (∀ c ∈ l, ¬ s.token c.key <:+: joined s.markers (l.map Cell.piece) ++ tail) →
      ¬ s.markers.opening.symbol <:+: woven s l tail
  | [], _, _, _ => ht
  | c :: l, hwf, hkeys, habsent => by
    have hsuffix : s.markers.closing.symbol ++ (joined s.markers (l.map Cell.piece) ++ tail) <:+
      joined s.markers ((c :: l).map Cell.piece) ++ tail := closing_isSuffix_joined
    have ih : ¬ s.markers.opening.symbol <:+: woven s l tail := by
      refine not_opening_isInfix_woven hs ht (fun d hd => hwf d (List.mem_cons_of_mem c hd))
        (fun d hd => hkeys d (List.mem_cons_of_mem c hd)) fun d hd hin => ?_
      have hrest := hin.trans (List.suffix_append s.markers.closing.symbol _).isInfix
      exact habsent d (List.mem_cons_of_mem c hd) (hrest.trans hsuffix.isInfix)
    have hc := hkeys c List.mem_cons_self
    rw [Text.isInfix_iff_occursAt, woven_cons, List.append_assoc]
    rintro ⟨p, hp⟩
    have hle := hs.length_le_of_occursAt (hwf c List.mem_cons_self).gap_first hp
    have hq := hp.of_append_right hle
    rcases Text.occursAt_append hq with h | ⟨-, h⟩ | ⟨hlt, hgt⟩
    · exact hs.inside hc h.isInfix
    · exact ih h.isInfix
    · -- the marker is made of the end of the token and the beginning of what follows
      rw [OccursAt, List.drop_append_of_le_length hlt.le] at hq
      obtain ⟨z, hz⟩ := List.prefix_of_prefix_length_le (List.prefix_append _ _) hq (by
        rw [List.length_drop]
        omega)
      rw [← hz, List.prefix_append_right_inj] at hq
      have hne : (s.token c.key).drop (p - c.piece.gap.length) ≠ [] := by
        rw [Ne, List.drop_eq_nil_iff]
        omega
      have hback := hs.back hc hz.symm hne (List.drop_suffix _ _)
      have hjoin := hs.prefix_joined_of_prefix_woven hq ⟨_, hz⟩
      have hrest := (List.prefix_append_right_inj s.markers.closing.symbol).mpr hjoin
      exact habsent c List.mem_cons_self ((hback.trans hrest.isInfix).trans hsuffix.isInfix)

end Seamless

/-! ## Documents with one fragment -/

theorem exists_separator (s : Settings) : ∃ x, (∀ {key}, IsKey s.keyLength key → x ∉ s.token key) ∧
    s.markers.opening.symbol.head? ≠ some x ∧ s.markers.closing.symbol.head? ≠ some x := by
  have hsep : ∀ {x : CodePoint}, Text.isDigit x = true → x.isDigit = false →
      ∀ {key}, IsKey s.keyLength key → x ∉ s.token key := by
    intro x hx hx' key hk hmem
    rcases mem_token hk hmem with h | h
    · exact List.any_eq_false.mp s.stem_digitFree x h hx
    · rw [hx'] at h
      cases h
  have h₁ := @hsep '¹' (by decide +kernel) (by decide)
  have h₂ := @hsep '²' (by decide +kernel) (by decide)
  have h₃ := @hsep '³' (by decide +kernel) (by decide)
  generalize s.markers.opening.symbol.head? = a
  generalize s.markers.closing.symbol.head? = b
  by_contra hno
  have hbad : ∀ {x : CodePoint}, (∀ {key}, IsKey s.keyLength key → x ∉ s.token key) →
      a = some x ∨ b = some x := by
    intro x hx
    by_contra h
    exact hno ⟨x, hx, fun ha => h (Or.inl ha), fun hb => h (Or.inr hb)⟩
  rcases hbad h₁ with h | h <;> rcases hbad h₂ with h' | h' <;> rcases hbad h₃ with h'' | h'' <;>
    simp_all

theorem not_token_isInfix_opening (s : Settings) (key : Text) :
    ¬ s.token key <:+: s.markers.opening.symbol := fun h =>
  s.not_stem_isInfix_opening ((List.prefix_append s.stem key).isInfix.trans h)

theorem not_token_isInfix_closing (s : Settings) (key : Text) :
    ¬ s.token key <:+: s.markers.closing.symbol := fun h =>
  s.not_stem_isInfix_closing ((List.prefix_append s.stem key).isInfix.trans h)

theorem exists_mask_of_body (hk : IsKey s.keyLength key)
    (hgap : Text.find? s.markers.opening.symbol (gap ++ s.markers.opening.symbol) = some gap.length)
    (htail : ¬ s.markers.opening.symbol <:+: tail)
    (hleft : ¬ s.token key <:+: gap ++ s.markers.opening.symbol)
    (hright : ¬ s.token key <:+: s.markers.closing.symbol ++ tail) :
    ∃ text draws table, (mask s (.buffer (.text text)) none draws).2.result =
      .ok ⟨.text (gap ++ s.token key ++ tail), table⟩ := by
  obtain ⟨x, hx, hxo, hxc⟩ := s.exists_separator
  have hhead : ∀ {w r : Text}, w ≠ [] → w.head? ≠ some x → ¬ w <+: x :: r := by
    intro w r hne hw hpre
    obtain ⟨c, w, rfl⟩ := List.exists_cons_of_ne_nil hne
    obtain ⟨rfl, -⟩ := List.cons_prefix_cons.mp hpre
    exact hw rfl
  have hwf : (⟨gap, [x]⟩ : Piece).WellFormed s.markers := by
    refine ⟨hgap, Text.find?_eq_some_iff.mpr ⟨List.prefix_rfl, fun q hq => ?_⟩, fun hin => ?_⟩
    · cases q with
      | zero => exact absurd hq (hhead s.markers.closing.symbol_ne hxc)
      | succ q => exact Nat.succ_le_succ (Nat.zero_le q)
    · rcases List.infix_cons_iff.mp hin with h | h
      · exact hhead s.markers.opening.symbol_ne hxo h
      · exact s.markers.opening.symbol_ne (List.infix_nil.mp h)
  have habsent : ¬ s.token key <:+: joined s.markers [⟨gap, [x]⟩] ++ tail := by
    have hapart : Apart (s.token key) [x] := by
      refine Text.apart_of_ends rfl rfl (hx hk) (hx hk) fun hin => ?_
      obtain ⟨c, hc⟩ := List.exists_mem_of_ne_nil _ (s.token_ne_nil key)
      exact hx hk (List.mem_singleton.mp (hin.subset hc) ▸ hc)
    have htext : joined s.markers [⟨gap, [x]⟩] ++ tail =
        (gap ++ s.markers.opening.symbol) ++ [x] ++ (s.markers.closing.symbol ++ tail) := by
      simp [joined, Piece.text, Piece.fragment]
    rw [htext, Text.isInfix_iff_of_apart hapart]
    rintro (h | h)
    · exact hleft h
    · exact hright h
  obtain ⟨n, hn, rfl⟩ := Keys.exists_spell (k := s.keys) hk
  have hread : Reading.ofText s.markers (joined s.markers [⟨gap, [x]⟩] ++ tail) =
      ⟨[⟨gap, [x]⟩], .complete tail⟩ :=
    Reading.ofText_joined_append (by simpa using hwf) htail
  have hkeys : s.keys.nextMany (joined s.markers [⟨gap, [x]⟩] ++ tail) 1 [] ⟨fun _ => n, 0⟩ =
      (⟨fun _ => n, 1⟩, .ok [s.keys.spell n]) := by
    have hdrawn : Draws.number ⟨fun _ => n, 0⟩ s.keys.size 0 = n := Nat.mod_eq_of_lt hn
    rw [Keys.nextMany,
      Keys.next_of_free s.length_keys_le hn ⟨hk, List.not_mem_nil, habsent⟩ hdrawn]
    rfl
  exact ⟨_, _, _, mask_eq_ok (.text _) (maskDocument_eq_ok hread hkeys).2 rfl⟩

theorem exists_key_absent (hu : u <+: s.markers.opening.symbol) :
    ∃ key, IsKey s.keyLength key ∧ ¬ s.token key <:+: u ++ s.markers.opening.symbol := by
  by_contra hno
  -- a token that occurs has its stem across the seam
  have hacross : ∀ {key : Text}, IsKey s.keyLength key → ∃ p,
      OccursAt (s.token key) (u ++ s.markers.opening.symbol) p ∧ p < u.length ∧
        u.length < p + s.stem.length := by
    intro key hk
    have hin : s.token key <:+: u ++ s.markers.opening.symbol := by
      by_contra h
      exact hno ⟨key, hk, h⟩
    obtain ⟨p, hp⟩ := Text.isInfix_iff_occursAt.mp hin
    have hstem : OccursAt s.stem (u ++ s.markers.opening.symbol) p :=
      (List.prefix_append s.stem key).trans hp
    rcases Text.occursAt_append hstem with h | ⟨-, h⟩ | h
    · exact absurd (h.isInfix.trans hu.isInfix) s.not_stem_isInfix_opening
    · exact absurd h.isInfix s.not_stem_isInfix_opening
    · exact ⟨p, hp, h⟩
  have hkey : ∀ {c : CodePoint}, c.isDigit = true →
      IsKey s.keyLength (List.replicate s.keyLength c) :=
    fun hc => ⟨List.length_replicate, fun d hd => List.eq_of_mem_replicate hd ▸ hc⟩
  have hk₀ := hkey (c := '0') (by decide)
  have hk₁ := hkey (c := '1') (by decide)
  obtain ⟨i, hi, hiu, hui⟩ := hacross hk₀
  obtain ⟨j, hj, hju, huj⟩ := hacross hk₁
  have hlen : s.tokenLength = s.stem.length + s.keyLength := rfl
  rcases Nat.lt_trichotomy i j with hij | rfl | hij
  · have := le_of_occursAt_token hk₀ hi hj hij
    omega
  · have heq := eq_of_occursAt_token hk₀ hk₁ hi hj
    rcases (List.replicate_inj.mp heq).2 with h | h
    · have := s.keyLength_mem.1
      omega
    · exact absurd h (by decide)
  · have := le_of_occursAt_token hk₁ hj hi hij
    omega

end Settings

/-! ## When masked text is plain -/

variable {s : Settings}

theorem mask_of_plain {t : Text} {form : Form} {b : Buffer}
    (h : ¬ s.markers.opening.symbol <:+: t) (hb : form.wrap t = .ok b) (file : Option Path)
    (draws : Draws) :
    (mask s (.buffer b) file draws).1 = draws ∧
      (mask s (.buffer b) file draws).2.result =
        .ok ⟨b, { stem := s.stem, keyLength := s.keyLength }⟩ := by
  have hm : (maskDocument s ⟨t, file⟩ draws).1 = draws ∧ _ :=
    maskDocument_eq_ok (Reading.ofText_of_plain h) rfl
  have hholds : (Supply.buffer b).Holds t form := Supply.holds_iff_wrap.mpr ⟨b, hb, rfl⟩
  refine ⟨?_, mask_eq_ok hholds hm.2 (Masked.seal_eq_ok_iff.mpr ⟨hb, rfl⟩)⟩
  rw [mask_of_holds hholds]
  exact hm.1

theorem Settings.seamless_of_plain
    (h : ∀ {supply draws t table}, (mask s supply none draws).2.result = .ok ⟨.text t, table⟩ →
      ¬ s.markers.opening.symbol <:+: t) : s.Seamless := by
  have hnil : Text.find? s.markers.opening.symbol ([] ++ s.markers.opening.symbol) = some 0 :=
    Text.find?_eq_some_iff.mpr ⟨List.prefix_rfl, fun q _ => Nat.zero_le q⟩
  have hright : ∀ key, ¬ s.token key <:+: s.markers.closing.symbol ++ [] := fun key => by
    rw [List.append_nil]
    exact s.not_token_isInfix_closing key
  have hplain : ¬ s.markers.opening.symbol <:+: [] := fun hin =>
    s.markers.opening.symbol_ne (List.infix_nil.mp hin)
  refine ⟨?_, ?_, ?_⟩
  · rintro v - ⟨u, hu⟩ hstem
    by_contra hv
    obtain ⟨key, hk, hleft⟩ := s.exists_key_absent ⟨v, hu⟩
    obtain ⟨text, draws, table, hm⟩ := Settings.exists_mask_of_body hk
      (Text.find?_append_of_not_prefix hu.symm hv) hplain hleft (hright key)
    have hfront : u ++ v <+: u ++ s.token key :=
      (List.prefix_append_right_inj u).mpr (hstem.trans (List.prefix_append s.stem key))
    rw [hu] at hfront
    exact h hm (hfront.trans (List.prefix_append _ [])).isInfix
  · intro key hk hin
    obtain ⟨text, draws, table, hm⟩ := Settings.exists_mask_of_body hk hnil hplain
      (s.not_token_isInfix_opening key) (hright key)
    refine h hm ?_
    rwa [List.nil_append, List.append_nil]
  · intro key w z hk ho hw hsuffix
    by_contra hno
    have hz : ¬ s.markers.opening.symbol <:+: z := fun hin => by
      have hle := hin.length_le
      have := List.length_pos_iff.mpr hw
      rw [ho, List.length_append] at hle
      omega
    obtain ⟨text, draws, table, hm⟩ := Settings.exists_mask_of_body hk hnil hz
      (s.not_token_isInfix_opening key) hno
    obtain ⟨r, hr⟩ := hsuffix
    refine h hm ?_
    rw [ho, List.nil_append, ← hr, List.append_assoc]
    exact (List.suffix_append r (w ++ z)).isInfix

/-- **Masked text holds no opening marker, and is masked to itself, just when the settings are
seamless.** -/
theorem seamless_iff (s : Settings) : s.Seamless ↔
    ∀ supply file draws m, (mask s supply file draws).2.result = .ok m →
      ∃ (t : Text) (form : Form), form.wrap t = .ok m.text ∧ ¬ s.markers.opening.symbol <:+: t ∧
        ∀ file' draws', (mask s (.buffer m.text) file' draws').1 = draws' ∧
          (mask s (.buffer m.text) file' draws').2.result =
            .ok ⟨m.text, { stem := s.stem, keyLength := s.keyLength }⟩ := by
  constructor
  · intro hs supply file draws m hm
    obtain ⟨text, form, y, -, hseal⟩ := exists_layout_of_mask hm
    have hwrap := (Masked.seal_eq_ok_iff.mp hseal).1
    obtain ⟨htext, hwf, htail⟩ := Reading.ofText_eq_complete_iff.mp y.reading
    have hplain : ¬ s.markers.opening.symbol <:+: y.masked.text := by
      refine hs.not_opening_isInfix_woven htail ?_ y.isKey ?_
      · exact fun c hc => hwf c.piece (List.mem_map_of_mem hc)
      · rw [← htext]
        exact y.absent
    exact ⟨y.masked.text, form, hwrap, hplain, mask_of_plain hplain hwrap⟩
  · intro h
    refine Settings.seamless_of_plain fun {supply draws t table} hm => ?_
    obtain ⟨t', form, ht, hplain, -⟩ := h supply none draws ⟨.text t, table⟩ hm
    cases form with
    | octets =>
      obtain ⟨chars, -, hb⟩ := Form.wrap_octets_eq_ok_iff.mp ht
      cases hb
    | text =>
      cases ht
      exact hplain

/-- The end of a marker begins the stem, and the token completes the marker: the masked text cannot
be masked again. -/
theorem opening_isInfix_masked :
    let s :=
      { Settings.standard with
        markers := ⟨⟨['X', 'F'], by decide⟩, ⟨['%', '\x7d'], by decide⟩, by decide⟩
        keyLength := 1, keyLength_mem := by decide
        opening_apart := by decide, closing_apart := by decide }
    let text : Text := ['X', 'X', 'F', ' ', 'b', ' ', '%', '\x7d']
    let t : Text := ['X', 'F', 'R', 'A', 'G', 'M', 'E', 'N', 'T', '1']
    ∃ table, (mask s (.buffer (.text text)) none ⟨fun _ => 1, 0⟩).2.result = .ok ⟨.text t, table⟩ ∧
      s.markers.opening.symbol <:+: t ∧
      (mask s (.buffer (.text t)) none ⟨fun _ => 1, 1⟩).2.result =
        .error (.unclosed ⟨t, none⟩ s.markers 0) := by
  intro s text t
  have hread : Reading.ofText s.markers text = ⟨[⟨['X'], [' ', 'b', ' ']⟩], .complete []⟩ := by
    cbv
  have hkeys : s.keys.nextMany text 1 [] ⟨fun _ => 1, 0⟩ = (⟨fun _ => 1, 1⟩, .ok [['1']]) := by
    cbv
  have hagain : Reading.ofText s.markers t =
      ⟨[], .unclosed [] ['R', 'A', 'G', 'M', 'E', 'N', 'T', '1']⟩ := by
    cbv
  refine ⟨_, mask_eq_ok (.text text) (maskDocument_eq_ok hread hkeys).2 rfl, by decide, ?_⟩
  rw [result_mask_of_holds (.text t)]
  simp only [maskDocument, hagain]
  rfl

end Standin
