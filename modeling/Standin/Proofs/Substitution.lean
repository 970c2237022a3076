import Standin.Proofs.Masking

/-!
# Unmasking as simultaneous substitution

Unmasking goes entry by entry over a text that changes on the way. If no token meets another token
or a fragment, the order does not matter: the text is the given one with all fragments put in at
once, each at the first place of its token.

* `Substitution`, `Substitution.result`: a text parted into characters that stay and the first
  occurrences of tokens, and the text with fragments in place of the tokens;
* `Substitution.items_eq`: a text has one substitution, in whatever order the entries come;
* `Separate`: tokens that meet neither one another nor a fragment;
* **`exists_substitution`**: unmasking by separate entries is substitution;
* **`unmask_eq_substitution`**: the entries of a masked document are separate, if its markers end in
  characters that tokens do not have.
-/

namespace Standin

open Text (OccursAt Apart)

/-! ## Substitutions -/

/-- A character that stays, or an entry whose token is replaced by its fragment. -/
inductive Item
  | char (c : CodePoint)
  | entry (e : Text × Text)

/-- The text of an item before substitution. -/
def Item.source (stem : Text) : Item → Text
  | char c => [c]
  | entry e => stem ++ e.1

/-- The text of an item after substitution. -/
def Item.target : Item → Text
  | char c => [c]
  | entry e => e.2

def sourceText (stem : Text) (items : List Item) : Text := items.flatMap (Item.source stem)

def targetText (items : List Item) : Text := items.flatMap Item.target

/-- A text parted into items: an entry stands at the first occurrence of its token and nowhere else,
and every entry whose token occurs does so. -/
structure Substitution (stem : Text) (entries : List (Text × Text)) (t : Text) where
  items : List Item
  source_eq : sourceText stem items = t
  first : ∀ {xs ys e}, items = xs ++ .entry e :: ys →
    e ∈ entries ∧ Text.cut (stem ++ e.1) t = some (sourceText stem xs, sourceText stem ys)
  all : ∀ {e}, e ∈ entries → stem ++ e.1 <:+: t → .entry e ∈ items

/-- The text with all fragments put in at once. -/
def Substitution.result {stem : Text} {entries : List (Text × Text)} {t : Text}
    (σ : Substitution stem entries t) : Text :=
  targetText σ.items

variable {stem t a b f w : Text} {entries entries' : List (Text × Text)} {e : Text × Text}
  {x : Item} {xs ys zs : List Item}

theorem sourceText_cons : sourceText stem (x :: xs) = x.source stem ++ sourceText stem xs := rfl

theorem sourceText_append :
    sourceText stem (xs ++ ys) = sourceText stem xs ++ sourceText stem ys :=
  List.flatMap_append

theorem sourceText_entry : sourceText stem (xs ++ .entry e :: ys) =
    sourceText stem xs ++ (stem ++ e.1) ++ sourceText stem ys := by
  rw [sourceText_append, sourceText_cons, List.append_assoc]
  rfl

theorem targetText_append : targetText (xs ++ ys) = targetText xs ++ targetText ys :=
  List.flatMap_append

theorem sourceText_chars (stem t : Text) : sourceText stem (t.map .char) = t := by
  induction t with
  | nil => rfl
  | cons c t ih => rw [List.map_cons, sourceText_cons, ih]; rfl

theorem targetText_chars (t : Text) : targetText (t.map .char) = t := by
  induction t with
  | nil => rfl
  | cons c t ih => rw [List.map_cons, targetText, List.flatMap_cons, ← targetText, ih]; rfl

theorem entry_notMem_chars : .entry e ∉ t.map Item.char := by
  simp

theorem Item.source_ne (hs : stem ≠ []) (x : Item) : x.source stem ≠ [] := by
  cases x with
  | char c => exact List.cons_ne_nil c []
  | entry e => exact fun h => hs (List.append_eq_nil_iff.mp h).1

theorem sourceText_eq_nil (hs : stem ≠ []) : sourceText stem xs = [] ↔ xs = [] := by
  cases xs with
  | nil => simp [sourceText]
  | cons x xs => simp [sourceText_cons, x.source_ne hs]

theorem eq_of_sourceText_eq (hs : stem ≠ []) : ∀ {xs ys us vs : List Item}, xs ++ us = ys ++ vs →
    sourceText stem xs = sourceText stem ys → xs = ys
  | [], ys, _, _, _, h => ((sourceText_eq_nil hs).mp h.symm).symm
  | x :: xs, [], _, _, _, h => (sourceText_eq_nil hs).mp h
  | x :: xs, y :: ys, us, vs, hl, h => by
    obtain ⟨rfl, htail⟩ := List.cons.inj hl
    rw [eq_of_sourceText_eq hs htail (List.append_cancel_left h)]

/-- Items part where their text does, if no item lies across. -/
theorem exists_split : ∀ {zs : List Item} {a b : Text}, sourceText stem zs = a ++ b →
    (∀ {xs x ys}, zs = xs ++ x :: ys → (sourceText stem xs).length < a.length →
      (sourceText stem xs).length + (x.source stem).length ≤ a.length) →
    ∃ xs ys, zs = xs ++ ys ∧ sourceText stem xs = a ∧ sourceText stem ys = b
  | zs, [], b, h, _ => ⟨[], zs, rfl, rfl, h⟩
  | [], c :: a, b, h, _ => by
    cases h
  | x :: zs, c :: a, b, h, hno => by
    have hle : (x.source stem).length ≤ (c :: a).length := by
      have := hno (show x :: zs = [] ++ x :: zs from rfl) (Nat.succ_pos _)
      simpa [sourceText] using this
    rw [sourceText_cons] at h
    obtain ⟨a', ha'⟩ : x.source stem <+: c :: a :=
      List.prefix_of_prefix_length_le ⟨_, h⟩ (List.prefix_append _ b) hle
    rw [← ha', List.append_assoc] at h
    obtain ⟨us, vs, rfl, hu, hv⟩ := exists_split (List.append_cancel_left h) (by
      intro xs' x' ys' hz hlt
      have := hno (show x :: zs = (x :: xs') ++ x' :: ys' by rw [hz]; rfl)
      rw [← ha', sourceText_cons] at this
      simp only [List.length_append] at this
      omega)
    exact ⟨x :: us, vs, rfl, by rw [sourceText_cons, hu, ha'], hv⟩

theorem eq_chars (h : ∀ e, .entry e ∉ xs) (hs : sourceText stem xs = t) : xs = t.map .char := by
  induction xs generalizing t with
  | nil => rw [← hs]; rfl
  | cons x xs ih =>
    cases x with
    | entry e => exact absurd List.mem_cons_self (h e)
    | char c =>
      rw [← hs, sourceText_cons, Item.source, List.singleton_append, List.map_cons,
        ← ih (fun e he => h e (List.mem_cons_of_mem _ he)) rfl]

namespace Substitution

theorem exists_entry (hs : stem ≠ []) (hmem : ∀ {e}, e ∈ entries → e ∈ entries')
    (σ : Substitution stem entries t) (τ : Substitution stem entries' t)
    (hσ : σ.items = zs ++ .entry e :: xs) (hτ : τ.items = zs ++ ys) :
    ∃ us, ys = .entry e :: us := by
  obtain ⟨he, hcut⟩ := σ.first hσ
  have hin : stem ++ e.1 <:+: t := Text.cut_isSome_iff.mp (hcut ▸ rfl)
  obtain ⟨ws, us, hτ'⟩ := List.append_of_mem (τ.all (hmem he) hin)
  have hcut' := (τ.first hτ').2
  rw [hcut, Option.some.injEq, Prod.mk.injEq] at hcut'
  have hparts : zs ++ ys = ws ++ .entry e :: us := by rw [← hτ, hτ']
  obtain rfl := eq_of_sourceText_eq hs hparts hcut'.1
  exact ⟨us, List.append_cancel_left hparts⟩

/-- **A text has one substitution**, in whatever order the entries come. -/
theorem items_eq (hs : stem ≠ []) (hmem : ∀ e, e ∈ entries ↔ e ∈ entries')
    (σ : Substitution stem entries t) (τ : Substitution stem entries' t) : σ.items = τ.items := by
  have hrest : ∀ {xs zs ys : List Item}, σ.items = zs ++ xs → τ.items = zs ++ ys → xs = ys := by
    intro xs
    induction xs with
    | nil =>
      intro zs ys hσ hτ
      have h := σ.source_eq.trans τ.source_eq.symm
      rw [hσ, hτ, sourceText_append, sourceText_append] at h
      exact ((sourceText_eq_nil hs).mp (List.append_cancel_left h).symm).symm
    | cons x xs ih =>
      intro zs ys hσ hτ
      have h := σ.source_eq.trans τ.source_eq.symm
      rw [hσ, hτ, sourceText_append, sourceText_append] at h
      have hne : ys ≠ [] := fun hys => by
        rw [hys] at h
        exact List.cons_ne_nil x xs ((sourceText_eq_nil hs).mp (List.append_cancel_left h))
      obtain ⟨y, ys, rfl⟩ := List.exists_cons_of_ne_nil hne
      have hxy : x = y := by
        cases x with
        | entry e =>
          obtain ⟨us, hu⟩ := exists_entry hs (fun he => (hmem _).mp he) σ τ hσ hτ
          exact (List.cons.inj hu).1.symm
        | char c =>
          cases y with
          | entry e =>
            obtain ⟨us, hu⟩ := exists_entry hs (fun he => (hmem _).mpr he) τ σ hτ hσ
            exact (List.cons.inj hu).1
          | char d => rw [(List.cons.inj (List.append_cancel_left h)).1]
      subst hxy
      have htail := ih (show σ.items = (zs ++ [x]) ++ xs by rw [hσ]; simp)
        (show τ.items = (zs ++ [x]) ++ ys by rw [hτ]; simp)
      rw [htail]
  exact hrest (List.nil_append σ.items).symm (List.nil_append τ.items).symm

/-! ## One entry more -/

/-- No entries, no replacement. -/
def nil (stem t : Text) : Substitution stem [] t where
  items := t.map .char
  source_eq := sourceText_chars stem t
  first := fun h => absurd (h ▸ List.mem_append_right _ List.mem_cons_self) entry_notMem_chars
  all := fun h => absurd h List.not_mem_nil

theorem result_nil : (nil stem t).result = t := targetText_chars t

/-- An entry whose token does not occur changes nothing. -/
def skip (σ : Substitution stem entries t) (h : ¬ stem ++ e.1 <:+: t) :
    Substitution stem (e :: entries) t where
  items := σ.items
  source_eq := σ.source_eq
  first := fun hi => ⟨List.mem_cons_of_mem e (σ.first hi).1, (σ.first hi).2⟩
  all := by
    intro e' he' hin
    rcases List.mem_cons.mp he' with rfl | he'
    · exact absurd hin h
    · exact σ.all he' hin

theorem result_skip (σ : Substitution stem entries t) (h : ¬ stem ++ e.1 <:+: t) :
    (σ.skip h).result = σ.result := rfl

theorem item_apart (σ : Substitution stem entries (a ++ f ++ b))
    (hapart : ∀ e ∈ entries, Apart (stem ++ e.1) f) (hi : σ.items = xs ++ x :: ys) :
    (sourceText stem xs).length + (x.source stem).length ≤ a.length ∨
      a.length + f.length ≤ (sourceText stem xs).length ∨ ∃ c, x = .char c := by
  cases x with
  | char c => exact Or.inr (Or.inr ⟨c, rfl⟩)
  | entry e =>
    obtain ⟨he, hcut⟩ := σ.first hi
    have hocc := Text.occursAt_append_length (sourceText stem xs) (stem ++ e.1) (sourceText stem ys)
    rw [← Text.eq_of_cut hcut] at hocc
    rcases hapart e he a b _ hocc with hle | hge
    · exact Or.inl hle
    · exact Or.inr (Or.inl hge)

/-- A text that no token meets is left as it is, and what stands around it is parted on its own. -/
theorem exists_parts (hs : stem ≠ []) (σ : Substitution stem entries (a ++ f ++ b))
    (hapart : ∀ e ∈ entries, Apart (stem ++ e.1) f) :
    ∃ xs ys, σ.items = xs ++ f.map .char ++ ys ∧ sourceText stem xs = a ∧
      sourceText stem ys = b := by
  have htext := σ.source_eq.trans (List.append_assoc a f b)
  obtain ⟨xs, rest, hitems, hxs, hrest⟩ := exists_split htext fun {us x vs} hi hlt => by
    rcases σ.item_apart hapart hi with hle | hge | ⟨c, rfl⟩
    · exact hle
    · omega
    · exact hlt
  obtain ⟨zs, ys, rfl, hzs, hys⟩ := exists_split hrest fun {us x vs} hi hlt => by
    have hi' : σ.items = (xs ++ us) ++ x :: vs := by rw [hitems, hi, List.append_assoc]
    have h := σ.item_apart hapart hi'
    rw [sourceText_append, hxs, List.length_append] at h
    rcases h with hle | hge | ⟨c, rfl⟩
    · omega
    · omega
    · exact hlt
  refine ⟨xs, ys, ?_, hxs, hys⟩
  rw [hitems, List.append_assoc, eq_chars _ hzs]
  intro e he
  obtain ⟨us, vs, rfl⟩ := List.append_of_mem he
  have hi : σ.items = (xs ++ us) ++ .entry e :: (vs ++ ys) := by rw [hitems]; simp
  have hpos := List.length_pos_iff.mpr (Item.source_ne hs (.entry e))
  have hlen := congrArg List.length hzs
  have h := σ.item_apart hapart hi
  rw [sourceText_append, hxs] at h
  simp only [sourceText_append, sourceText_cons, List.length_append] at hlen h
  rcases h with hle | hge | ⟨c, hc⟩
  · omega
  · omega
  · cases hc

theorem entry_cases {us vs : List Item} {e' : Text × Text}
    (hi : xs ++ .entry e :: ys = us ++ .entry e' :: vs) :
    (xs = us ∧ e = e' ∧ ys = vs) ∨ (∃ zs, us = xs ++ .entry e :: zs ∧ ys = zs ++ .entry e' :: vs) ∨
      ∃ zs, xs = us ++ .entry e' :: zs ∧ vs = zs ++ .entry e :: ys := by
  rcases List.append_eq_append_iff.mp hi with ⟨zs, rfl, hz⟩ | ⟨zs, rfl, hz⟩
  · rcases List.cons_eq_append_iff.mp hz with ⟨rfl, hz⟩ | ⟨zs, rfl, rfl⟩
    · obtain ⟨he, rfl⟩ := List.cons.inj hz
      exact Or.inl ⟨(List.append_nil xs).symm, Item.entry.inj he, rfl⟩
    · exact Or.inr (Or.inl ⟨zs, rfl, rfl⟩)
  · rcases List.cons_eq_append_iff.mp hz with ⟨rfl, hz⟩ | ⟨zs, rfl, rfl⟩
    · obtain ⟨he, rfl⟩ := List.cons.inj hz
      exact Or.inl ⟨List.append_nil us, (Item.entry.inj he).symm, rfl⟩
    · exact Or.inr (Or.inr ⟨zs, rfl, rfl⟩)

theorem mem_entries (σ : Substitution stem entries t) (h : .entry e ∈ σ.items) : e ∈ entries := by
  obtain ⟨xs, ys, hi⟩ := List.append_of_mem h
  exact (σ.first hi).1

/-- An entry behind a plain text stays in place when the text is replaced. -/
theorem cut_of_entry_behind (hs : stem ≠ []) (σ : Substitution stem entries t)
    (hi : σ.items = xs ++ f.map .char ++ (zs ++ .entry e :: ys)) (hw : Apart (stem ++ e.1) w) :
    Text.cut (stem ++ e.1) (sourceText stem xs ++ w ++ sourceText stem (zs ++ .entry e :: ys)) =
      some (sourceText stem xs ++ w ++ sourceText stem zs, sourceText stem ys) := by
  have hcut := (σ.first (hi.trans (List.append_assoc _ zs _).symm)).2
  have hne : stem ++ e.1 ≠ [] := fun h => hs (List.append_eq_nil_iff.mp h).1
  have ht := σ.source_eq
  rw [hi, sourceText_append, sourceText_append, sourceText_chars, sourceText_entry] at ht
  rw [← ht, sourceText_append, sourceText_append, sourceText_chars] at hcut
  rw [sourceText_entry]
  exact Text.cut_replace_right hne hw hcut

theorem cut_of_entry_in_front (σ : Substitution stem entries t)
    (hi : σ.items = xs ++ .entry e :: zs ++ f.map .char ++ ys) (hw : Apart (stem ++ e.1) w) :
    Text.cut (stem ++ e.1) (sourceText stem (xs ++ .entry e :: zs) ++ w ++ sourceText stem ys) =
      some (sourceText stem xs, sourceText stem zs ++ w ++ sourceText stem ys) := by
  have hi' : σ.items = xs ++ .entry e :: (zs ++ f.map .char ++ ys) := by
    rw [hi]
    simp
  have hcut := (σ.first hi').2
  have ht := σ.source_eq
  rw [hi, sourceText_append, sourceText_append, sourceText_chars, sourceText_entry] at ht
  rw [← ht, sourceText_append, sourceText_append, sourceText_chars] at hcut
  rw [sourceText_entry]
  exact Text.cut_replace_left hw hcut

/-- An entry is replaced at the first occurrence of its token, before or after all others. -/
theorem exists_replace (hs : stem ≠ []) (hcut : Text.cut (stem ++ e.1) t = some (a, b))
    (htoken : ∀ e' ∈ entries, Apart (stem ++ e'.1) (stem ++ e.1))
    (hfragment : ∀ e' ∈ entries, Apart (stem ++ e'.1) e.2)
    (σ : Substitution stem entries (a ++ e.2 ++ b)) :
    ∃ τ : Substitution stem (e :: entries) t, τ.result = σ.result := by
  obtain ⟨xs, ys, hitems, rfl, rfl⟩ := σ.exists_parts hs hfragment
  obtain rfl := Text.eq_of_cut hcut
  refine ⟨⟨xs ++ .entry e :: ys, sourceText_entry, ?_, ?_⟩, ?_⟩
  · intro us vs e' hi
    rcases entry_cases hi with ⟨rfl, rfl, rfl⟩ | ⟨zs, rfl, rfl⟩ | ⟨zs, rfl, rfl⟩
    · exact ⟨List.mem_cons_self, hcut⟩
    · have he' : e' ∈ entries := σ.mem_entries (by rw [hitems]; simp)
      refine ⟨List.mem_cons_of_mem e he', ?_⟩
      rw [σ.cut_of_entry_behind hs hitems (htoken e' he'), sourceText_entry]
    · have he' : e' ∈ entries := σ.mem_entries (by rw [hitems]; simp)
      refine ⟨List.mem_cons_of_mem e he', ?_⟩
      rw [σ.cut_of_entry_in_front hitems (htoken e' he'), sourceText_entry]
  · intro e' he' hin
    rcases List.mem_cons.mp he' with rfl | he'
    · exact List.mem_append_right xs List.mem_cons_self
    · rw [Text.isInfix_iff_of_apart (htoken e' he'),
        ← Text.isInfix_iff_of_apart (hfragment e' he')] at hin
      have hmem := σ.all he' hin
      rw [hitems] at hmem
      rcases List.mem_append.mp hmem with hmem | hmem
      · rcases List.mem_append.mp hmem with hmem | hmem
        · exact List.mem_append_left _ hmem
        · exact absurd hmem entry_notMem_chars
      · exact List.mem_append_right xs (List.mem_cons_of_mem _ hmem)
  · change targetText (xs ++ .entry e :: ys) = targetText σ.items
    rw [hitems, targetText_append, targetText_append, targetText_append, targetText_chars,
      List.append_assoc]
    rfl

end Substitution

/-! ## Separate entries -/

/-- Entries whose tokens meet neither one another nor a fragment. -/
structure Separate (stem : Text) (entries : List (Text × Text)) : Prop where
  stem_ne : stem ≠ []
  nodup : (keysOf entries).Nodup
  token : ∀ {e e'}, e ∈ entries → e' ∈ entries → e.1 ≠ e'.1 → Apart (stem ++ e.1) (stem ++ e'.1)
  fragment : ∀ {e e'}, e ∈ entries → e' ∈ entries → Apart (stem ++ e.1) e'.2

theorem Separate.tail (h : Separate stem (e :: entries)) : Separate stem entries where
  stem_ne := h.stem_ne
  nodup := (List.nodup_cons.mp h.nodup).2
  token := fun he he' => h.token (List.mem_cons_of_mem e he) (List.mem_cons_of_mem e he')
  fragment := fun he he' => h.fragment (List.mem_cons_of_mem e he) (List.mem_cons_of_mem e he')

theorem Separate.perm (h : Separate stem entries) (hp : entries'.Perm entries) :
    Separate stem entries' where
  stem_ne := h.stem_ne
  nodup := (hp.map Prod.fst).nodup_iff.mpr h.nodup
  token := fun he he' => h.token (hp.mem_iff.mp he) (hp.mem_iff.mp he')
  fragment := fun he he' => h.fragment (hp.mem_iff.mp he) (hp.mem_iff.mp he')

theorem Separate.token_head (h : Separate stem (e :: entries)) :
    ∀ e' ∈ entries, Apart (stem ++ e'.1) (stem ++ e.1) := by
  intro e' he'
  refine h.token (List.mem_cons_of_mem e he') List.mem_cons_self fun heq => ?_
  exact (List.nodup_cons.mp h.nodup).1 (heq ▸ List.mem_map_of_mem he')

/-- The entries whose token does not occur. -/
def missing (stem : Text) (entries : List (Text × Text)) (t : Text) : List (Text × Text) :=
  entries.filter fun e => !Text.contains t (stem ++ e.1)

/-- How unmasking ends: the first missing token is a problem, or all of them are noticed. -/
def unmaskOutcome {α : Type} (strict : Bool) (stem : Text) (missing : List (Text × Text)) (r : α) :
    Outcome α :=
  match strict, missing with
  | true, e :: _ => ⟨[], .error (.tokenMissing e.1 (stem ++ e.1))⟩
  | _, es => ⟨es.map fun e => .tokenDropped (stem ++ e.1), .ok r⟩

theorem missing_replace (h : Separate stem (e :: entries)) :
    missing stem entries (a ++ e.2 ++ b) = missing stem entries (a ++ (stem ++ e.1) ++ b) := by
  refine List.filter_congr fun e' he' => congrArg not (Bool.eq_iff_iff.mpr ?_)
  rw [Text.contains_iff, Text.contains_iff, Text.isInfix_iff_of_apart (h.token_head e' he'),
    Text.isInfix_iff_of_apart (h.fragment (List.mem_cons_of_mem e he') List.mem_cons_self)]

/-- **Unmasking by separate entries is substitution.** -/
theorem exists_substitution (strict : Bool) (h : Separate stem entries) (t : Text) :
    ∃ σ : Substitution stem entries t,
      unmaskText strict stem entries t =
        unmaskOutcome strict stem (missing stem entries t) σ.result := by
  induction entries generalizing t with
  | nil =>
    refine ⟨.nil stem t, ?_⟩
    rw [Substitution.result_nil]
    cases strict <;> rfl
  | cons e entries ih =>
    cases hcut : Text.cut (stem ++ e.1) t with
    | none =>
      have hno := Text.cut_eq_none_iff.mp hcut
      obtain ⟨σ, hσ⟩ := ih h.tail t
      refine ⟨σ.skip hno, ?_⟩
      have hmissing : missing stem (e :: entries) t = e :: missing stem entries t := by
        rw [missing, List.filter_cons_of_pos (by rw [Text.contains_eq_false_iff.mpr hno]; rfl)]
        rfl
      rw [unmaskText, hcut, hmissing, Substitution.result_skip]
      cases strict with
      | true => rfl
      | false =>
        simp only [Bool.false_eq_true, if_false, hσ]
        rfl
    | some parts =>
      obtain ⟨a, b⟩ := parts
      obtain ⟨σ, hσ⟩ := ih h.tail (a ++ e.2 ++ b)
      obtain ⟨τ, hτ⟩ := σ.exists_replace h.stem_ne hcut h.token_head fun e' he' =>
        h.fragment (List.mem_cons_of_mem e he') List.mem_cons_self
      refine ⟨τ, ?_⟩
      have hin : Text.contains t (stem ++ e.1) = true := by
        rw [Text.contains, hcut, Option.isSome_some]
      have hmissing : missing stem (e :: entries) t = missing stem entries t := by
        rw [missing, List.filter_cons_of_neg (by simp [hin])]
        rfl
      rw [unmaskText, hcut, hmissing, hτ, Text.eq_of_cut hcut, ← missing_replace h]
      exact hσ

/-! ## The entries of a masked document -/

/-- The opening marker begins and the closing marker ends in a character that no token has. -/
structure Settings.Fenced (s : Settings) : Prop where
  opening : ∀ c ∈ s.markers.opening.symbol.head?, c.isDigit = false ∧ c ∉ s.stem
  closing : ∀ c ∈ s.markers.closing.symbol.getLast?, c.isDigit = false ∧ c ∉ s.stem

theorem Settings.Fenced.apart_fragment {s : Settings} (hs : s.Fenced) {key : Text} {p : Piece}
    (hk : IsKey s.keyLength key) (hno : ¬ s.token key <:+: p.fragment s.markers) :
    Apart (s.token key) (p.fragment s.markers) := by
  have hplain : ∀ {c : CodePoint}, c.isDigit = false ∧ c ∉ s.stem → c ∉ s.token key := by
    rintro c ⟨hdigit, hstem⟩ hc
    rcases Settings.mem_token hk hc with hc | hc
    · exact hstem hc
    · rw [hdigit] at hc
      cases hc
  have hx := List.head?_eq_some_head s.markers.opening.symbol_ne
  have hz := List.getLast?_eq_some_getLast s.markers.closing.symbol_ne
  refine Text.apart_of_ends ?_ ?_ (hplain (hs.opening _ hx)) (hplain (hs.closing _ hz)) hno
  · rw [Piece.fragment, List.append_assoc, List.head?_append, hx, Option.some_or]
  · rw [Piece.fragment, List.getLast?_append, hz, Option.some_or]

theorem Layout.separate {s : Settings} {text : Text} (y : Layout s text) (hs : s.Fenced) :
    Separate s.stem y.masked.table.entries.toList := by
  have hcell : ∀ {e}, e ∈ y.masked.table.entries.toList → ∃ c ∈ y.cells, c.entry s.markers = e :=
    fun he => List.mem_map.mp (List.mem_reverse.mp he)
  refine ⟨s.stem_ne, y.masked.table.entries.nodup, ?_, ?_⟩
  · intro e e' he he' hne
    obtain ⟨c, hc, rfl⟩ := hcell he
    obtain ⟨c', hc', rfl⟩ := hcell he'
    exact Settings.apart_token (y.isKey c hc) (y.isKey c' hc') hne
  · intro e e' he he'
    obtain ⟨c, hc, rfl⟩ := hcell he
    obtain ⟨c', hc', rfl⟩ := hcell he'
    refine hs.apart_fragment (y.isKey c hc) fun hin => y.absent c hc ?_
    exact hin.trans (y.fragment_isInfix hc')

/-- **Unmasking any text with the table of a masked document is substitution**, whatever has become
of the masked text and in whatever order the entries stand. -/
theorem unmask_eq_substitution {s : Settings} {supply supply' : Supply} {file : Option Path}
    {draws : Draws} {m : Masked Buffer} {form : Form} (hs : s.Fenced)
    (h : (mask s supply file draws).2.result = .ok m) (ht : supply'.Holds t form) :
    ∃ σ : Substitution m.table.stem m.table.entries.toList t, ∀ (s' : Settings) (table : Table),
      table.stem = m.table.stem → table.entries.toList.Perm m.table.entries.toList →
        unmask s' table supply' = (unmaskOutcome s'.strict.isOn table.stem
          (missing table.stem table.entries.toList t) σ.result).andThen form.seal := by
  obtain ⟨text, form', y, -, hseal⟩ := exists_layout_of_mask h
  obtain ⟨b, table⟩ := m
  obtain rfl : table = y.masked.table := (Masked.seal_eq_ok_iff.mp hseal).2
  obtain ⟨σ, -⟩ := exists_substitution false (y.separate hs) t
  refine ⟨σ, fun s' table hstem hperm => ?_⟩
  obtain ⟨τ, hτ⟩ := exists_substitution s'.strict.isOn ((y.separate hs).perm hperm) t
  have hsame : τ.result = σ.result :=
    congrArg targetText (τ.items_eq s.stem_ne (fun e => hperm.mem_iff) σ)
  rw [hsame] at hτ
  rw [unmask_of_holds ht, hstem]
  exact congrArg (Outcome.andThen form.seal) hτ

/-- Two tokens that have changed places, and a copy of one of them. -/
theorem unmask_eq_substitution_moved :
    let s := { Settings.standard with keyLength := 1, keyLength_mem := by decide }
    let text : Text := ['\x7b', '%', '%', '\x7d', 'a', '\x7b', '%', 'b', '%', '\x7d']
    let t : Text := s.token ['0'] ++ s.token ['1'] ++ s.token ['0']
    ∃ m, (mask s (.buffer (.text text)) none ⟨id, 0⟩).2.result = .ok m ∧ s.Fenced ∧
      (Supply.buffer (.text t)).Holds t .text ∧
      ∃ σ : Substitution m.table.stem m.table.entries.toList t, ∀ (s' : Settings) (table : Table),
        table.stem = m.table.stem → table.entries.toList.Perm m.table.entries.toList →
          unmask s' table (.buffer (.text t)) = (unmaskOutcome s'.strict.isOn table.stem
            (missing table.stem table.entries.toList t) σ.result).andThen Form.text.seal := by
  intro s text t
  have hread : Reading.ofText s.markers text = ⟨[⟨[], []⟩, ⟨['a'], ['b']⟩], .complete []⟩ := by
    cbv
  have hkeys : s.keys.nextMany text 2 [] ⟨id, 0⟩ = (⟨id, 2⟩, .ok [['0'], ['1']]) := by
    cbv
  have hm : (mask s (.buffer (.text text)) none ⟨id, 0⟩).2.result = .ok _ :=
    mask_eq_ok (.text text) (maskDocument_eq_ok hread hkeys).2 rfl
  have hs : s.Fenced := by
    refine ⟨?_, ?_⟩
    · rintro c ⟨⟩
      exact ⟨by decide, by decide⟩
    · rintro c ⟨⟩
      exact ⟨by decide, by decide⟩
  exact ⟨_, hm, hs, .text t, unmask_eq_substitution hs hm (.text t)⟩

end Standin
