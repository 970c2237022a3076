import Standin.Proofs.Json
import Standin.Proofs.Masking
import Standin.Table.Saved

/-!
# Reading saved tables

* `Leads`: characters take the reader of tables from one state to another, whatever comes behind
  them;
* `leads_name`, `leads_entries`, `leads_writeInt`: what the parts of a saved table do;
* `Table.Encodable`, `Table.exists_write_iff`: which tables can be saved;
* **`Table.readAny_write`**: a saved table is read back, its entries in the same order;
  `Table.read_write_append` and its cases ask for the schema, too;
* **`Table.read_saved`**: both of a table and of the content of its file.
-/

namespace Standin

open Json (Spells Token)
open Utf8 (Octet encode)

variable {p q q' : Progress} {s s' : List Char} {a : Token} {t : Table} {e : Entries}

/-- The characters take the reader from one state to another, whatever comes behind them. -/
def Leads (p : Progress) (s : List Char) (q : Progress) : Prop :=
  ∀ r, (Json.tokens (encode s ++ r)).foldlM Progress.step p =
    (Json.tokens r).foldlM Progress.step q

theorem Leads.trans (h : Leads p s q) (h' : Leads q s' q') : Leads p (s ++ s') q' := by
  intro r
  rw [Utf8.encode_append, List.append_assoc, h, h']

theorem leads_of_spells {ts : List Token} (h : Spells s ts)
    (hstep : ts.foldlM Progress.step p = .ok q) : Leads p s q := by
  intro r
  rw [h, List.foldlM_append, hstep]
  rfl

theorem leads_token (h : Spells s [a]) (hstep : p.step a = .ok q) : Leads p s q := by
  apply leads_of_spells h
  rw [List.foldlM_cons, hstep]
  rfl

theorem leads_sign (c : Char) (hascii : c.toNat < 0x80)
    (hstep : (Json.sign? (Json.octet c)).map p.step = some (.ok q)) : Leads p [c] q := by
  obtain ⟨a, ha, hnext⟩ := Option.map_eq_some_iff.mp hstep
  exact leads_token (Json.spells_sign hascii ha) hnext

/-! ## Texts -/

theorem textOf_encode (s : List Char) : textOf (encode s) = .ok (Text.ofChars s) := by
  rw [textOf, Utf8.decode_eq_ok_iff.mpr rfl]
  rfl

/-- A text is saved as one string that is read as the text. -/
theorem exists_spells_of_writeText {text : Text} (h : Table.writeText text = .ok s) :
    ∃ octets, Spells s [.string octets] ∧ textOf octets = .ok text := by
  obtain ⟨chars, hchars, rfl⟩ := Utf8.map_eq_ok h
  rw [Utf8.chars?_eq_ok_iff.mp hchars]
  exact ⟨encode chars, Json.spells_quote chars, textOf_encode chars⟩

theorem exists_writeText_iff {text : Text} :
    (∃ s, Table.writeText text = .ok s) ↔ text.Encodable := by
  constructor
  · rintro ⟨s, h⟩
    obtain ⟨chars, hchars, -⟩ := Utf8.map_eq_ok h
    rw [Utf8.chars?_eq_ok_iff.mp hchars]
    exact Text.encodable_ofChars chars
  · intro h
    obtain ⟨chars, rfl⟩ := Text.exists_ofChars_of_encodable h
    rw [Table.writeText, Utf8.chars?_ofChars]
    exact ⟨_, rfl⟩

/-! ## Entries -/

theorem writeEntry_eq_ok_iff {entry : Text × Text} : Table.writeEntry entry = .ok s ↔
    ∃ key fragment, Table.writeText entry.1 = .ok key ∧ Table.writeText entry.2 = .ok fragment ∧
      key ++ ':' :: fragment = s := by
  rw [Table.writeEntry]
  cases Table.writeText entry.1 <;> cases Table.writeText entry.2 <;>
    simp [bind, Except.bind, pure, Except.pure]

theorem leads_entry (first : Bool) (e : Entries) {entry : Text × Text}
    (h : Table.writeEntry entry = .ok s) :
    Leads ⟨t, .entryKey first e⟩ s ⟨t, .entryMore (e.put entry.1 entry.2)⟩ := by
  obtain ⟨key, fragment, hkey, hfragment, rfl⟩ := writeEntry_eq_ok_iff.mp h
  obtain ⟨octets, hspells, htext⟩ := exists_spells_of_writeText hkey
  obtain ⟨octets', hspells', htext'⟩ := exists_spells_of_writeText hfragment
  have hleft : Leads ⟨t, .entryKey first e⟩ key ⟨t, .entryColon entry.1 e⟩ := by
    apply leads_token hspells
    change (textOf octets).map _ = _
    rw [htext]
    rfl
  have hright : Leads ⟨t, .entryValue entry.1 e⟩ fragment
      ⟨t, .entryMore (e.put entry.1 entry.2)⟩ := by
    apply leads_token hspells'
    change (textOf octets').map _ = _
    rw [htext']
    rfl
  exact hleft.trans ((leads_sign ':' (by decide) rfl).trans hright)

theorem exists_of_mapM_cons {α β ε : Type} {f : α → Except ε β} {x : α} {l : List α} {ys : List β}
    (h : (x :: l).mapM f = .ok ys) : ∃ y ys', f x = .ok y ∧ l.mapM f = .ok ys' ∧ ys = y :: ys' := by
  rw [List.mapM_cons] at h
  cases hx : f x with
  | error e =>
    rw [hx] at h
    cases h
  | ok y =>
    cases hl : l.mapM f with
    | error e =>
      rw [hx, hl] at h
      cases h
    | ok ys' =>
      rw [hx, hl] at h
      cases h
      exact ⟨y, ys', rfl, rfl, rfl⟩

theorem leads_entries {l : List (Text × Text)} {ws : List (List Char)} (first : Bool) (e : Entries)
    (h : l ≠ []) (hws : l.mapM Table.writeEntry = .ok ws) :
    Leads ⟨t, .entryKey first e⟩ (List.intercalate [','] ws)
      ⟨t, .entryMore (l.foldl (fun e (key, fragment) => e.put key fragment) e)⟩ := by
  induction l generalizing first e ws with
  | nil => exact absurd rfl h
  | cons entry l ih =>
    obtain ⟨w, rest, hw, hrest, rfl⟩ := exists_of_mapM_cons hws
    -- no comma stands behind the last entry
    cases l with
    | nil =>
      obtain rfl : [] = rest := Except.ok.inj hrest
      rw [List.intercalate_singleton]
      exact leads_entry first e hw
    | cons entry' l =>
      have hleads := ih false (e.put entry.1 entry.2) (List.cons_ne_nil entry' l) hrest
      obtain ⟨w', rest, -, -, rfl⟩ := exists_of_mapM_cons hrest
      rw [List.intercalate_cons_cons]
      exact ((leads_entry first e hw).trans (leads_sign ',' (by decide) rfl)).trans hleads

theorem leads_object (e : Entries) {ws : List (List Char)}
    (hws : e.toList.mapM Table.writeEntry = .ok ws) :
    Leads ⟨t, .entryKey true {}⟩ (List.intercalate [','] ws ++ ['\x7d'])
      ⟨{ t with entries := e }, .more⟩ := by
  by_cases h : e.toList = []
  · obtain rfl : e = {} := by
      cases e
      subst h
      rfl
    cases hws
    exact leads_sign '\x7d' (by decide) rfl
  · have hall := (leads_entries (t := t) true {} h hws).trans (leads_sign '\x7d' (by decide) rfl)
    rwa [← Entries.ofList, Entries.ofList_toList] at hall

/-! ## Fields -/

/-- The name of a field as it is written, with the colon behind it. -/
def Table.writeName (f : SavedField) : List Char := Json.quote f.name.toList ++ [':']

theorem leads_name (first : Bool) (f : SavedField) :
    Leads ⟨t, .key first⟩ (Table.writeName f) ⟨t, .value f⟩ := by
  have hname : SavedField.ofOctets? (encode f.name.toList) = some f := by
    cases f <;> decide
  have hkey : Leads ⟨t, .key first⟩ (Json.quote f.name.toList) ⟨t, .colon (some f)⟩ := by
    apply leads_token (Json.spells_quote _)
    rw [← hname]
    rfl
  exact hkey.trans (leads_sign ':' (by decide) rfl)

theorem leads_writeInt {c : Char} (n : Int) (hascii : c.toNat < 0x80)
    (hsign : Json.sign? (Json.octet c) = some a)
    (hstep : [.int n, a].foldlM Progress.step p = .ok q) :
    Leads p (Table.writeInt n ++ [c]) q := by
  unfold Table.writeInt
  split
  · next hneg =>
    have hspells := Json.spells_minus n.natAbs hascii hsign
    rw [show -(n.natAbs : Int) = n by omega] at hspells
    exact leads_of_spells hspells hstep
  · next hnonneg =>
    have hspells := Json.spells_decimal n.natAbs hascii hsign
    rw [show (n.natAbs : Int) = n by omega] at hspells
    exact leads_of_spells hspells hstep

/-! ## Tables -/

namespace Table

/-- No surrogate stands alone in a text of the table. -/
structure Encodable (t : Table) : Prop where
  stem : t.stem.Encodable
  entries : ∀ e ∈ t.entries.toList, e.1.Encodable ∧ e.2.Encodable

theorem write_eq_ok_iff {saved : List Char} : t.write = .ok saved ↔
    ∃ entries stem, t.entries.toList.mapM writeEntry = .ok entries ∧
      writeText t.stem = .ok stem ∧ saved =
        (['\x7b'] ++ writeName .entries ++ ['\x7b'] ++
          (List.intercalate [','] entries ++ ['\x7d'])) ++
        ([','] ++ writeName .stem ++ stem) ++
        ([','] ++ writeName .keyLength ++ (writeInt t.keyLength ++ [','])) ++
        (writeName .schema ++ (writeInt t.schema ++ ['\x7d'])) := by
  have hentries : "\x7b\"entries\":\x7b".toList =
      ['\x7b'] ++ writeName .entries ++ ['\x7b'] := by
    simp [writeName, SavedField.name, Json.quote, Json.escapeChar]
  have hstem : "\x7d,\"prefix\":".toList = ['\x7d'] ++ ([','] ++ writeName .stem) := by
    simp [writeName, SavedField.name, Json.quote, Json.escapeChar]
  have hlength : ",\"key_length\":".toList = [','] ++ writeName .keyLength := by
    simp [writeName, SavedField.name, Json.quote, Json.escapeChar]
  have hschema : ",\"schema\":".toList = [','] ++ writeName .schema := by
    simp [writeName, SavedField.name, Json.quote, Json.escapeChar]
  unfold write
  cases t.entries.toList.mapM writeEntry with
  | error _ => simp [bind, Except.bind]
  | ok entries =>
    cases writeText t.stem with
    | error _ => simp [bind, Except.bind]
    | ok stem =>
      simp [bind, Except.bind, pure, Except.pure, hentries, hstem, hlength, hschema, eq_comm]

theorem leads_write {saved : List Char} (h : t.write = .ok saved) :
    Leads {} saved ⟨t, .finished⟩ := by
  obtain ⟨entries, stem, hws, hw, rfl⟩ := write_eq_ok_iff.mp h
  obtain ⟨octets, hspells, htext⟩ := exists_spells_of_writeText hw
  have hentries : Leads {} _ ⟨{ entries := t.entries }, .more⟩ :=
    (((leads_sign '\x7b' (by decide) rfl).trans (leads_name true .entries)).trans
      (leads_sign '\x7b' (by decide) rfl)).trans (leads_object t.entries hws)
  have hstem : Leads ⟨{ entries := t.entries }, .more⟩ ([','] ++ writeName .stem ++ stem)
      ⟨{ entries := t.entries, stem := t.stem }, .more⟩ := by
    refine ((leads_sign ',' (by decide) rfl).trans (leads_name false .stem)).trans
      (leads_token hspells ?_)
    change (textOf octets).map _ = _
    rw [htext]
    rfl
  have hlength : Leads ⟨{ entries := t.entries, stem := t.stem }, .more⟩
      ([','] ++ writeName .keyLength ++ (writeInt t.keyLength ++ [',']))
      ⟨{ entries := t.entries, stem := t.stem, keyLength := t.keyLength }, .key false⟩ :=
    ((leads_sign ',' (by decide) rfl).trans (leads_name false .keyLength)).trans
      (leads_writeInt (a := .comma) t.keyLength (by decide) (by decide) rfl)
  have hschema : Leads
      ⟨{ entries := t.entries, stem := t.stem, keyLength := t.keyLength }, .key false⟩
      (writeName .schema ++ (writeInt t.schema ++ ['\x7d'])) ⟨t, .finished⟩ :=
    (leads_name false .schema).trans
      (leads_writeInt (a := .braceClose) t.schema (by decide) (by decide) rfl)
  exact ((hentries.trans hstem).trans hlength).trans hschema

/-! ### Tables that can be saved -/

theorem exists_mapM_iff {α β ε : Type} {f : α → Except ε β} : ∀ {l : List α},
    (∃ ys, l.mapM f = .ok ys) ↔ ∀ x ∈ l, ∃ y, f x = .ok y
  | [] => by simp [pure, Except.pure]
  | x :: l => by
    rw [List.forall_mem_cons, ← exists_mapM_iff]
    constructor
    · rintro ⟨ys, h⟩
      obtain ⟨y, ys, hx, hl, -⟩ := exists_of_mapM_cons h
      exact ⟨⟨y, hx⟩, ys, hl⟩
    · rintro ⟨⟨y, hx⟩, ys, hl⟩
      rw [List.mapM_cons, hx, hl]
      exact ⟨_, rfl⟩

/-- **Which tables can be saved**: those in whose texts no surrogate stands alone. -/
theorem exists_write_iff : (∃ saved, t.write = .ok saved) ↔ t.Encodable := by
  have hentry : ∀ e : Text × Text,
      (∃ w, writeEntry e = .ok w) ↔ e.1.Encodable ∧ e.2.Encodable := fun e => by
    simp only [writeEntry_eq_ok_iff, ← exists_writeText_iff]
    constructor
    · rintro ⟨_, key, fragment, hkey, hfragment, -⟩
      exact ⟨⟨key, hkey⟩, fragment, hfragment⟩
    · rintro ⟨⟨key, hkey⟩, fragment, hfragment⟩
      exact ⟨_, key, fragment, hkey, hfragment, rfl⟩
  constructor
  · rintro ⟨saved, h⟩
    obtain ⟨ws, w, hws, hw, -⟩ := write_eq_ok_iff.mp h
    exact ⟨exists_writeText_iff.mp ⟨w, hw⟩,
      fun e he => (hentry e).mp (exists_mapM_iff.mp ⟨ws, hws⟩ e he)⟩
  · rintro ⟨hstem, hentries⟩
    obtain ⟨w, hw⟩ := exists_writeText_iff.mpr hstem
    obtain ⟨ws, hws⟩ := exists_mapM_iff.mpr fun e he => (hentry e).mpr (hentries e he)
    exact ⟨_, write_eq_ok_iff.mpr ⟨ws, w, hws, hw, rfl⟩⟩

/-! ### Reading them -/

variable {saved : List Char}

/-- **A saved table is read back**, its entries in the same order. Blanks may stand behind it. -/
theorem readAny_write (h : t.write = .ok saved) {blanks : List Octet}
    (hblanks : ∀ b ∈ blanks, Json.isSpace b = true) :
    readAny (encode saved ++ blanks) = .ok t := by
  rw [readAny, leads_write h, Json.tokens_blanks hblanks]
  rfl

theorem read_write_append (h : t.write = .ok saved) {blanks : List Octet}
    (hblanks : ∀ b ∈ blanks, Json.isSpace b = true) : read (encode saved ++ blanks) =
      if t.schema = tableSchema then .ok t else .error (.schema t.schema) := by
  rw [read, readAny_write h hblanks]
  rfl

theorem read_write (h : t.write = .ok saved) (hschema : t.schema = tableSchema) :
    read (encode saved) = .ok t := by
  have hread := read_write_append h (List.forall_mem_nil _)
  rwa [List.append_nil, if_pos hschema] at hread

theorem read_write_lineFeed (h : t.write = .ok saved) : read (encode (saved ++ ['\n'])) =
    if t.schema = tableSchema then .ok t else .error (.schema t.schema) := by
  have hblank : ∀ b ∈ encode ['\n'], Json.isSpace b = true := List.forall_mem_singleton.mpr rfl
  rw [Utf8.encode_append, read_write_append h hblank]

/-- **A saved table is read back as it was**, whatever its keys, fragments and numbers are, with its
entries in the same order and with or without the line feed at the end of its file. A table of
another schema is refused, and the message tells its schema. -/
theorem read_saved (h : t.Encodable) :
    let answer : Except SavedFault Table :=
      if t.schema = tableSchema then .ok t else .error (.schema t.schema)
    ∃ saved, t.write = .ok saved ∧ read (encode saved) = answer ∧
      read (encode (saved ++ ['\n'])) = answer ∧
      (SavedFault.schema t.schema).message =
        s!"Unsupported fragment table schema {t.schema} (expected {tableSchema})" := by
  intro answer
  obtain ⟨saved, hsaved⟩ := exists_write_iff.mpr h
  have hplain := read_write_append hsaved (List.forall_mem_nil _)
  rw [List.append_nil] at hplain
  exact ⟨saved, hsaved, hplain, read_write_lineFeed hsaved, rfl⟩

/-- A quote in a key, a backslash and a control character in a fragment, and a schema to come. -/
theorem read_saved_escaped :
    let t : Table :=
      { entries := Entries.ofList [(['"'], ['\\', '\x00']), (['1'], ['😀'])]
        stem := ['é'], keyLength := -3, schema := 2 }
    t.Encodable ∧ ∃ saved, t.write = .ok saved ∧
      read (encode (saved ++ ['\n'])) = .error (.schema 2) := by
  intro t
  have h : t.Encodable := ⟨by decide, by decide⟩
  obtain ⟨saved, hsaved, -, hread, -⟩ := read_saved h
  exact ⟨h, saved, hsaved, hread⟩

end Table

end Standin
