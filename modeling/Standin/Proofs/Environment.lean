import Standin.Proofs.Key
import Standin.Proofs.Settings
import Mathlib.Data.List.TakeWhile

/-!
# Settings spelled as variables

* `Text.strip`, `Text.strip_append`: a text without the blanks around it;
* `Text.Recased`, `Text.Recased.lower_eq`: a word in letters of either case, in lower case;
* `Text.readInt?_numeral`, `Text.readInt?_eq_none`: a numeral with blanks around it is read, one
  with another character around it is not;
* `Environment.SpellsSwitch`, `Environment.Spells`: the variables spell settings;
* **`ofEnvironment_spelled`**: the settings are read from the variables, unless a separator stands
  around the key length, and an empty variable is none;
* `separator_around_keyLength`: a separator is a blank around a switch, but not around a number.
-/

namespace Standin

/-- The small letter of a capital of ASCII. -/
def CodePoint.toLower : CodePoint → CodePoint
  | char c => c.toLower
  | surrogate n => surrogate n

namespace Text

variable {s w v front back : Text} {c : CodePoint} {p : CodePoint → Bool} {n : Nat}

/-! ## Blanks around a word -/

/-- The text without the characters of a kind at its ends. -/
def strip (p : CodePoint → Bool) (s : Text) : Text := ((s.dropWhile p).reverse.dropWhile p).reverse

theorem trim_eq_strip (s : Text) : trim s = strip isBlank s := rfl

/-- What stands around a word is stripped, if the word itself has nothing of the kind. -/
theorem strip_append (hf : ∀ c ∈ front, p c = true) (hw : ∀ c ∈ w, p c = false)
    (hb : ∀ c ∈ back, p c = true) : strip p (front ++ w ++ back) = w := by
  have hkeep : ∀ {u : Text}, (∀ c ∈ u, p c = false) → u.dropWhile p = u := fun hu =>
    List.dropWhile_eq_self_iff.mpr fun _ => by simp [hu _ (List.getElem_mem _)]
  have hfront : (front ++ w ++ back).dropWhile p = (w ++ back).dropWhile p := by
    rw [List.append_assoc, List.dropWhile_append_of_pos hf]
  cases w with
  | nil =>
    have hall : back.dropWhile p = [] := List.dropWhile_eq_nil_iff.mpr hb
    rw [strip, hfront, List.nil_append, hall]
    rfl
  | cons c w =>
    have hword : (c :: w ++ back).dropWhile p = c :: w ++ back :=
      List.dropWhile_cons_of_neg (by simp [hw c List.mem_cons_self])
    rw [strip, hfront, hword, List.reverse_append,
      List.dropWhile_append_of_pos fun d hd => hb d (List.mem_reverse.mp hd),
      hkeep fun d hd => hw d (List.mem_reverse.mp hd), List.reverse_reverse]

theorem mem_strip (hc : c ∈ s) (hp : p c = false) : c ∈ strip p s := by
  have hdrop : ∀ {u : Text}, c ∈ u → c ∈ u.dropWhile p := by
    intro u hu
    induction u with
    | nil => exact hu
    | cons d u ih =>
      by_cases hd : p d = true
      · rw [List.dropWhile_cons_of_pos hd]
        rcases List.mem_cons.mp hu with rfl | hu
        · rw [hp] at hd
          cases hd
        · exact ih hu
      · rwa [List.dropWhile_cons_of_neg hd]
  exact List.mem_reverse.mpr (hdrop (List.mem_reverse.mpr (hdrop hc)))

/-! ## Letters of either case -/

theorem forall_ascii {P : CodePoint → Prop} (h : ∀ n < 0x80, P (Char.ofNat n)) :
    ∀ {c : CodePoint}, c.toNat < 0x80 → P c
  | .char c, hc => Char.ofNat_toNat c ▸ h c.toNat hc
  | .surrogate _, hc => absurd hc (Nat.not_lt.mpr ((by decide : 0x80 ≤ 0xD800).trans
      (Nat.le_add_right _ _)))

theorem lowerChar_of_ascii (hc : c.toNat < 0x80) : lowerChar c = c.toLower := by
  -- of the runs of capitals only the first one lies there
  have hlate : ∀ run ∈ lowerRuns.tail, 0x80 ≤ run.1 := by decide +kernel
  have hfirst := forall_ascii (P := fun c => (bif 0x41 ≤ c.toNat && c.toNat ≤ 0x5A &&
    (c.toNat - 0x41) % 1 == 0 then .char (Char.ofNat (c.toNat + 32 : Int).toNat) else c) =
      c.toLower)
    (by decide) hc
  rw [← hfirst, lowerChar, show lowerRuns = (0x41, 0x5A, 1, 32) :: lowerRuns.tail from rfl,
    List.find?_cons, List.find?_eq_none.mpr ?_]
  · dsimp only
    cases 0x41 ≤ c.toNat && c.toNat ≤ 0x5A && (c.toNat - 0x41) % 1 == 0 <;> rfl
  · intro run hrun
    have := hlate run hrun
    simp only [Bool.and_eq_true, decide_eq_true_eq, not_and]
    omega

theorem isBlank_toLower (hc : c.toNat < 0x80) : isBlank c.toLower = isBlank c :=
  forall_ascii (P := fun c => isBlank c.toLower = isBlank c) (by decide +kernel) hc

/-- No other character has one of the first 128 as its small letter. -/
theorem ascii_of_toLower : ∀ {c : CodePoint}, c.toLower.toNat < 0x80 → c.toNat < 0x80
  | .char c, hc => by
    simp only [CodePoint.toLower, CodePoint.toNat] at hc
    unfold Char.toLower at hc
    split at hc
    · next h =>
      have hz : c.toNat ≤ 'Z'.toNat := UInt32.le_iff_toNat_le.mp h.2
      exact Nat.lt_of_le_of_lt hz (by decide)
    · exact hc
  | .surrogate _, hc => hc

/-- The word is made of the given small letters, each of them small or capital. -/
def Recased (w v : Text) : Prop := w.map CodePoint.toLower = v

theorem Recased.ascii (h : Recased w v) (hv : ∀ c ∈ v, c.toNat < 0x80) :
    ∀ c ∈ w, c.toNat < 0x80 := fun _ hc =>
  ascii_of_toLower (hv _ (h ▸ List.mem_map_of_mem hc))

theorem Recased.isBlank_eq_false (h : Recased w v) (hv : ∀ c ∈ v, c.toNat < 0x80)
    (hblank : ∀ c ∈ v, isBlank c = false) : ∀ c ∈ w, isBlank c = false := fun c hc => by
  rw [← isBlank_toLower (h.ascii hv c hc)]
  exact hblank _ (h ▸ List.mem_map_of_mem hc)

theorem lowerAfter_of_ascii (hs : ∀ c ∈ s, c.toNat < 0x80) (before : Text) :
    lowerAfter before s = s.map CodePoint.toLower := by
  induction s generalizing before with
  | nil => rfl
  | cons c s ih =>
    have hc := hs c List.mem_cons_self
    have hne : ∀ d : CodePoint, 0x80 ≤ d.toNat → c ≠ d := fun d hd h =>
      absurd (h ▸ hc) (Nat.not_lt.mpr hd)
    rw [lowerAfter, ih fun d hd => hs d (List.mem_cons_of_mem c hd)]
    rw [if_neg (hne '\u0130' (by decide)), if_neg (hne '\u03A3' (by decide)),
      lowerChar_of_ascii hc]
    rfl

theorem Recased.lower_eq (h : Recased w v) (hv : ∀ c ∈ v, c.toNat < 0x80) : lower w = v :=
  (lowerAfter_of_ascii (h.ascii hv) []).trans h

/-! ## Numerals -/

theorem decimalValue?_of_isDigit (hc : c.isDigit = true) :
    decimalValue? c = some (c.toNat - '0'.toNat) := by
  obtain ⟨d, hd, rfl⟩ := exists_digitChar hc
  have hall : ∀ d < 10, decimalValue? (.char d.digitChar) =
      some (d.digitChar.toNat - '0'.toNat) := by
    decide
  exact hall d hd

theorem readDigits?_digits {acc : Nat} {fresh : Bool} (hs : ∀ c ∈ s, c.isDigit = true)
    (hne : fresh = true → s ≠ []) : readDigits? acc fresh s =
      some (s.foldl (fun k c => 10 * k + (c.toNat - '0'.toNat)) acc) := by
  induction s generalizing acc fresh with
  | nil =>
    cases fresh with
    | false => rfl
    | true => exact absurd rfl (hne rfl)
  | cons c s ih =>
    have hc := hs c List.mem_cons_self
    have hscore : c ≠ '_' := by
      rintro rfl
      exact absurd hc (by decide)
    rw [readDigits?, if_neg hscore, decimalValue?_of_isDigit hc, Option.bind_some,
      ih (fun d hd => hs d (List.mem_cons_of_mem c hd)) (fun h => by cases h), List.foldl_cons]

theorem readDigits?_eq_none {acc : Nat} {fresh : Bool} (hc : c ∈ s) (hscore : c ≠ '_')
    (hvalue : decimalValue? c = none) : readDigits? acc fresh s = none := by
  induction s generalizing acc fresh with
  | nil => cases hc
  | cons d s ih =>
    rw [readDigits?]
    rcases List.mem_cons.mp hc with rfl | hc
    · rw [if_neg hscore, hvalue, Option.bind_none]
    · split
      · split
        · rfl
        · exact ih hc
      · cases decimalValue? d with
        | none => rfl
        | some value => exact ih hc

/-- The decimal digits of a number as a text. -/
def numeral (n : Nat) : Text := ofChars (decimal n)

theorem isDigit_of_mem_numeral (hc : c ∈ numeral n) : c.isDigit = true := by
  obtain ⟨x, hx, rfl⟩ := mem_ofChars.mp hc
  exact Nat.isDigit_of_mem_toDigits (by decide) (by decide) hx

theorem numeral_ne_nil (n : Nat) : numeral n ≠ [] := fun h =>
  Nat.toDigits_ne_nil (List.map_eq_nil_iff.mp h)

theorem readDigits?_numeral (n : Nat) : readDigits? 0 true (numeral n) = some n := by
  rw [readDigits?_digits (fun c hc => isDigit_of_mem_numeral hc) fun _ => numeral_ne_nil n,
    numeral, ofChars, List.foldl_map]
  refine congrArg some (Eq.trans ?_ (Nat.ofDigitChars_ten_toDigits (n := n)))
  rw [Nat.ofDigitChars_eq_foldl]
  rfl

/-- A numeral without its sign. -/
def unsigned : Text → Text
  | '+' :: s => s
  | '-' :: s => s
  | s => s

theorem unsigned_of_isDigit (hs : ∀ c ∈ s, c.isDigit = true) : unsigned s = s := by
  unfold unsigned
  split
  · exact absurd (hs '+' List.mem_cons_self) (by decide)
  · exact absurd (hs '-' List.mem_cons_self) (by decide)
  · rfl

theorem mem_unsigned (hc : c ∈ s) (hplus : c ≠ '+') (hminus : c ≠ '-') : c ∈ unsigned s := by
  unfold unsigned
  split
  · exact (List.mem_cons.mp hc).resolve_left hplus
  · exact (List.mem_cons.mp hc).resolve_left hminus
  · exact hc

theorem readInt?_eq (s : Text) : readInt? s =
    if ((unsigned (strip isNumeralBlank s)).filter fun c : CodePoint => c ≠ '_').length >
      maxDigits then none
    else (readDigits? 0 true (unsigned (strip isNumeralBlank s))).map fun (n : Nat) =>
      if (strip isNumeralBlank s).head? = some (.char '-') then -(n : Int) else n := rfl

theorem readInt?_numeral (hf : ∀ c ∈ front, isNumeralBlank c = true)
    (hb : ∀ c ∈ back, isNumeralBlank c = true) (hlen : (numeral n).length ≤ maxDigits) :
    readInt? (front ++ numeral n ++ back) = some (n : Int) := by
  have hdigit : ∀ c ∈ numeral n, c.isDigit = true := fun c hc => isDigit_of_mem_numeral hc
  have hplain : ∀ c ∈ numeral n, isNumeralBlank c = false ∧ c ≠ '-' := by
    intro c hc
    obtain ⟨d, hd, rfl⟩ := exists_digitChar (hdigit c hc)
    have hall : ∀ d < 10, isNumeralBlank (.char d.digitChar) = false ∧
        CodePoint.char d.digitChar ≠ '-' := by decide
    exact hall d hd
  have hstrip := strip_append hf (fun c hc => (hplain c hc).1) hb
  have hhead : (numeral n).head? ≠ some (.char '-') := fun h =>
    (hplain '-' (List.mem_of_head? h)).2 rfl
  have hfew : ¬ ((numeral n).filter fun c : CodePoint => c ≠ '_').length > maxDigits :=
    Nat.not_lt.mpr ((List.length_filter_le _ _).trans hlen)
  rw [readInt?_eq, hstrip, unsigned_of_isDigit hdigit, if_neg hfew, readDigits?_numeral,
    Option.map_some, if_neg hhead]

/-- A character that is no blank and no part of a numeral spoils it wherever it stands. -/
theorem readInt?_eq_none (hc : c ∈ s) (hblank : isNumeralBlank c = false)
    (hpart : c ∉ (['+', '-', '_'] : Text)) (hvalue : decimalValue? c = none) :
    readInt? s = none := by
  simp only [List.mem_cons, List.not_mem_nil, or_false, not_or] at hpart
  have hmem := mem_unsigned (mem_strip hc hblank) hpart.1 hpart.2.1
  rw [readInt?_eq, readDigits?_eq_none hmem hpart.2.2 hvalue, Option.map_none, ite_self]

/-- The information separators of ASCII. -/
def isSeparator (c : CodePoint) : Bool := 0x1C ≤ c.toNat && c.toNat ≤ 0x1F

theorem isNumeralBlank_eq (c : CodePoint) : isNumeralBlank c = (isBlank c && !isSeparator c) := rfl

theorem readInt?_of_isSeparator (hc : c ∈ s) (hsep : isSeparator c = true) : readInt? s = none := by
  have hascii : c.toNat < 0x80 := by
    simp only [isSeparator, Bool.and_eq_true, decide_eq_true_eq] at hsep
    omega
  have hall : isSeparator c = true → c ∉ (['+', '-', '_'] : Text) ∧ decimalValue? c = none :=
    forall_ascii (P := fun c => isSeparator c = true → c ∉ (['+', '-', '_'] : Text) ∧
      decimalValue? c = none) (by decide +kernel) hascii
  obtain ⟨hpart, hvalue⟩ := hall hsep
  refine readInt?_eq_none hc ?_ hpart hvalue
  rw [isNumeralBlank_eq, hsep, Bool.not_true, Bool.and_false]

end Text

/-! ## Variables -/

theorem Settings.length_numeral_keyLength (s : Settings) :
    (Text.numeral s.keyLength).length ≤ Text.maxDigits := by
  have hmem := s.keyLength_mem
  have hlen : (Text.decimal s.keyLength).length ≤ maxKeyLength :=
    (Nat.length_toDigits_le_iff (by decide) (by decide)).mpr
      (Nat.lt_of_le_of_lt hmem.2 (by decide))
  exact (Text.length_ofChars _).le.trans (hlen.trans (by decide))

namespace Environment

open Text (Recased)

variable {env : Environment} {raw front back : Text} {s : Settings} {b : Bool}

/-- The words for a switch. -/
def words : Bool → List String
  | true => ["1", "true", "yes", "on"]
  | false => ["0", "false", "no", "off"]

/-- One of the words for a switch, in letters of either case and with any blanks around it. -/
def SpellsSwitch (raw : Text) (b : Bool) : Prop :=
  ∃ front word back, raw = front ++ word ++ back ∧ (∀ c ∈ front ++ back, Text.isBlank c = true) ∧
    ∃ v ∈ words b, Recased word (Text.ofString v)

/-- The variables spell settings; the two texts are the blanks around the key length. A style may
be given as well, and any other variables. -/
structure Spells (env : Environment) (s : Settings) (front back : Text) : Prop where
  opening : env "FRAGMASK_OPEN" = some s.markers.opening.symbol
  closing : env "FRAGMASK_CLOSE" = some s.markers.closing.symbol
  stem : env "FRAGMASK_PREFIX" = some s.stem
  keyLength : env "FRAGMASK_KEY_LENGTH" = some (front ++ Text.numeral s.keyLength ++ back)
  blank : ∀ c ∈ front ++ back, Text.isBlank c = true
  strict : ∃ raw b, env "FRAGMASK_STRICT_RESTORE" = some raw ∧ SpellsSwitch raw b ∧
    s.strict = .bool b
  noticeStrays : s.noticeStrays = .bool true
  style : ∀ raw, env "FRAGMASK_STYLE" = some raw →
    raw = [] ∨ ∃ style : Style, Recased raw (Text.ofString style.name)

theorem get?_of_eq (name : String) (h : env s!"FRAGMASK_{name}" = some raw) (hne : raw ≠ []) :
    env.get? name = some raw := by
  rw [get?, h, Option.filter_some, if_pos (by simpa using hne)]

theorem words_plain {v : String} (hv : v ∈ words b) : Text.ofString v ≠ [] ∧
    (∀ c ∈ Text.ofString v, c.toNat < 0x80) ∧
      ∀ c ∈ Text.ofString v, Text.isBlank c = false := by
  have hall : ∀ b, ∀ v ∈ words b, Text.ofString v ≠ [] ∧
      (Text.ofString v).all (·.toNat < 0x80) = true ∧
        (Text.ofString v).any Text.isBlank = false := by decide
  simpa only [List.all_eq_true, decide_eq_true_eq, List.any_eq_false, Bool.not_eq_true] using
    hall b v hv

theorem SpellsSwitch.ne_nil (h : SpellsSwitch raw b) : raw ≠ [] := by
  obtain ⟨front, word, back, rfl, -, v, hv, hword⟩ := h
  intro hnil
  obtain rfl : word = [] := (List.append_eq_nil_iff.mp (List.append_eq_nil_iff.mp hnil).1).2
  exact (words_plain hv).1 hword.symm

theorem switch?_of_spells (h : SpellsSwitch raw b) : switch? raw = some b := by
  obtain ⟨front, word, back, rfl, hblank, v, hv, hword⟩ := h
  obtain ⟨-, hascii, hplain⟩ := words_plain hv
  have htrim : Text.trim (front ++ word ++ back) = word := by
    rw [Text.trim_eq_strip]
    exact Text.strip_append (fun c hc => hblank c (List.mem_append_left _ hc))
      (hword.isBlank_eq_false hascii hplain) fun c hc => hblank c (List.mem_append_right _ hc)
  simp only [switch?, htrim, hword.lower_eq hascii]
  cases b with
  | true => exact if_pos (List.mem_map_of_mem hv)
  | false =>
    have hnot : ∀ v ∈ words false, Text.ofString v ∉ (words true).map Text.ofString := by decide
    exact (if_neg (hnot v hv)).trans (if_pos (List.mem_map_of_mem hv))

theorem ofName_of_recased {style : Style} (h : Recased raw (Text.ofString style.name)) :
    Style.ofName (Text.lower raw) = .ok style := by
  have hascii : (Text.ofString style.name).all (·.toNat < 0x80) = true := by cases style <;> decide
  rw [h.lower_eq (by simpa using hascii)]
  cases style <;> decide

namespace Spells

theorem style_cases (h : env.Spells s front back) : env.get? "STYLE" = none ∨
    ∃ raw style, env.get? "STYLE" = some raw ∧ Style.ofName (Text.lower raw) = .ok style := by
  cases hstyle : env "FRAGMASK_STYLE" with
  | none => exact Or.inl (congrArg (Option.filter (· ≠ [])) hstyle)
  | some raw =>
    by_cases hne : raw = []
    · exact Or.inl (by rw [hne] at hstyle; exact congrArg (Option.filter (· ≠ [])) hstyle)
    · obtain ⟨style, hname⟩ := (h.style raw hstyle).resolve_left hne
      exact Or.inr ⟨raw, style, get?_of_eq "STYLE" hstyle hne, ofName_of_recased hname⟩

theorem markers_eq (h : env.Spells s front back) : env.markers = .ok s.markers := by
  have hopening := get?_of_eq "OPEN" h.opening s.markers.opening.symbol_ne
  have hclosing := get?_of_eq "CLOSE" h.closing s.markers.closing.symbol_ne
  have hboth : Markers.ofTexts s.markers.opening.symbol s.markers.closing.symbol = .ok s.markers :=
    Markers.ofTexts_eq_ok_iff.mpr ⟨rfl, rfl⟩
  -- a style is looked up, although both markers are given
  rcases h.style_cases with hstyle | ⟨raw, style, hstyle, hname⟩
  · simp only [markers, hopening, hclosing, hstyle]
    exact hboth
  · simp only [markers, hopening, hclosing, hstyle, hname]
    exact hboth

theorem strict_eq (h : env.Spells s front back) : env.strict = .ok (some s.strict) := by
  obtain ⟨raw, b, hraw, hspells, hb⟩ := h.strict
  have hget := get?_of_eq "STRICT_RESTORE" hraw hspells.ne_nil
  simp only [Environment.strict, hget, switch?_of_spells hspells, hb]

theorem stem_eq (h : env.Spells s front back) : env.get? "PREFIX" = some s.stem :=
  get?_of_eq "PREFIX" h.stem s.stem_ne

theorem keyLength_eq (h : env.Spells s front back) : env.keyLength =
    if (front ++ back).any Text.isSeparator then
      .error (.notNumber "FRAGMASK_KEY_LENGTH" (front ++ Text.numeral s.keyLength ++ back))
    else .ok (some (.int s.keyLength)) := by
  have hget := get?_of_eq "KEY_LENGTH" h.keyLength (by
    simp [Text.numeral_ne_nil])
  split
  · next hsep =>
    obtain ⟨c, hc, hsep⟩ := List.any_eq_true.mp hsep
    have hmem : c ∈ front ++ Text.numeral s.keyLength ++ back := by
      rcases List.mem_append.mp hc with hc | hc
      · exact List.mem_append_left _ (List.mem_append_left _ hc)
      · exact List.mem_append_right _ hc
    simp only [Environment.keyLength, hget, Text.readInt?_of_isSeparator hmem hsep]
  · next hsep =>
    have hblank : ∀ c ∈ front ++ back, Text.isNumeralBlank c = true := fun c hc => by
      have hother : Text.isSeparator c = false := Bool.eq_false_iff.mpr fun h =>
        hsep (List.any_eq_true.mpr ⟨c, hc, h⟩)
      rw [Text.isNumeralBlank_eq, h.blank c hc, hother]
      rfl
    have hread := Text.readInt?_numeral (n := s.keyLength)
      (fun c hc => hblank c (List.mem_append_left _ hc))
      (fun c hc => hblank c (List.mem_append_right _ hc)) s.length_numeral_keyLength
    simp only [Environment.keyLength, hget, hread]

end Spells

theorem get?_update_nil (env : Environment) (name : String) :
    get? (Function.update env name (some [])) = get? (Function.update env name none) := by
  funext n
  unfold get?
  by_cases h : s!"FRAGMASK_{n}" = name
  · rw [h, Function.update_self, Function.update_self]
    rfl
  · rw [Function.update_of_ne h, Function.update_of_ne h]

end Environment

/-- Settings are read from the values that variables have. -/
theorem Settings.ofEnvironment_congr {env env' : Environment} (h : env.get? = env'.get?) :
    Settings.ofEnvironment env = Settings.ofEnvironment env' := by
  simp only [ofEnvironment, Environment.markers, Environment.keyLength, Environment.strict, h]

/-- **Settings are read from the variables that spell them**, whatever the other variables are,
unless a separator stands among the blanks around the key length: then this is no number. And an
empty variable counts as one that is not set, in any environment. -/
theorem ofEnvironment_spelled :
    (∀ (env : Environment) (s : Settings) (front back : Text), env.Spells s front back →
      Settings.ofEnvironment env =
        if (front ++ back).any Text.isSeparator then
          .error (.notNumber "FRAGMASK_KEY_LENGTH" (front ++ Text.numeral s.keyLength ++ back))
        else .ok s) ∧
    ∀ (env : Environment) (name : String),
      Settings.ofEnvironment (Function.update env name (some [])) =
        Settings.ofEnvironment (Function.update env name none) := by
  refine ⟨fun env s front back h => ?_, fun env name =>
    Settings.ofEnvironment_congr (Environment.get?_update_nil env name)⟩
  simp only [Settings.ofEnvironment, h.markers_eq, h.keyLength_eq, h.stem_eq, h.strict_eq]
  split
  · rfl
  · refine Draft.check_eq_ok_iff.mpr ?_
    rw [Settings.draft, h.noticeStrays]
    rfl

/-- Settings with a stem of their own, spelled with a style that does not matter. -/
theorem ofEnvironment_spelled_overStyle :
    ∃ s : Settings, s.stem = (['Ü'] : Text) ∧ s.keyLength = 3 ∧
    let env : Environment := fun name => List.lookup name [
      ("FRAGMASK_OPEN", ['<', '<']), ("FRAGMASK_CLOSE", [' ']), ("FRAGMASK_PREFIX", ['Ü']),
      ("FRAGMASK_KEY_LENGTH", ['\u3000', '3', '\t']),
      ("FRAGMASK_STRICT_RESTORE", ['\x1C', 'O', 'f', 'F']),
      ("FRAGMASK_STYLE", ['P', 'H', 'p']), ("PATH", ['/'])]
    env.Spells s ['\u3000'] ['\t'] ∧ Settings.ofEnvironment env = .ok s := by
  let s : Settings :=
    { Settings.standard with
      markers := ⟨⟨['<', '<'], by decide⟩, ⟨[' '], by decide⟩, by decide⟩
      keyLength := 3
      stem := ['Ü']
      strict := .bool false
      keyLength_mem := by decide
      stem_ne := by decide
      stem_digitFree := by decide +kernel
      opening_apart := by decide
      closing_apart := by decide }
  refine ⟨s, rfl, rfl, ?_⟩
  intro env
  have hswitch : Environment.SpellsSwitch ['\x1C', 'O', 'f', 'F'] false :=
    ⟨['\x1C'], ['O', 'f', 'F'], [], rfl, List.all_eq_true.mp rfl, "off", by decide, rfl⟩
  have h : env.Spells s ['\u3000'] ['\t'] :=
    { opening := rfl, closing := rfl, stem := rfl, keyLength := by cbv
      blank := List.all_eq_true.mp rfl
      strict := ⟨_, _, rfl, hswitch, rfl⟩
      noticeStrays := rfl
      style := fun raw hraw => Or.inr ⟨.php, by rw [← Option.some.inj hraw]; rfl⟩ }
  exact ⟨h, (ofEnvironment_spelled.1 env s _ _ h).trans (if_neg (by decide))⟩

/-- **A separator is a blank around a switch, but not around a number**: with one in front of the
key length, and else spelled as they are, the standard settings are not read. -/
theorem separator_around_keyLength :
    let env : Environment := fun name => List.lookup name [
      ("FRAGMASK_OPEN", ['\x7b', '%']), ("FRAGMASK_CLOSE", ['%', '\x7d']),
      ("FRAGMASK_PREFIX", ['F', 'R', 'A', 'G', 'M', 'E', 'N', 'T']),
      ("FRAGMASK_KEY_LENGTH", ['\x1C', '7']),
      ("FRAGMASK_STRICT_RESTORE", ['\x1C', 'o', 'n'])]
    env.Spells Settings.standard ['\x1C'] [] ∧
      Settings.ofEnvironment env = .error (.notNumber "FRAGMASK_KEY_LENGTH" ['\x1C', '7']) ∧
      Settings.ofEnvironment env ≠ .ok Settings.standard := by
  intro env
  have hswitch : Environment.SpellsSwitch ['\x1C', 'o', 'n'] true :=
    ⟨['\x1C'], ['o', 'n'], [], rfl, List.all_eq_true.mp rfl, "on", by decide, rfl⟩
  have h : env.Spells Settings.standard ['\x1C'] [] :=
    { opening := rfl, closing := rfl, stem := rfl, keyLength := by cbv
      blank := List.all_eq_true.mp rfl
      strict := ⟨_, _, rfl, hswitch, rfl⟩
      noticeStrays := rfl
      style := fun raw hraw => by cases hraw }
  have hget : env.get? "KEY_LENGTH" = some (['\x1C', '7'] : Text) := rfl
  have hnumber : Text.readInt? ['\x1C', '7'] = none := by decide
  have hkeyLength : env.keyLength = .error (.notNumber "FRAGMASK_KEY_LENGTH" ['\x1C', '7']) := by
    simp only [Environment.keyLength, hget, hnumber]
  have hread : Settings.ofEnvironment env =
      .error (.notNumber "FRAGMASK_KEY_LENGTH" ['\x1C', '7']) := by
    simp only [Settings.ofEnvironment, h.markers_eq, hkeyLength]
    rfl
  refine ⟨h, hread, ?_⟩
  rw [hread]
  intro h
  cases h

end Standin
