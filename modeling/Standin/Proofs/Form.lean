import Standin.Proofs.Masking

/-!
# Documents in octets

A document handed over as octets in UTF-8 is treated as its text is, and the answer is in octets.
There is no such answer if a surrogate stands alone in its text.

* `Buffer.inOctets_text_cases`: which answers can be put in octets;
* `mask_octets`, `unmask_octets`, `roundTrip_octets`: what is done to octets is done to their text,
  and the answer is put in octets;
* `Utf8.exists_fault`, `roundTrip_of_fault`: octets of no text are refused;
* **`octets_as_text`**: all this for masking, unmasking and round trips.
-/

namespace Standin

/-! ## Answers in octets -/

/-- The masked document with its text in octets. -/
def Masked.inOctets (m : Masked Buffer) : Except Problem (Masked Buffer) :=
  m.text.inOctets.map fun b => ⟨b, m.table⟩

/-- **Which answers can be put in octets**: those in which no surrogate stands alone. -/
theorem Buffer.inOctets_text_cases (t : Text) :
    (∃ chars, t = Text.ofChars chars ∧
      (Buffer.text t).inOctets = .ok (.octets (Utf8.encode chars))) ∨
    ¬ t.Encodable ∧ ∃ fault, (Buffer.text t).inOctets = .error (.lone fault) := by
  by_cases h : t.Encodable
  · obtain ⟨chars, rfl⟩ := Text.exists_ofChars_of_encodable h
    exact Or.inl ⟨chars, rfl, Form.seal_eq_ok_iff.mpr (Form.wrap_ofChars .octets chars)⟩
  · refine Or.inr ⟨h, ?_⟩
    rw [Buffer.inOctets, Form.seal]
    cases hwrap : Form.octets.wrap t with
    | error fault => exact ⟨fault, rfl⟩
    | ok b => exact absurd (Form.exists_wrap_octets_iff.mp ⟨b, hwrap⟩) h

section Octets

variable {s : Settings} {chars : List Char} {draws draws' : Draws} {file : Option Path}

theorem mask_octets : mask s (.buffer (.octets (Utf8.encode chars))) file draws =
    (mask s (.buffer (.text (Text.ofChars chars))) file draws).map id
      (Outcome.andThen Masked.inOctets) := by
  rw [mask_of_holds (.octets chars), mask_of_holds (.text _)]
  obtain ⟨draws', notices, problem | m⟩ := maskDocument s ⟨Text.ofChars chars, file⟩ draws <;> rfl

theorem unmask_octets {table : Table} :
    unmask s table (.buffer (.octets (Utf8.encode chars))) =
      (unmask s table (.buffer (.text (Text.ofChars chars)))).andThen Buffer.inOctets := by
  rw [unmask_of_holds (.octets chars), unmask_of_holds (.text _)]
  obtain ⟨notices, problem | t⟩ :=
    unmaskText s.strict.isOn table.stem table.entries.toList (Text.ofChars chars) <;> rfl

/-! ### Round trips -/

variable {transform : Text → Supply} {supply : Supply} {notices : List Notice}

theorem roundTrip_of_mask_error {problem : Problem}
    (hmask : mask s supply none draws = (draws', ⟨notices, .error problem⟩)) :
    roundTrip s transform supply draws = (draws', ⟨notices, .error problem⟩) := by
  rw [roundTrip, hmask]

theorem roundTrip_of_mask {m : Masked Buffer} {text : Text} {form : Form}
    (hmask : mask s supply none draws = (draws', ⟨notices, .ok m⟩))
    (hread : m.text.read = .ok (text, form)) :
    roundTrip s transform supply draws =
      (draws', ⟨notices ++ (unmask s m.table (transform text)).notices,
        (unmask s m.table (transform text)).result.bind supply.handBack⟩) := by
  rw [roundTrip, hmask]
  simp only [hread]

theorem roundTrip_octets {m : Masked Buffer}
    (hmask : (mask s (.buffer (.octets (Utf8.encode chars))) none draws).2.result = .ok m) :
    roundTrip s transform (.buffer (.octets (Utf8.encode chars))) draws =
      (roundTrip s transform (.buffer (.text (Text.ofChars chars))) draws).map id
        (Outcome.andThen Buffer.inOctets) := by
  cases hm : maskDocument s ⟨Text.ofChars chars, none⟩ draws with
  | mk draws' outcome =>
  have hcoded : mask s (.buffer (.octets (Utf8.encode chars))) none draws =
      (draws', outcome.andThen (Masked.seal .octets)) := by
    rw [mask_of_holds (.octets chars), hm]
    rfl
  rw [hcoded] at hmask
  obtain ⟨notices, problem | m'⟩ := outcome
  · cases hmask
  have hseal : m'.seal .octets = .ok m := hmask
  have hplain : mask s (.buffer (.text (Text.ofChars chars))) none draws =
      (draws', ⟨notices, .ok ⟨.text m'.text, m'.table⟩⟩) := by
    rw [mask_of_holds (.text _), hm]
    rfl
  obtain ⟨hwrap, htable⟩ := Masked.seal_eq_ok_iff.mp hseal
  have hread : m.text.read = .ok (m'.text, .octets) := Buffer.read_eq_ok_iff.mpr hwrap
  replace hcoded : mask s (.buffer (.octets (Utf8.encode chars))) none draws =
      (draws', ⟨notices, .ok m⟩) := by
    rw [hcoded, ← hseal]
    rfl
  -- both runs unmask the same text with the same table
  rw [roundTrip_of_mask hcoded hread, roundTrip_of_mask hplain rfl, htable]
  cases (unmask s m'.table (transform m'.text)).result <;> rfl

end Octets

/-! ## Octets of no text -/

theorem Utf8.exists_fault {octets : List Octet} (h : ∀ chars, octets ≠ encode chars) :
    ∃ fault, decode octets = .error fault := by
  cases hd : decode octets with
  | ok chars => exact absurd (decode_eq_ok_iff.mp hd) (h chars)
  | error fault => exact ⟨fault, rfl⟩

theorem roundTrip_of_fault {s : Settings} {transform : Text → Supply} {supply : Supply}
    {draws : Draws} {fault : SupplyFault} (h : supply.read = .error fault) :
    roundTrip s transform supply draws = (draws, ⟨[], .error (.unsupported fault)⟩) :=
  roundTrip_of_mask_error (mask_of_fault h)

/-! ## Both -/

/-- **A document in octets is treated as its text**, and the answer is put in octets: masking and
unmasking use up the same numbers, give the same notices and the same table, and end in the same
problem or in the same text; so does a round trip, if its masked document can be put in octets. An
answer cannot just if a surrogate stands alone in its text. Octets that are those of no text are
refused by all three. -/
theorem octets_as_text (s : Settings) (table : Table) (transform : Text → Text)
    (file : Option Path) (draws : Draws) :
    let turn : Text → Supply := fun text => .buffer (.text (transform text))
    (∀ chars : List Char,
      let plain : Supply := .buffer (.text (Text.ofChars chars))
      let coded : Supply := .buffer (.octets (Utf8.encode chars))
      mask s coded file draws =
        (mask s plain file draws).map id (Outcome.andThen Masked.inOctets) ∧
      unmask s table coded = (unmask s table plain).andThen Buffer.inOctets ∧
      (∀ m, (mask s coded none draws).2.result = .ok m → roundTrip s turn coded draws =
        (roundTrip s turn plain draws).map id (Outcome.andThen Buffer.inOctets)) ∧
      ∀ draws' notices problem, mask s coded none draws = (draws', ⟨notices, .error problem⟩) →
        roundTrip s turn coded draws = (draws', ⟨notices, .error problem⟩)) ∧
    (∀ t : Text,
      (∃ chars, t = Text.ofChars chars ∧
        (Buffer.text t).inOctets = .ok (.octets (Utf8.encode chars))) ∨
      ¬ t.Encodable ∧ ∃ fault, (Buffer.text t).inOctets = .error (.lone fault)) ∧
    ∀ octets : List Utf8.Octet, (∀ chars : List Char, octets ≠ Utf8.encode chars) →
      ∃ fault : Utf8.Fault,
        let refused : Problem := .unsupported (.notText fault)
        mask s (.buffer (.octets octets)) file draws = (draws, ⟨[], .error refused⟩) ∧
        unmask s table (.buffer (.octets octets)) = ⟨[], .error refused⟩ ∧
        roundTrip s turn (.buffer (.octets octets)) draws = (draws, ⟨[], .error refused⟩) := by
  intro turn
  refine ⟨fun chars => ⟨mask_octets, unmask_octets, fun _ => roundTrip_octets,
    fun _ _ _ => roundTrip_of_mask_error⟩, Buffer.inOctets_text_cases, fun octets h => ?_⟩
  obtain ⟨fault, hd⟩ := Utf8.exists_fault h
  have hread : (Supply.buffer (.octets octets)).read = .error (.notText fault) := by
    rw [Supply.read, Buffer.read, hd]
  exact ⟨fault, mask_of_fault hread, unmask_of_fault hread, roundTrip_of_fault hread⟩

/-- Octets of a text end in a problem where the text does not, if the table has a fragment with a
surrogate that stands alone. -/
theorem unmask_octets_lone :
    let table : Table :=
      { entries := { toList := [(Text.ofString "0000001", [.surrogate 0])], nodup := by decide } }
    unmask Settings.standard table (.buffer (.text (Text.ofString "FRAGMENT0000001"))) =
      ⟨[], .ok (.text [.surrogate 0])⟩ ∧
    unmask Settings.standard table (.buffer (.octets (Utf8.encode "FRAGMENT0000001".toList))) =
      ⟨[], .error (.lone ⟨0, 0, 1⟩)⟩ := by
  intro table
  have hplain : unmask Settings.standard table (.buffer (.text (Text.ofString "FRAGMENT0000001"))) =
      ⟨[], .ok (.text [.surrogate 0])⟩ := by
    cbv
  refine ⟨hplain, ?_⟩
  rw [unmask_octets, ← Text.ofString, hplain]
  rfl

/-- A surrogate in three octets is no text. -/
theorem octets_as_text_surrogate :
    let octets : List Utf8.Octet := [0xED, 0xA0, 0x80]
    (∀ chars : List Char, octets ≠ Utf8.encode chars) ∧
      ∃ fault : Utf8.Fault,
        (mask Settings.standard (.buffer (.octets octets)) none ⟨id, 0⟩).2.result =
          .error (.unsupported (.notText fault)) := by
  intro octets
  have h : ∀ chars : List Char, octets ≠ Utf8.encode chars := by
    intro chars heq
    have hd : Utf8.decode octets = .error ⟨0, 0xED, 1, .continuation⟩ := rfl
    rw [Utf8.decode_eq_ok_iff.mpr heq] at hd
    cases hd
  obtain ⟨fault, hmask, -⟩ :=
    (octets_as_text Settings.standard {} id none ⟨id, 0⟩).2.2 octets h
  exact ⟨h, fault, congrArg (fun r => r.2.result) hmask⟩

end Standin
