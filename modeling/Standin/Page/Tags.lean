import Standin.Text.Blank
import Standin.Text.Lower

/-!
# Tags

A tag stands in brackets and begins with a lower-case letter, a number sign, a slash or an at sign.
It gives a style to what follows, until a tag of the same name with a slash in front, or a lone
slash, ends it. A backslash in front of a tag makes it text; of two, one is shown.

* `tokens`: a text as texts and tags;
* `normalName`: tags of one normal name belong together;
* `untag`: the text without its tags, or the closing tag that ends nothing.
-/

namespace Standin.Page

/-! ## Finding tags -/

/-- A character that a tag can begin with. -/
def opensTag (c : CodePoint) : Bool :=
  (0x61 ≤ c.toNat && c.toNat ≤ 0x7A) || c ∈ (['#', '/', '@'] : Text)

/-- What stands before and after the next bracket, if it is a closing one. -/
def toBracket : Text → Option (Text × Text)
  | [] => none
  | c :: s =>
    if c = ']' then some ([], s)
    else if c = '[' then none
    else (toBracket s).map fun (body, rest) => (c :: body, rest)

theorem length_lt_of_toBracket : ∀ {s body rest : Text}, toBracket s = some (body, rest) →
    rest.length < s.length
  | [], _, _, h => by simp [toBracket] at h
  | c :: s, body, rest, h => by
    rw [toBracket] at h
    split at h
    · simp only [Option.some.injEq, Prod.mk.injEq] at h
      simp [← h.2]
    · split at h
      · simp at h
      · obtain ⟨⟨body, rest'⟩, hs, he⟩ := Option.map_eq_some_iff.mp h
        simp only [Prod.mk.injEq] at he
        have := length_lt_of_toBracket hs
        rw [← he.2, List.length_cons]
        omega

/-- A tag: the backslashes in front, and what stands between the brackets. -/
structure Tag where
  slashes : Nat
  body : Text

/-- A tag at the start of a text, and the text behind it. -/
def tagAt? (slashes : Nat) : Text → Option (Tag × Text)
  | '\\' :: s => tagAt? (slashes + 1) s
  | '[' :: c :: s =>
    if opensTag c then (toBracket (c :: s)).map fun (body, rest) => (⟨slashes, body⟩, rest)
    else none
  | _ => none

theorem length_lt_of_tagAt {n : Nat} {s rest : Text} {t : Tag} (h : tagAt? n s = some (t, rest)) :
    rest.length < s.length := by
  fun_induction tagAt? n s with
  | case1 n s ih => exact Nat.lt_succ_of_lt (ih h)
  | case2 n c s hc =>
    obtain ⟨⟨body, rest'⟩, hs, he⟩ := Option.map_eq_some_iff.mp h
    simp only [Prod.mk.injEq] at he
    have := length_lt_of_toBracket hs
    rw [← he.2, List.length_cons]
    omega
  | case3 => simp at h
  | case4 => simp at h

/-- The text before the first tag, the tag, and the text behind it. -/
def findTag? : Text → Option (Text × Tag × Text)
  | [] => none
  | c :: s =>
    match tagAt? 0 (c :: s) with
    | some (tag, rest) => some ([], tag, rest)
    | none => (findTag? s).map fun (before, found) => (c :: before, found)

theorem length_lt_of_findTag : ∀ {s before rest : Text} {t : Tag},
    findTag? s = some (before, t, rest) → rest.length < s.length
  | [], _, _, _, h => by simp [findTag?] at h
  | c :: s, before, rest, t, h => by
    rw [findTag?] at h
    split at h
    · next tag rest' ht =>
      simp only [Option.some.injEq, Prod.mk.injEq] at h
      rw [← h.2.2]
      exact length_lt_of_tagAt ht
    · obtain ⟨⟨before', t', rest'⟩, hs, he⟩ := Option.map_eq_some_iff.mp h
      simp only [Prod.mk.injEq] at he
      have := length_lt_of_findTag hs
      rw [← he.2.2, List.length_cons]
      omega

/-- A text or a tag. -/
inductive Token
  | text (s : Text)
  | tag (body : Text)

/-- A text between tags; a backslash in front of a bracket is not shown. -/
def between (s : Text) : Token := .text (Text.replaceAll ['\\', '['] ['['] s)

/-- A tag behind its backslashes; if their number is odd it is text. -/
def Tag.tokens (t : Tag) : List Token :=
  [.text (List.replicate (t.slashes / 2) (.char '\\')),
    if t.slashes % 2 = 1 then .text (Text.ofString "[" ++ t.body ++ Text.ofString "]")
    else .tag t.body]

def tokens (s : Text) : List Token :=
  match h : findTag? s with
  | none => [between s]
  | some (before, tag, rest) =>
    have := length_lt_of_findTag h
    between before :: tag.tokens ++ tokens rest
termination_by s.length

/-! ## Names -/

/-- The attributes of styles with their short names, in the order in which styles list them. -/
def styleWords : List (Text × List Text) :=
  [("bold", ["b"]), ("dim", ["d"]), ("italic", ["i"]), ("underline", ["u"]), ("blink", []),
    ("blink2", []), ("reverse", ["r"]), ("conceal", ["c"]), ("strike", ["s"]),
    ("underline2", ["uu"]), ("frame", []), ("encircle", []), ("overline", ["o"])].map
    fun (name, short) => (Text.ofString name, short.map Text.ofString)

/-- The full name of an attribute. -/
def styleWord? (word : Text) : Option Text :=
  (styleWords.find? fun (name, short) => word = name || short.contains word).map Prod.fst

/-- The name of a tag in lower case, without blanks at its ends. Attributes have their full names,
each once. -/
def normalName (name : Text) : Text :=
  let name := Text.lower (Text.trim name)
  match (Text.splitWords name).mapM styleWord? with
  | none => name
  | some given => List.intercalate [.char ' '] ((styleWords.map Prod.fst).filter given.contains)

/-! ## Removing tags -/

/-- The closing tag of this name ends nothing. -/
structure StrayTag where
  name : Text
deriving DecidableEq, Repr

/-- The open tags, the last one first, after one more tag. What follows an equals sign is no part of
its name. -/
def afterTag (opened : List Text) (body : Text) : Except StrayTag (List Text) :=
  match body.takeWhile fun c : CodePoint => c ≠ '=' with
  | '/' :: name =>
    if Text.trim name = [] then
      match opened with
      | [] => .error ⟨[]⟩
      | _ :: opened => .ok opened
    else if opened.contains (normalName (Text.trim name)) then
      .ok (opened.erase (normalName (Text.trim name)))
    else .error ⟨Text.trim name⟩
  | name => .ok (normalName name :: opened)

/-- The texts between tags, some tags being open. -/
def untagFrom (opened : List Text) : List Token → Except StrayTag Text
  | [] => .ok []
  | .text s :: ts => (untagFrom opened ts).map (s ++ ·)
  | .tag body :: ts =>
    match afterTag opened body with
    | .error stray => .error stray
    | .ok opened => untagFrom opened ts

/-- The text without its tags. -/
def untag (s : Text) : Except StrayTag Text := untagFrom [] (tokens s)

end Standin.Page
