import Standin.FileTree
import Mathlib.Data.List.Basic

/-!
# What replacing a file changes

* `get?_set`, `get?_remove`: what stands at a location after one change;
* `passed`: the locations that parts lead through, and `walk_eq_ok_iff`: when they lead anywhere;
* `GrowsAt`, `Grows`: a tree that is left as it is but for new directories;
* `grows_makeParts`, `walk_of_makeParts`: what making directories does;
* `Replaces`: all that replacing a file can do; **`replaces_replace`**;
* `locate_of_walk`, `read_of_locate`: where a path leads, and what is read there.
-/

namespace Standin

open Utf8 (Octet)

namespace FileTree

variable {t t' t'' : FileTree} {host : Host} {l l' new directory : Location}
  {ls ls' : List Location} {node : Node} {p : Path} {name : Name} {parts : List Name}
  {octets : List Octet}

/-! ## One change -/

theorem get?_nil (t : FileTree) : t.get? [] = some .directory := rfl

theorem ne_nil_of_get? (h : t.get? l = none) : l ≠ [] := by
  rintro rfl
  cases h

theorem get?_remove (h : l ≠ []) : (t.remove l).get? l' = if l' = l then none else t.get? l' := by
  by_cases hroot : l' = []
  · subst hroot
    rw [if_neg h.symm, get?_nil, get?_nil]
  · simp only [get?, if_neg hroot, remove, List.find?_filter]
    by_cases heq : l' = l
    · subst heq
      simp
    · have hsame : (fun n : Location × Node => decide ((n.1 != l) = true ∧ (n.1 == l') = true)) =
          fun n => n.1 == l' := by
        funext n
        by_cases hn : n.1 = l'
        · simp [hn, heq]
        · simp [hn]
      simp only [if_neg heq, hsame]

theorem get?_set (h : l ≠ []) :
    (t.set l node).get? l' = if l' = l then some node else t.get? l' := by
  by_cases heq : l' = l
  · subst heq
    simp [get?, set, h]
  · rw [if_neg heq, ← (get?_remove (t := t) h).trans (if_neg heq)]
    have hne : (l == l') = false := beq_eq_false_iff_ne.mpr (Ne.symm heq)
    simp only [get?, set, List.find?_cons, hne]

/-- What was new is gone again, and all else is as it was. -/
theorem get?_remove_new (hnew : t.get? new = none) (h : ∀ l, l ≠ new → t'.get? l = t.get? l) :
    (t'.remove new).get? l = t.get? l := by
  rw [get?_remove (ne_nil_of_get? hnew)]
  split
  · next heq => rw [heq, hnew]
  · next hne => exact h l hne

/-! ## Walking -/

/-- The locations that the parts lead through. -/
def passed (l : Location) : List Name → List Location
  | [] => []
  | part :: parts => enter l part :: passed (enter l part) parts

/-- The parts lead on as long as there are directories. -/
theorem walk_eq_ok_iff : t.walk l parts = .ok l' ↔
    (∀ x ∈ passed l parts, t.get? x = some .directory) ∧ parts.foldl enter l = l' := by
  induction parts generalizing l with
  | nil => simp [walk, passed]
  | cons part parts ih =>
    rw [walk, passed, List.forall_mem_cons, List.foldl_cons]
    split
    · next h => simp [h]
    · next h => simp [h]
    · next h => simp [h, ih]

/-! ## Growing -/

/-- What stands at a location is left as it is, unless there was nothing and now is a directory, one
of those that are told. -/
def GrowsAt (t t' : FileTree) (ls : List Location) (l : Location) : Prop :=
  t'.get? l = t.get? l ∨ t.get? l = none ∧ t'.get? l = some .directory ∧ l ∈ ls

/-- The tree is left as it is, but for new directories among those that are told. -/
def Grows (t t' : FileTree) (ls : List Location) : Prop := ∀ l, GrowsAt t t' ls l

theorem GrowsAt.get?_eq_some (h : GrowsAt t t' ls l) (hl : t.get? l = some node) :
    t'.get? l = some node := by
  rcases h with h | ⟨hnone, -, -⟩
  · exact h.trans hl
  · rw [hl] at hnone
    cases hnone

theorem GrowsAt.trans (h : GrowsAt t t' ls l) (h' : GrowsAt t' t'' ls l) : GrowsAt t t'' ls l := by
  rcases h' with h' | ⟨hnone, hdir, hmem⟩
  · rwa [GrowsAt, h']
  · rcases h with h | ⟨-, hdir', -⟩
    · exact Or.inr ⟨h.symm.trans hnone, hdir, hmem⟩
    · rw [hnone] at hdir'
      cases hdir'

theorem Grows.refl (t : FileTree) (ls : List Location) : Grows t t ls := fun _ => Or.inl rfl

theorem Grows.trans (h : Grows t t' ls) (h' : Grows t' t'' ls) : Grows t t'' ls := fun l =>
  (h l).trans (h' l)

theorem Grows.mono (h : Grows t t' ls) (hsub : ls ⊆ ls') : Grows t t' ls' := fun l =>
  (h l).imp_right fun ⟨hnone, hdir, hmem⟩ => ⟨hnone, hdir, hsub hmem⟩

theorem grows_set_directory (h : t.get? l = none) (hmem : l ∈ ls) :
    Grows t (t.set l .directory) ls := by
  intro x
  unfold GrowsAt
  rw [get?_set (ne_nil_of_get? h)]
  split
  · next heq => exact Or.inr ⟨heq ▸ h, rfl, heq ▸ hmem⟩
  · exact Or.inl rfl

/-! ## Making directories -/

/-- Making directories makes nothing else, and none but those that the parts lead through. -/
theorem grows_makeParts (t : FileTree) (host : Host) (made : Bool) (l : Location)
    (parts : List Name) : Grows t (t.makeParts host made l parts).1 (passed l parts) := by
  induction parts generalizing t made l with
  | nil => exact .refl t _
  | cons part parts ih =>
    have hsub := List.subset_cons_self (enter l part) (passed (enter l part) parts)
    rw [makeParts, passed]
    split
    · exact (ih t made (enter l part)).mono hsub
    · exact .refl t _
    · next hnone =>
      split
      · exact .refl t _
      · exact (grows_set_directory hnone List.mem_cons_self).trans
          ((ih _ true (enter l part)).mono hsub)

/-- The parts lead through directories that were made for them. -/
theorem walk_of_makeParts {made : Bool} (h : (t.makeParts host made l parts).2 = .ok l') :
    (t.makeParts host made l parts).1.walk l parts = .ok l' := by
  induction parts generalizing t made l with
  | nil => exact h
  | cons part parts ih =>
    rw [makeParts] at h ⊢
    split at h
    · next hdir =>
      have hkept := (grows_makeParts t host made (enter l part) parts _).get?_eq_some hdir
      rw [walk, hkept]
      exact ih h
    · cases h
    · next hnone =>
      split at h
      · cases h
      · have hdir : (t.set (enter l part) .directory).get? (enter l part) = some .directory := by
          rw [get?_set (ne_nil_of_get? hnone), if_pos rfl]
        have hkept := (grows_makeParts _ host true (enter l part) parts _).get?_eq_some hdir
        rw [walk, hkept]
        exact ih h

/-! ## New files -/

theorem get?_of_vacancy {tries i : Nat} (h : t.vacancy host directory name tries i = .ok l) :
    t.get? l = none := by
  induction tries generalizing i with
  | zero => cases h
  | succ tries ih =>
    rw [vacancy] at h
    split at h
    · next hnone =>
      rw [← Except.ok.inj h]
      exact Option.isNone_iff_eq_none.mp hnone
    · exact ih h

/-- A new file is put where nothing stood. -/
theorem create_eq_ok (h : t.create host directory name = .ok (t', l)) :
    t.get? l = none ∧ t' = t.set l (.file []) := by
  unfold create at h
  cases hv : t.vacancy host directory name maxTries 0 with
  | error fault =>
    rw [hv] at h
    cases h
  | ok l₁ =>
    rw [hv] at h
    simp only [bind, Except.bind] at h
    split at h
    · cases h
    · obtain ⟨rfl, rfl⟩ := Prod.mk.inj (Except.ok.inj h)
      exact ⟨get?_of_vacancy hv, rfl⟩

theorem get?_fill (h : l ≠ []) (hne : l' ≠ l) : (t.fill host l octets).1.get? l' = t.get? l' := by
  unfold fill
  split <;> exact (get?_set h).trans (if_neg hne)

theorem get?_fill_self (h : l ≠ []) (hok : (t.fill host l octets).2 = .ok ()) :
    (t.fill host l octets).1.get? l = some (.file octets) := by
  unfold fill at hok ⊢
  split at hok
  · cases hok
  · exact (get?_set h).trans (if_pos rfl)

/-! ## Renaming -/

/-- What can be the name of a file. -/
def IsFileName (name : Name) : Prop := name ≠ [] ∧ name ≠ ['.', '.']

theorem enter_of_isFileName (h : IsFileName name) : enter l name = l ++ [name] := if_neg h.2

theorem renameTo_eq_ok {source : Location} (h : t.renameTo host source directory name = .ok t') :
    IsFileName name ∧ t.get? (directory ++ [name]) ≠ some .directory ∧
    ∃ node, t.get? source = some node ∧ t' = (t.remove source).set (directory ++ [name]) node := by
  unfold renameTo at h
  split at h
  · cases h
  next hname =>
  split at h
  · cases h
  · cases h
  · next node hsource hdir =>
    split at h
    · cases h
    · exact ⟨not_or.mp hname, hdir, node, hsource, (Except.ok.inj h).symm⟩

/-! ## Replacing -/

/-- All that replacing a file can do: the tree that it leaves, and its answer. The directories above
the file come first; the new file is never left under its own name. -/
inductive Replaces {ε : Type} (t : FileTree) (p : Path) (content : Except ε (List Octet))
    (host : Host) : FileTree → Except (FileFault ⊕ ε) Unit → Prop
  | failed {t' : FileTree} (fault : FileFault ⊕ ε) :
      (∀ l, t'.get? l = (t.makeDirectories p.parent host).1.get? l) →
      Replaces t p content host t' (.error fault)
  | replaced {t' : FileTree} {directory : Location} {octets : List Octet} : content = .ok octets →
      (t.makeDirectories p.parent host).2 = .ok directory → IsFileName p.name →
      (t.makeDirectories p.parent host).1.get? (directory ++ [p.name]) ≠ some .directory →
      (∀ l, t'.get? l = if l = directory ++ [p.name] then some (.file octets)
        else (t.makeDirectories p.parent host).1.get? l) →
      Replaces t p content host t' (.ok ())

/-- **Replacing a file does this.** -/
theorem replaces_replace {ε : Type} (t : FileTree) (p : Path) (content : Except ε (List Octet))
    (host : Host) :
    Replaces t p content host (t.replace p content host).1 (t.replace p content host).2 := by
  unfold replace
  split
  · next made fault hmade => exact .failed _ fun l => by rw [hmade]
  next made directory hmade =>
  have hmade₁ : (t.makeDirectories p.parent host).1 = made := congrArg Prod.fst hmade
  have hmade₂ : (t.makeDirectories p.parent host).2 = .ok directory := congrArg Prod.snd hmade
  split
  · next fault _ => exact .failed _ fun l => by rw [hmade₁]
  next created new hcreate =>
  obtain ⟨hnew, rfl⟩ := create_eq_ok hcreate
  have hroot := ne_nil_of_get? hnew
  split
  · next fault =>
    exact .failed _ fun l => by
      rw [hmade₁, get?_remove_new hnew fun l hne => (get?_set hroot).trans (if_neg hne)]
  next octets =>
  -- up to here and until it is renamed, only the new file differs
  have hfill : ∀ l, l ≠ new →
      ((made.set new (.file [])).fill host new octets).1.get? l = made.get? l := fun l hne =>
    (get?_fill hroot hne).trans ((get?_set hroot).trans (if_neg hne))
  split
  · next filled fault hfilled =>
    obtain rfl : _ = filled := congrArg Prod.fst hfilled
    exact .failed _ fun l => by rw [hmade₁, get?_remove_new hnew hfill]
  next filled hfilled =>
  obtain rfl : _ = filled := congrArg Prod.fst hfilled
  split
  · next fault _ => exact .failed _ fun l => by rw [hmade₁, get?_remove_new hnew hfill]
  next renamed hrename =>
  obtain ⟨hname, hdir, node, hnode, rfl⟩ := renameTo_eq_ok hrename
  have hnode' := get?_fill_self hroot (congrArg Prod.snd hfilled)
  obtain rfl : .file octets = node := Option.some.inj (hnode'.symm.trans hnode)
  refine .replaced rfl hmade₂ hname ?_ fun l => ?_
  · rw [hmade₁]
    by_cases htarget : directory ++ [p.name] = new
    · rw [htarget, hnew]
      exact nofun
    · rwa [← hfill _ htarget]
  · rw [get?_set (by simp), get?_remove_new hnew hfill, hmade₁]

/-! ## Reading -/

theorem locate_of_walk (hname : IsFileName p.name) (h : t.walk [] p.parent.parts = .ok directory) :
    t.locate p = .ok (directory ++ [p.name]) := by
  have hlast : p.parts.getLast? = some p.name := by
    have hne := hname.1
    unfold Path.name at hne ⊢
    cases hl : p.parts.getLast? with
    | none => simp [hl] at hne
    | some last => rfl
  change t.walk [] p.parts.dropLast = .ok directory at h
  simp only [locate, hlast, h]
  exact congrArg Except.ok (enter_of_isFileName hname)

theorem read_of_locate (h : t.locate p = .ok l) (hfile : t.get? l = some (.file octets)) :
    t.read p = .ok octets := by
  rw [read, h]
  simp only [bind, Except.bind, hfile]

end FileTree

end Standin
