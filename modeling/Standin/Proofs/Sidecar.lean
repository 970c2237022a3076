import Standin.Proofs.FileTree
import Standin.Proofs.Saved
import Standin.Table.Sidecar

/-!
# Keeping tables in files

* `Path.above`: the locations of the directories above a path;
* **`Table.save_atomic`**: a table is saved as a whole or not at all, and nothing else changes.
-/

namespace Standin

open FileTree (Grows GrowsAt)

/-- The locations of the directories that are above a path, or that its dots lead through. -/
def Path.above (p : Path) : List Location := FileTree.passed [] p.parent.parts

namespace Table

theorem load_of_content {t : Table} {tree : FileTree} {p : Path} {octets : List Utf8.Octet}
    (hcontent : t.content = .ok octets) (h : tree.read p = .ok octets) : load tree p =
      if t.schema = tableSchema then .ok t else .error (.saved (.schema t.schema)) := by
  obtain ⟨saved, hsaved, rfl⟩ := Utf8.map_eq_ok hcontent
  unfold load
  rw [h]
  simp only [read_write_lineFeed hsaved]
  split <;> rfl

theorem save_eq (t : Table) (tree : FileTree) (p : Path) (host : Host) : t.save tree p host =
    ((tree.replace p t.content host).1,
      (tree.replace p t.content host).2.mapError (Sum.elim .file .lone)) := rfl

/-- **A table is saved as a whole or not at all**, wherever the host refuses to go on. If it is
saved, it is loaded again from its path, and but for the file there only directories above it are
new. If it is not, nothing that was there has changed and nothing is left but directories above the
path. -/
theorem save_atomic (t : Table) (tree : FileTree) (p : Path) (host : Host) :
    let after := (t.save tree p host).1
    match (t.save tree p host).2 with
    | .ok () =>
      load after p =
        (if t.schema = tableSchema then .ok t else .error (.saved (.schema t.schema))) ∧
      ∃ target, after.locate p = .ok target ∧ tree.get? target ≠ some .directory ∧
        ∀ l, l ≠ target → GrowsAt tree after p.above l
    | .error _ => Grows tree after p.above := by
  simp only [save_eq]
  have hmade : Grows tree (tree.makeDirectories p.parent host).1 p.above :=
    FileTree.grows_makeParts tree host false [] p.parent.parts
  have hdoes := FileTree.replaces_replace tree p t.content host
  generalize tree.replace p t.content host = done at hdoes ⊢
  obtain ⟨after, answer⟩ := done
  cases hdoes with
  | failed fault hsame =>
    intro l
    rw [GrowsAt, hsame l]
    exact hmade l
  | @replaced directory octets hcontent hdirectory hname hdir hafter =>
    have hother : ∀ l, l ≠ directory ++ [p.name] →
        after.get? l = (tree.makeDirectories p.parent host).1.get? l := fun l hne => by
      rw [hafter, if_neg hne]
    -- the file stands in none of the directories' places, so the path leads to it as before
    have hwalk : after.walk [] p.parent.parts = .ok directory := by
      obtain ⟨hpassed, hend⟩ := FileTree.walk_eq_ok_iff.mp (FileTree.walk_of_makeParts hdirectory)
      refine FileTree.walk_eq_ok_iff.mpr ⟨fun l hl => ?_, hend⟩
      have hl := hpassed l hl
      rwa [hother l fun heq => hdir (heq ▸ hl)]
    have hlocate := FileTree.locate_of_walk hname hwalk
    have hread := FileTree.read_of_locate hlocate ((hafter _).trans (if_pos rfl))
    refine ⟨load_of_content hcontent hread, _, hlocate, fun hold => ?_, fun l hne => ?_⟩
    · exact hdir ((hmade _).get?_eq_some hold)
    · rw [GrowsAt, hother l hne]
      exact hmade l

/-- With a directory still to be made, a table is saved; where the host stops writing after three
octets, it is not, and the file of the same name beside that directory stays. -/
theorem save_atomic_interrupted :
    let tree : FileTree := ⟨[([['t']], .file [1])]⟩
    let p : Path := ⟨0, [['d'], ['t']]⟩
    let host : Host :=
      { refusal := fun r => match r with
          | .writeFile _ => some .busy
          | _ => none
        room := 3 }
    (save {} tree p).2 = .ok () ∧ load (save {} tree p).1 p = .ok {} ∧
    (save {} tree p host).2 = .error (.file .busy) ∧
    Grows tree (save {} tree p host).1 p.above := by
  intro tree p host
  have hok : (save {} tree p).2 = .ok () := by decide
  have hfault : (save {} tree p host).2 = .error (.file .busy) := by decide
  have hsaved := save_atomic {} tree p {}
  have hleft := save_atomic {} tree p host
  simp only [hok] at hsaved
  simp only [hfault] at hleft
  exact ⟨hok, hsaved.1, hfault, hleft⟩

end Table

end Standin
