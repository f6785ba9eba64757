import ChapelCheck.FileSystem
import ChapelCheck.Proofs.Path.Join

/-!
# ChapelCheck.Proofs.FileSystem

Trees whose directories are lists of entries, and what does not depend on the
order of these lists.

* `isWellFormed` — what a directory of a file system cannot be is left out: names
  are names, and none of them is there twice;
* `Reordered` — trees that differ in the order of entries only.  They have the same
  thing at every place (`Reordered.alike`), and so every path leads to the same in
  both (`get_of_alike`).
-/

namespace ChapelCheck

namespace Tree

/-! ## well-formed trees -/

mutual

/-- Whether each directory of a tree holds nothing but names, and each of them
once. -/
def isWellFormed : Tree → Bool
  | .directory entries => (entries.map Prod.fst).Nodup && areWellFormed entries
  | _ => true

/-- Whether entries have names and are well-formed themselves. -/
def areWellFormed : List (String × Tree) → Bool
  | [] => true
  | (name, t) :: entries => Path.IsName name && isWellFormed t && areWellFormed entries

end

theorem areWellFormed_iff {entries : List (String × Tree)} :
    areWellFormed entries = true ↔ ∀ e ∈ entries, Path.IsName e.1 ∧ e.2.isWellFormed = true := by
  induction entries with
  | nil => simp [areWellFormed]
  | cons e entries ih =>
      simp [areWellFormed, ih, and_assoc]

theorem isWellFormed_directory_iff {entries : List (String × Tree)} :
    (directory entries).isWellFormed = true ↔
      (entries.map Prod.fst).Nodup ∧
        ∀ e ∈ entries, Path.IsName e.1 ∧ e.2.isWellFormed = true := by
  rw [isWellFormed, Bool.and_eq_true, decide_eq_true_iff, areWellFormed_iff]

/-- Names that are there once lead to one entry. -/
theorem lookup_eq_some_iff_mem {entries : List (String × Tree)}
    (h : (entries.map Prod.fst).Nodup) {name : String} {t : Tree} :
    entries.lookup name = some t ↔ (name, t) ∈ entries := by
  rw [List.lookup_eq_some_iff]
  constructor
  · rintro ⟨before, after, rfl, _⟩
    simp
  · intro hmem
    obtain ⟨before, after, rfl⟩ := List.append_of_mem hmem
    refine ⟨before, after, rfl, fun e he => ?_⟩
    rw [List.map_append, List.map_cons, List.nodup_append] at h
    have hne : e.1 ≠ name := h.2.2 e.1 (List.mem_map_of_mem he) name List.mem_cons_self
    simpa using hne.symm

/-! ## places -/

/-- Only a directory holds something under a name. -/
theorem exists_lookup_of_entry {t u : Tree} {name : String} (h : t.entry? name = some u) :
    ∃ entries, t = .directory entries ∧ entries.lookup name = some u := by
  cases t with
  | directory entries => exact ⟨entries, rfl, h⟩
  | file _ _ => contradiction
  | link _ => contradiction
  | program _ => contradiction
  | device => contradiction

theorem find?_cons (t : Tree) (name : String) (names : List String) :
    t.find? (name :: names) = (t.entry? name).bind fun child => child.find? names := by
  rw [find?]
  cases t.entry? name <;> rfl

/-- A place behind a place is looked for in what is there. -/
theorem find?_append (t : Tree) (place names : List String) :
    t.find? (place ++ names) = (t.find? place).bind fun u => u.find? names := by
  induction place generalizing t with
  | nil => rfl
  | cons name place ih =>
      rw [List.cons_append, find?_cons, find?_cons, Option.bind_assoc]
      congr 1
      funext child
      exact ih child

theorem find?_singleton (t : Tree) (name : String) : t.find? [name] = t.entry? name := by
  rw [find?_cons]
  cases t.entry? name <;> rfl

/-- What is at a place of a well-formed tree is well-formed, and names lead to it. -/
theorem isWellFormed_of_find? {t u : Tree} {place : List String} (ht : t.isWellFormed = true)
    (h : t.find? place = some u) : u.isWellFormed = true ∧ ∀ name ∈ place, Path.IsName name := by
  induction place generalizing t with
  | nil =>
      rw [← Option.some.inj h]
      exact ⟨ht, fun _ hname => absurd hname List.not_mem_nil⟩
  | cons name place ih =>
      rw [find?_cons, Option.bind_eq_some_iff] at h
      obtain ⟨child, hchild, hrest⟩ := h
      obtain ⟨entries, rfl, hlookup⟩ := exists_lookup_of_entry hchild
      obtain ⟨hnodup, hentries⟩ := isWellFormed_directory_iff.mp ht
      obtain ⟨hname, hwell⟩ := hentries _ ((lookup_eq_some_iff_mem hnodup).mp hlookup)
      obtain ⟨hu, hplace⟩ := ih hwell hrest
      exact ⟨hu, List.forall_mem_cons.mpr ⟨hname, hplace⟩⟩

/-! ## entries in another order -/

/-- `Reordered t t'`: the trees differ at most in the order in which their directories
list their entries. -/
inductive Reordered : Tree → Tree → Prop where
  | refl (t : Tree) : Reordered t t
  /-- The top lists its entries in another order. -/
  | order {entries entries' : List (String × Tree)} (h : entries.Perm entries') :
      Reordered (.directory entries) (.directory entries')
  /-- Something below the top is listed in another order. -/
  | inside {t t' : Tree} (before : List (String × Tree)) (name : String)
      (after : List (String × Tree)) (h : Reordered t t') :
      Reordered (.directory (before ++ (name, t) :: after))
        (.directory (before ++ (name, t') :: after))
  | trans {t t' t'' : Tree} (h : Reordered t t') (h' : Reordered t' t'') : Reordered t t''

/-- A tree without what it holds. -/
def node : Tree → Tree
  | .directory _ => .directory []
  | t => t

/-- `Alike t t'`: the trees have the same thing at every place. -/
def Alike (t t' : Tree) : Prop := ∀ place, (t.find? place).map node = (t'.find? place).map node

theorem Alike.symm {t t' : Tree} (h : Alike t t') : Alike t' t := fun place => (h place).symm

theorem Reordered.isWellFormed {t t' : Tree} (h : Reordered t t') (ht : t.isWellFormed = true) :
    t'.isWellFormed = true := by
  induction h with
  | refl t => exact ht
  | order hperm =>
      rw [isWellFormed_directory_iff] at ht ⊢
      exact ⟨(hperm.map Prod.fst).nodup_iff.mp ht.1, fun e he => ht.2 e (hperm.mem_iff.mpr he)⟩
  | inside before name after _ ih =>
      rw [isWellFormed_directory_iff] at ht ⊢
      simp only [List.map_append, List.map_cons, List.forall_mem_append,
        List.forall_mem_cons] at ht ⊢
      obtain ⟨hnodup, hbefore, ⟨hname, hwell⟩, hafter⟩ := ht
      exact ⟨hnodup, hbefore, ⟨hname, ih hwell⟩, hafter⟩
  | trans _ _ ih ih' => exact ih' (ih ht)

/-- **Trees that differ in order only have the same thing at every place.** -/
theorem Reordered.alike {t t' : Tree} (h : Reordered t t') (ht : t.isWellFormed = true) :
    Alike t t' := by
  induction h with
  | refl t => exact fun _ => rfl
  | @order entries entries' hperm =>
      intro place
      cases place with
      | nil => rfl
      | cons name names =>
          have hnodup := (isWellFormed_directory_iff.mp ht).1
          have hnodup' := (hperm.map Prod.fst).nodup_iff.mp hnodup
          have hlookup : entries.lookup name = entries'.lookup name := by
            apply Option.ext
            intro u
            rw [lookup_eq_some_iff_mem hnodup, lookup_eq_some_iff_mem hnodup', hperm.mem_iff]
          rw [find?_cons, find?_cons, entry?, entry?, hlookup]
  | inside before name after h ih =>
      intro place
      cases place with
      | nil => rfl
      | cons n names =>
          have hwell := ((isWellFormed_directory_iff.mp ht).2 _
            (List.mem_append_right before List.mem_cons_self)).2
          rw [find?_cons, find?_cons, entry?, entry?, List.lookup_append, List.lookup_append]
          cases before.lookup n with
          | some u => rfl
          | none =>
              by_cases hn : n = name
              · rw [hn, List.lookup_cons_self, List.lookup_cons_self]
                exact ih hwell names
              · have hne : (n == name) = false := beq_eq_false_iff_ne.mpr hn
                simp only [List.lookup_cons, hne]
  | trans h h' ih ih' => exact fun place => (ih ht place).trans (ih' (h.isWellFormed ht) place)

/-! ## where paths lead -/

theorem isDirectory_of_node {t t' : Tree} (h : t'.node = t.node) :
    t'.isDirectory = t.isDirectory := by
  cases t <;> cases t' <;> simp_all [node, isDirectory]

theorem isFile_of_node {t t' : Tree} (h : t'.node = t.node) : t'.isFile = t.isFile := by
  cases t <;> cases t' <;> simp_all [node, isFile]

namespace Alike

variable {t t' : Tree} (h : Alike t t')
include h

/-- What is at a place of one tree is at the place in the other, up to what it
holds. -/
theorem exists_find? {place : List String} {u : Tree} (hu : t.find? place = some u) :
    ∃ u', t'.find? place = some u' ∧ u'.node = u.node ∧ Alike u u' := by
  have hplace := h place
  rw [hu, Option.map_some] at hplace
  obtain ⟨u', hu', hnode⟩ := Option.map_eq_some_iff.mp hplace.symm
  refine ⟨u', hu', hnode, fun names => ?_⟩
  have hbelow := h (place ++ names)
  rw [find?_append, find?_append, hu, hu'] at hbelow
  exact hbelow

theorem find?_eq_none {place : List String} (hnone : t.find? place = none) :
    t'.find? place = none := by
  have hplace := h place
  rw [hnone, Option.map_none] at hplace
  exact Option.map_eq_none_iff.mp hplace.symm

theorem entry?_map_node (name : String) :
    (t.entry? name).map node = (t'.entry? name).map node := by
  have hname := h [name]
  rwa [find?_singleton, find?_singleton] at hname

/-- Going along pieces is the same in both. -/
theorem advance_eq (follow : Bool) (place : List String) (pieces : List (List Char)) :
    t'.advance follow place pieces = t.advance follow place pieces := by
  induction pieces generalizing place with
  | nil => rfl
  | cons piece rest ih =>
      simp only [advance]
      cases hfind : t.find? place with
      | none => rw [h.find?_eq_none hfind]
      | some u =>
          obtain ⟨u', hu', hnode, hbelow⟩ := h.exists_find? hfind
          simp only [hu', isDirectory_of_node hnode]
          split
          · rfl
          split
          · exact ih place
          · exact ih place
          · exact ih place.dropLast
          · split
            · rfl
            have hentry := hbelow.entry?_map_node (String.ofList piece)
            cases hname : u.entry? (String.ofList piece) with
            | none =>
                rw [hname, Option.map_none] at hentry
                rw [Option.map_eq_none_iff.mp hentry.symm]
            | some v =>
                rw [hname, Option.map_some] at hentry
                obtain ⟨v', hv', hnode'⟩ := Option.map_eq_some_iff.mp hentry.symm
                rw [hv']
                cases v <;> cases v' <;> simp_all [node]

theorem resolveFrom_eq (follow : Bool) (links : Nat) (place : List String)
    (pieces : List (List Char)) :
    t'.resolveFrom follow links place pieces = t.resolveFrom follow links place pieces := by
  induction links generalizing place pieces with
  | zero => rw [resolveFrom, resolveFrom, h.advance_eq]
  | succ links ih =>
      rw [resolveFrom, resolveFrom, h.advance_eq]
      simp only [ih]

/-- A path leads to the same place in both. -/
theorem resolve_eq (working : Option (List String)) (follow : Bool) (p : Path) :
    t'.resolve working follow p = t.resolve working follow p := by
  simp only [resolve, h.resolveFrom_eq]

end Alike

end Tree

namespace FileSystem

/-- What a path leads to is at some place of the tree. -/
theorem get_eq_ok_iff {fs : FileSystem} {p : Path} {t : Tree} :
    fs.get p = .ok t ↔
      ∃ place, fs.resolve p = .ok (.found place) ∧ fs.tree.find? place = some t := by
  rw [get]
  cases fs.resolve p with
  | error e => simp
  | ok found =>
      cases found with
      | free directory name => simp
      | found place => cases hplace : fs.tree.find? place <;> simp [hplace]

theorem exists_get_of_isDirectory {fs : FileSystem} {p : Path} (h : fs.isDirectory p = true) :
    ∃ t, fs.get p = .ok t ∧ t.isDirectory = true := by
  rw [isDirectory] at h
  cases hget : fs.get p with
  | error e => simp [hget] at h
  | ok t => exact ⟨t, rfl, by simpa [hget] using h⟩

section

variable {fs fs' : FileSystem} (h : Tree.Alike fs.tree fs'.tree)
  (hworking : fs'.working = fs.working)
include h hworking

/-- What a path leads to in one file system it leads to in the other, up to what is
held there. -/
theorem get_of_alike {p : Path} {t : Tree} (ht : fs.get p = .ok t) :
    ∃ t', fs'.get p = .ok t' ∧ t'.node = t.node ∧ Tree.Alike t t' := by
  obtain ⟨place, hplace, hfind⟩ := get_eq_ok_iff.mp ht
  obtain ⟨t', hfind', hnode, hbelow⟩ := h.exists_find? hfind
  have hplace' : fs'.resolve p = .ok (.found place) := by
    rw [resolve, hworking, h.resolve_eq]
    exact hplace
  exact ⟨t', get_eq_ok_iff.mpr ⟨place, hplace', hfind'⟩, hnode, hbelow⟩

/-- A path that leads to nothing in one file system does so in the other. -/
theorem get_eq_error_of_alike {p : Path} {e : SystemError} (he : fs.get p = .error e) :
    ∃ e', fs'.get p = .error e' := by
  cases hget : fs'.get p with
  | error e' => exact ⟨e', rfl⟩
  | ok t' =>
      obtain ⟨t, ht, _⟩ := get_of_alike h.symm hworking.symm hget
      rw [he] at ht
      contradiction

theorem isFile_of_alike (p : Path) : fs'.isFile p = fs.isFile p := by
  rw [isFile, isFile]
  cases hget : fs.get p with
  | ok t =>
      obtain ⟨t', hget', hnode, _⟩ := get_of_alike h hworking hget
      rw [hget']
      exact Tree.isFile_of_node hnode
  | error e =>
      obtain ⟨e', hget'⟩ := get_eq_error_of_alike h hworking hget
      rw [hget']

end

end FileSystem

end ChapelCheck
