import ChapelCheck.FileSystem.Visit
import ChapelCheck.Proofs.FileSystem
import ChapelCheck.Proofs.Path.Climb

/-!
# ChapelCheck.Proofs.Visit

What a visit of a directory meets.

What is at or below the top of a tree is told by `Within`, which goes down through
directories and never along a link.  A visit meets nothing else
(`exists_within_of_mem_visit`), and it meets all of it if no path on the way is too
long to be used (`mem_visit_of_within`).
-/

namespace ChapelCheck

namespace Tree

/-! ## what is in a tree -/

/-- `Within t names u`: the names lead from the top of `t` to `u`, through directories
only. -/
inductive Within : Tree → List String → Tree → Prop where
  | top (t : Tree) : Within t [] t
  | entry {entries : List (String × Tree)} {name : String} {t u : Tree} {names : List String}
      (hmem : (name, t) ∈ entries) (h : Within t names u) :
      Within (.directory entries) (name :: names) u

/-- What is below the top is an entry of a directory. -/
theorem within_concat_iff {t u : Tree} {names : List String} {name : String} :
    t.Within (names ++ [name]) u ↔
      ∃ entries, t.Within names (.directory entries) ∧ (name, u) ∈ entries := by
  induction names generalizing t with
  | nil =>
      constructor
      · intro h
        cases h with
        | entry hmem h =>
            cases h
            exact ⟨_, .top _, hmem⟩
      · rintro ⟨entries, h, hmem⟩
        cases h
        exact .entry hmem (.top u)
  | cons n names ih =>
      constructor
      · intro h
        cases h with
        | entry hmem h =>
            obtain ⟨entries, hnames, hlast⟩ := ih.mp h
            exact ⟨entries, .entry hmem hnames, hlast⟩
      · rintro ⟨entries, h, hlast⟩
        cases h with
        | entry hmem h => exact .entry hmem (ih.mpr ⟨entries, h, hlast⟩)

/-- In a well-formed tree, names lead to one thing at most. -/
theorem within_iff_find? {t u : Tree} {names : List String} (ht : t.isWellFormed = true) :
    t.Within names u ↔ t.find? names = some u := by
  induction names generalizing t with
  | nil =>
      constructor
      · intro h
        cases h
        rfl
      · intro h
        rw [← Option.some.inj h]
        exact .top t
  | cons name names ih =>
      rw [find?_cons, Option.bind_eq_some_iff]
      constructor
      · intro h
        cases h with
        | @entry entries _ child _ _ hmem h =>
            obtain ⟨hnodup, hentries⟩ := isWellFormed_directory_iff.mp ht
            exact ⟨child, (lookup_eq_some_iff_mem hnodup).mpr hmem, (ih (hentries _ hmem).2).mp h⟩
      · rintro ⟨child, hchild, h⟩
        obtain ⟨entries, rfl, hlookup⟩ := exists_lookup_of_entry hchild
        obtain ⟨hnodup, hentries⟩ := isWellFormed_directory_iff.mp ht
        have hmem : (name, child) ∈ entries := (lookup_eq_some_iff_mem hnodup).mp hlookup
        exact .entry hmem ((ih (hentries _ hmem).2).mpr h)

theorem Within.isName {t u : Tree} {names : List String} (h : t.Within names u)
    (ht : t.isWellFormed = true) : ∀ name ∈ names, Path.IsName name :=
  (isWellFormed_of_find? ht ((within_iff_find? ht).mp h)).2

/-! ## paths that can be used -/

mutual

/-- Whether no path of a tree is too long, if its top has a given path. -/
def isInReach (path : Path) : Tree → Bool
  | .directory entries => !isTooLong path && areInReach path entries
  | _ => !isTooLong path

/-- Whether no path of a directory's entries is too long. -/
def areInReach (directory : Path) : List (String × Tree) → Bool
  | [] => true
  | (name, t) :: entries => isInReach (directory.child name) t && areInReach directory entries

end

theorem isTooLong_of_isInReach {path : Path} {t : Tree} (h : t.isInReach path = true) :
    isTooLong path = false := by
  cases t <;> simp_all [isInReach]

theorem isInReach_of_mem {directory : Path} {entries : List (String × Tree)} {name : String}
    {t : Tree} (h : areInReach directory entries = true) (hmem : (name, t) ∈ entries) :
    t.isInReach (directory.child name) = true := by
  induction entries with
  | nil => exact absurd hmem List.not_mem_nil
  | cons e entries ih =>
      rw [areInReach, Bool.and_eq_true] at h
      cases List.mem_cons.mp hmem with
      | inl heq => rw [← heq] at h; exact h.1
      | inr hrest => exact ih h.2 hrest

/-- Everything in a tree is in reach if the tree is. -/
theorem Within.isInReach {t u : Tree} {names : List String} (h : t.Within names u) {path : Path}
    (ht : t.isInReach path = true) : u.isInReach (path.down names) = true := by
  induction h generalizing path with
  | top t => exact ht
  | entry hmem _ ih =>
      rw [Tree.isInReach, Bool.and_eq_true] at ht
      exact ih (isInReach_of_mem ht.2 hmem)

theorem isTooLong_of_forall {path : Path} {t : Tree}
    (h : ∀ names u, t.Within names u → isTooLong (path.down names) = false) :
    isTooLong path = false :=
  h [] t (.top t)

mutual

theorem isInReach_of_forall {path : Path} :
    (t : Tree) → (∀ names u, t.Within names u → isTooLong (path.down names) = false) →
      t.isInReach path = true
  | .directory entries, h => by
      have hentries := areInReach_of_forall entries
        fun name t hmem names u hwithin => h (name :: names) u (.entry hmem hwithin)
      rw [isInReach, isTooLong_of_forall h, hentries]
      rfl
  | .file _ _, h => by simp [isInReach, isTooLong_of_forall h]
  | .link _, h => by simp [isInReach, isTooLong_of_forall h]
  | .program _, h => by simp [isInReach, isTooLong_of_forall h]
  | .device, h => by simp [isInReach, isTooLong_of_forall h]

theorem areInReach_of_forall {directory : Path} :
    (entries : List (String × Tree)) →
      (∀ name t, (name, t) ∈ entries → ∀ names u, t.Within names u →
        isTooLong ((directory.child name).down names) = false) →
      areInReach directory entries = true
  | [], _ => rfl
  | (name, t) :: entries, h => by
      have hfirst := isInReach_of_forall t (h name t List.mem_cons_self)
      have hrest := areInReach_of_forall entries
        fun n t' hmem => h n t' (List.mem_cons_of_mem _ hmem)
      rw [areInReach, hfirst, hrest]
      rfl

end

/-- A tree is in reach exactly if no path that leads into it is too long. -/
theorem isInReach_iff {path : Path} {t : Tree} :
    t.isInReach path = true ↔ ∀ names u, t.Within names u → isTooLong (path.down names) = false :=
  ⟨fun h _ _ hwithin => isTooLong_of_isInReach (hwithin.isInReach h), isInReach_of_forall t⟩

/-! ## visits -/

theorem mem_visitEntries_iff {directory : Path} {entries : List (String × Tree)} {v : Visit} :
    v ∈ visitEntries directory entries ↔ ∃ e ∈ entries, v ∈ e.2.visit (directory.child e.1) := by
  induction entries with
  | nil => simp [visitEntries]
  | cons e entries ih => simp [visitEntries, ih]

theorem exists_within_top {path p : Path} {t u : Tree} (h : Visit.entry p u = .entry path t) :
    ∃ names, t.Within names u ∧ p = path.down names := by
  obtain ⟨rfl, rfl⟩ := Visit.entry.inj h
  exact ⟨[], .top u, rfl⟩

mutual

/-- **A visit meets what is in the tree**, under the path that leads there. -/
theorem exists_within_of_mem_visit {path p : Path} {u : Tree} :
    (t : Tree) → .entry p u ∈ t.visit path → ∃ names, t.Within names u ∧ p = path.down names
  | .directory entries, h => by
      rw [visit] at h
      split at h
      · -- a directory that cannot be read is met itself
        simp only [List.mem_cons, reduceCtorEq, List.not_mem_nil, or_false] at h
        exact exists_within_top h
      · cases List.mem_cons.mp h with
        | inl htop => exact exists_within_top htop
        | inr hbelow =>
            obtain ⟨name, child, names, hmem, hchild, hp⟩ :=
              exists_entry_of_mem_visitEntries entries hbelow
            exact ⟨name :: names, .entry hmem hchild, hp⟩
  | .file _ _, h => exists_within_top (List.mem_singleton.mp h)
  | .link _, h => exists_within_top (List.mem_singleton.mp h)
  | .program _, h => exists_within_top (List.mem_singleton.mp h)
  | .device, h => exists_within_top (List.mem_singleton.mp h)

theorem exists_entry_of_mem_visitEntries {directory p : Path} {u : Tree} :
    (entries : List (String × Tree)) → .entry p u ∈ visitEntries directory entries →
      ∃ name t names, (name, t) ∈ entries ∧ t.Within names u ∧ p = (directory.child name).down names
  | [], h => absurd h List.not_mem_nil
  | (name, t) :: entries, h => by
      rw [visitEntries] at h
      cases List.mem_append.mp h with
      | inl hfirst =>
          obtain ⟨names, hwithin, hp⟩ := exists_within_of_mem_visit t hfirst
          exact ⟨name, t, names, List.mem_cons_self, hwithin, hp⟩
      | inr hrest =>
          obtain ⟨n, t', names, hmem, hwithin, hp⟩ := exists_entry_of_mem_visitEntries entries hrest
          exact ⟨n, t', names, List.mem_cons_of_mem _ hmem, hwithin, hp⟩

end

theorem mem_visit_self (path : Path) (t : Tree) : .entry path t ∈ t.visit path := by
  cases t with
  | directory entries =>
      rw [visit]
      split <;> exact List.mem_cons_self
  | file _ _ => exact List.mem_cons_self
  | link _ => exact List.mem_cons_self
  | program _ => exact List.mem_cons_self
  | device => exact List.mem_cons_self

/-- **A visit meets everything in the tree** that is in reach. -/
theorem mem_visit_of_within {t u : Tree} {names : List String} (h : t.Within names u) {path : Path}
    (ht : t.isInReach path = true) : .entry (path.down names) u ∈ t.visit path := by
  induction h generalizing path with
  | top t => exact mem_visit_self path t
  | @entry entries name child u names hmem _ ih =>
      have hshort := isTooLong_of_isInReach ht
      rw [isInReach, Bool.and_eq_true] at ht
      rw [visit, hshort, if_neg Bool.false_ne_true]
      refine List.mem_cons_of_mem _ (mem_visitEntries_iff.mpr ⟨(name, child), hmem, ?_⟩)
      exact ih (isInReach_of_mem ht.2 hmem)

/-! ## entries in another order -/

namespace Alike

variable {t t' : Tree} (h : Alike t t') (ht : t.isWellFormed = true) (ht' : t'.isWellFormed = true)
include h ht ht'

/-- The same names lead to the same thing, up to what it holds. -/
theorem exists_within {names : List String} {u : Tree} (hu : t.Within names u) :
    ∃ u', t'.Within names u' ∧ u'.node = u.node := by
  obtain ⟨u', hu', hnode, _⟩ := h.exists_find? ((within_iff_find? ht).mp hu)
  exact ⟨u', (within_iff_find? ht').mpr hu', hnode⟩

theorem isInReach_of_alike {path : Path} (hreach : t.isInReach path = true) :
    t'.isInReach path = true := by
  rw [isInReach_iff] at hreach ⊢
  intro names u' hu'
  obtain ⟨u, hu, _⟩ := h.symm.exists_within ht' ht hu'
  exact hreach names u hu

end Alike

end Tree

namespace FileSystem

/-- Whether no path at or below a path is too long. -/
def isInReach (fs : FileSystem) (p : Path) : Bool :=
  match fs.get p with
  | .ok t => t.isInReach p
  | .error _ => true

/-- What a path leads to is well-formed if the tree is. -/
theorem isWellFormed_of_get {fs : FileSystem} {p : Path} {t : Tree}
    (h : fs.tree.isWellFormed = true) (hget : fs.get p = .ok t) : t.isWellFormed = true := by
  obtain ⟨place, _, hfind⟩ := get_eq_ok_iff.mp hget
  exact (Tree.isWellFormed_of_find? h hfind).1

end FileSystem

end ChapelCheck
