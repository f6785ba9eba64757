import ChapelCheck.Proofs.Manifest
import ChapelCheck.Proofs.Path.Anchor
import ChapelCheck.Proofs.Root
import ChapelCheck.Proofs.Sources
import ChapelCheck.Proofs.Started

/-!
# ChapelCheck.Proofs.Includes

The directories that the compiler is told to search modules in.

They come from two places, the manifest and the directories that hold sources, and
are put together in one set before they are written down as arguments.

* `isAmong_includePaths` — the set holds what either place gives;
* `isAbsolute_of_mem_includePaths` — below an absolute root all of it is absolute, and
  `isAbsolute_of_value_resolveRoot` — a root that was looked for is absolute;
* `isCommandFor_arguments` — the arguments are those of the check, and then a flag and
  a path for each directory.
-/

namespace ChapelCheck

/-! ## arguments -/

namespace Compiler

/-- `IsCommandFor target includes args`: the arguments ask for a check of the target, and
for modules to be searched in the given directories, in order. -/
structure IsCommandFor (target : Path) (includes : List Path) (args : List String) : Prop where
  length : args.length = 3 + 2 * includes.length
  check : args.take 3 = [target.text, "--no-codegen", "--baseline"]
  modules : ∀ i p, includes[i]? = some p →
    args[3 + 2 * i]? = some "-M" ∧ args[4 + 2 * i]? = some p.text

theorem length_flatMap_moduleFlag (includes : List Path) :
    (includes.flatMap fun p => [moduleFlag, p.text]).length = 2 * includes.length := by
  induction includes with
  | nil => rfl
  | cons p includes ih =>
      simp only [List.flatMap_cons, List.length_append, List.length_cons, List.length_nil, ih]
      omega

theorem getElem?_flatMap_moduleFlag {includes : List Path} {i : Nat} {p : Path}
    (h : includes[i]? = some p) :
    (includes.flatMap fun p => [moduleFlag, p.text])[2 * i]? = some moduleFlag ∧
      (includes.flatMap fun p => [moduleFlag, p.text])[2 * i + 1]? = some p.text := by
  induction includes generalizing i with
  | nil => simp at h
  | cons q includes ih =>
      cases i with
      | zero => simp_all
      | succ i =>
          have hrest := ih (i := i) (by simpa using h)
          have htwo : 2 * (i + 1) = 2 * i + 2 := by omega
          simpa [htwo] using hrest

/-- **The arguments of a check.** -/
theorem isCommandFor_arguments (target : Path) (includes : List Path) :
    IsCommandFor target includes (arguments target includes) where
  length := by
    have hpairs := length_flatMap_moduleFlag includes
    simp only [arguments, checkFlags, List.length_append, List.length_cons, List.length_nil, hpairs]
  check := rfl
  modules i p h := by
    obtain ⟨hflag, hpath⟩ := getElem?_flatMap_moduleFlag h
    have hthree : 3 + 2 * i = 2 * i + 3 := by omega
    have hfour : 4 + 2 * i = 2 * i + 1 + 3 := by omega
    simpa [arguments, checkFlags, hthree, hfour] using ⟨hflag, hpath⟩

end Compiler

namespace Project

/-! ## both places -/

variable {fs : FileSystem} {root : Path}

theorem value_includePaths (fs : FileSystem) (root : Path) :
    (includePaths fs root).value =
      (manifestEntries fs root).value.union (sourceDirectories fs root).value := rfl

theorem isAmong_includePaths {p : Path} :
    p.IsAmong (includePaths fs root).value.toList ↔
      p.IsAmong (manifestEntries fs root).value.toList ∨
        p.IsAmong (sourceDirectories fs root).value.toList := by
  rw [value_includePaths, PathSet.union, PathSet.adds_insert.isAmong_foldl]

/-! ## absolute paths -/

section

variable (hroot : root.isAbsolute = true)
include hroot

theorem isAbsolute_of_mem_includePaths {p : Path}
    (h : p ∈ (includePaths fs root).value.toList) : p.isAbsolute = true := by
  rw [value_includePaths, PathSet.union] at h
  cases PathSet.adds_insert.mem_foldl h with
  | inl hlisted =>
      obtain ⟨entry, rfl⟩ := exists_join_of_mem_manifestEntries hlisted
      exact Path.isAbsolute_join hroot entry
  | inr hsource =>
      obtain ⟨names, hmem⟩ := exists_mem_ancestors_of_mem_sourceDirectories hsource
      have hsources : (root.child sourceName).isAbsolute = true := Path.isAbsolute_join hroot _
      exact Path.isAbsolute_of_mem_ancestors (Path.isAbsolute_down hsources names) hmem

end

/-- The working directory is absolute. -/
theorem isAbsolute_workingDirectory {directory : Path}
    (h : fs.workingDirectory = .ok directory) : directory.isAbsolute = true := by
  rw [FileSystem.workingDirectory] at h
  cases hworking : fs.working with
  | none => simp [hworking] at h
  | some place =>
      simp only [hworking, Except.ok.injEq] at h
      rw [← h, FileSystem.pathOf, Path.isAbsolute, Path.start, String.toList_append]
      rfl

/-- **A root that was looked for is absolute.** -/
theorem isAbsolute_of_value_resolveRoot {h : Host} {target : Path}
    (hroot : (h.resolveRoot target none).value = some root) : root.isAbsolute = true := by
  simp only [Host.resolveRoot, resolveRoot] at hroot
  cases htarget : target.isAbsolute with
  | true =>
      simp only [htarget, if_true, search] at hroot
      exact Path.isAbsolute_of_mem_ancestors htarget (mem_of_value_searchIn hroot)
  | false =>
      simp only [htarget, Bool.false_eq_true, if_false] at hroot
      cases hworking : h.files.workingDirectory with
      | error e => simp [hworking] at hroot
      | ok directory =>
          simp only [hworking, search] at hroot
          have hanchor := Path.isAbsolute_anchor (isAbsolute_workingDirectory hworking) target
          exact Path.isAbsolute_of_mem_ancestors hanchor (mem_of_value_searchIn hroot)

/-! ## the directories of a check -/

/-- **The compiler is told each directory once and in order.**  A file whose project has
a root is checked by one start of the compiler.  The directories that are handed to it
are in strictly increasing order, so that no two of them mean the same; they mean what
the manifest of the root lists and the directories of sources below the root, and
nothing else; and they are absolute if the root is, as every root is that was looked
for.  The arguments are the target, two flags, and then a flag and a path for each
directory. -/
theorem includes_are_told_in_order {h : Host} {target root : Path} {known : Option Path}
    (s : Settings) (hroot : (h.resolveRoot target known).value = some root) :
    ∃ includes args,
      (h.diagnose s target known).invocations = [⟨s.compiler, args, s.home⟩] ∧
      Compiler.IsCommandFor target includes args ∧
      PathSet.Increasing includes ∧ (includes.Pairwise fun p q => ¬ p.Same q) ∧
      (∀ p : Path, p.IsAmong includes ↔
        p.IsAmong (manifestEntries h.files root).value.toList ∨
          p.IsAmong (sourceDirectories h.files root).value.toList) ∧
      (root.isAbsolute = true → ∀ p ∈ includes, p.isAbsolute = true) ∧
      (known = none → root.isAbsolute = true) := by
  refine ⟨(includePaths h.files root).value.toList, _, ?_, Compiler.isCommandFor_arguments _ _,
    PathSet.increasing _, PathSet.pairwise_not_same _, fun p => isAmong_includePaths,
    fun habsolute p => isAbsolute_of_mem_includePaths habsolute, ?_⟩
  · rw [Host.invocations_diagnose, hroot]
    rfl
  · rintro rfl
    exact isAbsolute_of_value_resolveRoot hroot

/-- A project `/w/p` with a source whose directory the manifest lists as well, in another
spelling. -/
def listedHost : Host where
  files := {
    tree := .directory [("w", .directory [("p", .directory [
      (".chapel_lsp", .file (Text.Utf8.encode "./src/\nlib") false),
      ("src", .directory [("M.chpl", .file [] false)])])])]
    working := some ["w"] }
  start _ := .ok ⟨.code 0, []⟩

/-- The source is named by a relative path, and the directories are absolute. -/
theorem includes_are_told_in_order_relative :
    (listedHost.resolveRoot ⟨"p/src/M.chpl"⟩ none).value = some ⟨"/w/p"⟩ ∧
    ∃ includes args,
      (listedHost.diagnose ⟨"chpl", none⟩ ⟨"p/src/M.chpl"⟩ none).invocations =
        [⟨"chpl", args, none⟩] ∧
      Compiler.IsCommandFor ⟨"p/src/M.chpl"⟩ includes args ∧
      (∀ p ∈ includes, p.isAbsolute = true) ∧ (includes.Pairwise fun p q => ¬ p.Same q) ∧
      (⟨"/w/p/lib"⟩ : Path).IsAmong includes ∧ (⟨"/w/p/src"⟩ : Path).IsAmong includes := by
  have hroot : (listedHost.resolveRoot ⟨"p/src/M.chpl"⟩ none).value = some ⟨"/w/p"⟩ := by
    decide +kernel
  obtain ⟨includes, args, hstarted, hcommand, _, hdistinct, hamong, habsolute, hlooked⟩ :=
    includes_are_told_in_order ⟨"chpl", none⟩ hroot
  refine ⟨hroot, includes, args, hstarted, hcommand, habsolute (hlooked rfl), hdistinct,
    (hamong _).mpr (.inl ?_), (hamong _).mpr (.inr ?_)⟩
  · decide +kernel
  · decide +kernel

end Project

end ChapelCheck
