import ChapelCheck.Project
import ChapelCheck.Proofs.Path.Climb
import ChapelCheck.Proofs.Workspace

/-!
# ChapelCheck.Proofs.Root

Which directory above a file is the root of its project.

Three names decide: two manifests, which make a directory a root, and the name of
a repository, which ends the search.  What the search makes of one directory is
said by `marker_eq_root_iff`, `marker_eq_boundary_iff` and `marker_eq_plain_iff`;
what it makes of a chain of directories follows by induction on the chain:

* `value_searchIn_eq_some_iff` — a root holds a manifest, and nothing nearer holds
  any of the names;
* `value_searchIn_eq_none_iff` — there is none exactly if no directory holds any of
  the names, or the nearest one that does holds a repository only;
* `searchIn_congr` — nothing else is looked at.
-/

namespace ChapelCheck.Project

/-! ## one directory -/

/-- `Holds present directory name`: the directory and the name together lead to
something. -/
def Holds (present : Path → Bool) (directory : Path) (name : String) : Prop :=
  present (directory.child name) = true

instance (present : Path → Bool) (directory : Path) (name : String) :
    Decidable (Holds present directory name) :=
  inferInstanceAs (Decidable (_ = true))

/-- The names that the search looks for. -/
def markerNames : List String := [manifestName, packageName, repositoryName]

/-- A directory that holds none of the names. -/
def Unmarked (present : Path → Bool) (directory : Path) : Prop :=
  ∀ name ∈ markerNames, ¬ Holds present directory name

instance (present : Path → Bool) (directory : Path) : Decidable (Unmarked present directory) :=
  inferInstanceAs (Decidable (∀ name ∈ markerNames, ¬ Holds present directory name))

section

variable {present : Path → Bool} {directory : Path}

theorem marker_eq_root_iff :
    marker present directory = .root ↔
      Holds present directory manifestName ∨ Holds present directory packageName := by
  simp only [marker, Holds]
  cases present (directory.child manifestName) <;> cases present (directory.child packageName) <;>
    cases present (directory.child repositoryName) <;> simp

theorem marker_eq_boundary_iff :
    marker present directory = .boundary ↔
      Holds present directory repositoryName ∧ ¬ Holds present directory manifestName ∧
        ¬ Holds present directory packageName := by
  simp only [marker, Holds]
  cases present (directory.child manifestName) <;> cases present (directory.child packageName) <;>
    cases present (directory.child repositoryName) <;> simp

theorem marker_eq_plain_iff : marker present directory = .plain ↔ Unmarked present directory := by
  simp only [marker, Unmarked, Holds, markerNames, List.forall_mem_cons]
  cases present (directory.child manifestName) <;> cases present (directory.child packageName) <;>
    cases present (directory.child repositoryName) <;> simp

end

/-- Only the three names in a directory matter. -/
theorem marker_congr {present present' : Path → Bool} {directory directory' : Path}
    (h : ∀ name ∈ markerNames, present' (directory'.child name) = present (directory.child name)) :
    marker present' directory' = marker present directory := by
  simp only [markerNames, List.forall_mem_cons] at h
  obtain ⟨hmanifest, hpackage, hrepository, _⟩ := h
  rw [marker, marker, hmanifest, hpackage, hrepository]

/-! ## a chain of directories -/

/-- `Reaches present chain directory`: the directory is in the chain, and no directory
nearer than it holds any of the names. -/
def Reaches (present : Path → Bool) (chain : List Path) (directory : Path) : Prop :=
  ∃ nearer farther, chain = nearer ++ directory :: farther ∧ ∀ d ∈ nearer, Unmarked present d

section

variable {present : Path → Bool}

/-- The search ends at the first directory that is not plain. -/
theorem value_searchIn (chain : List Path) :
    (searchIn present chain).value =
      (chain.find? fun d => marker present d ≠ .plain).filter
        fun d => marker present d = .root := by
  induction chain with
  | nil => rfl
  | cons directory rest ih =>
      rw [searchIn]
      cases hmarker : marker present directory with
      | root => simp [hmarker, Option.filter_some]
      | boundary => simp [hmarker, Option.filter_some]
      | plain => simpa [hmarker] using ih

theorem find?_eq_some_iff_reaches {chain : List Path} {directory : Path} :
    (chain.find? fun d => marker present d ≠ .plain) = some directory ↔
      marker present directory ≠ .plain ∧ Reaches present chain directory := by
  have hplain : ∀ d, (!decide (marker present d ≠ .plain)) = true ↔ Unmarked present d := by
    intro d
    rw [← marker_eq_plain_iff]
    simp
  rw [List.find?_eq_some_iff_append, decide_eq_true_iff, Reaches]
  simp only [hplain]

/-- **A root is found** exactly if the search reaches it and it holds a manifest. -/
theorem value_searchIn_eq_some_iff {chain : List Path} {root : Path} :
    (searchIn present chain).value = some root ↔
      Reaches present chain root ∧
        (Holds present root manifestName ∨ Holds present root packageName) := by
  rw [value_searchIn, Option.filter_eq_some_iff, find?_eq_some_iff_reaches, decide_eq_true_iff,
    ← marker_eq_root_iff]
  constructor
  · rintro ⟨⟨_, hreaches⟩, hroot⟩
    exact ⟨hreaches, hroot⟩
  · rintro ⟨hreaches, hroot⟩
    exact ⟨⟨by simp [hroot], hreaches⟩, hroot⟩

/-- **No root is found** exactly if no directory holds any of the names, or if the
search reaches one that holds a repository and no manifest. -/
theorem value_searchIn_eq_none_iff {chain : List Path} :
    (searchIn present chain).value = none ↔
      (∀ d ∈ chain, Unmarked present d) ∨
        ∃ d, Reaches present chain d ∧ Holds present d repositoryName ∧
          ¬ Holds present d manifestName ∧ ¬ Holds present d packageName := by
  simp only [← marker_eq_boundary_iff, ← marker_eq_plain_iff]
  rw [value_searchIn, Option.filter_eq_none_iff]
  constructor
  · intro hnone
    cases hfind : chain.find? fun d => marker present d ≠ .plain with
    | none => exact .inl fun d hd => by simpa using List.find?_eq_none.mp hfind d hd
    | some d =>
        obtain ⟨hplain, hreaches⟩ := find?_eq_some_iff_reaches.mp hfind
        have hroot : marker present d ≠ .root := by simpa using hnone d hfind
        refine .inr ⟨d, hreaches, ?_⟩
        cases hd : marker present d with
        | root => exact absurd hd hroot
        | boundary => rfl
        | plain => exact absurd hd hplain
  · rintro (hall | ⟨d, hreaches, hboundary⟩) e he
    · obtain ⟨hplain, nearer, farther, hchain, _⟩ := find?_eq_some_iff_reaches.mp he
      exact absurd (hall e (by rw [hchain]; simp)) hplain
    · have hfind := find?_eq_some_iff_reaches.mpr ⟨by simp [hboundary], hreaches⟩
      rw [Option.some.inj (he.symm.trans hfind)]
      simp [hboundary]

/-- Nothing matters to the search but the three names in the directories. -/
theorem searchIn_congr {present' : Path → Bool} {chain : List Path}
    (h : ∀ d ∈ chain, ∀ name ∈ markerNames, present' (d.child name) = present (d.child name)) :
    searchIn present' chain = searchIn present chain := by
  induction chain with
  | nil => rfl
  | cons directory rest ih =>
      rw [List.forall_mem_cons] at h
      rw [searchIn, searchIn, marker_congr h.1, ih h.2]

end

/-! ## the root above a file -/

/-- A root that is found is one of the directories. -/
theorem mem_of_value_searchIn {present : Path → Bool} {chain : List Path} {root : Path}
    (h : (searchIn present chain).value = some root) : root ∈ chain := by
  obtain ⟨⟨nearer, farther, hchain, _⟩, _⟩ := value_searchIn_eq_some_iff.mp h
  rw [hchain]
  simp

theorem resolveRoot_of_isAbsolute {target : Path} (habsolute : target.isAbsolute = true)
    (h : Host) : h.resolveRoot target none = searchIn h.files.isPresent target.ancestors := by
  simp only [Host.resolveRoot, resolveRoot, habsolute, if_true, search]

/-- **The root of an absolute file's project is the nearest marked directory**, if it
holds a manifest.  The search goes through the parent of the file, the parent of
that, and so on to the top, with one component less each time.  It finds a root exactly if the root holds a manifest and
no directory nearer to the file holds a manifest or a repository; it finds none
exactly if there is no directory above the file, or none that holds any of the
three names, or if the nearest one that does holds a repository only.  A root lies
strictly above the file, and the search looks at nothing but the three names in the
directories above the file. -/
theorem root_is_nearest_marked {target : Path} (habsolute : target.isAbsolute = true) (h : Host) :
    (Path.Climbs target target.ancestors ∧
      (target.ancestors ≠ [] → target.ancestors.getLast? = some ⟨"/"⟩)) ∧
    (∀ root, (h.resolveRoot target none).value = some root ↔
      Reaches h.files.isPresent target.ancestors root ∧
        (Holds h.files.isPresent root manifestName ∨ Holds h.files.isPresent root packageName)) ∧
    ((h.resolveRoot target none).value = none ↔
      target.ancestors = [] ∨ (∀ d ∈ target.ancestors, Unmarked h.files.isPresent d) ∨
        ∃ d, Reaches h.files.isPresent target.ancestors d ∧
          Holds h.files.isPresent d repositoryName ∧ ¬ Holds h.files.isPresent d manifestName ∧
          ¬ Holds h.files.isPresent d packageName) ∧
    (∀ root, (h.resolveRoot target none).value = some root →
      target.startsWith root = true ∧ ¬ root.Same target) ∧
    ∀ h' : Host,
      (∀ d ∈ target.ancestors, ∀ name ∈ markerNames,
        h'.files.isPresent (d.child name) = h.files.isPresent (d.child name)) →
      h'.resolveRoot target none = h.resolveRoot target none := by
  simp only [resolveRoot_of_isAbsolute habsolute]
  refine ⟨⟨Path.climbs_ancestors target, Path.getLast?_ancestors habsolute⟩,
    fun root => value_searchIn_eq_some_iff, ?_, fun root hroot => ?_,
    fun h' hsame => searchIn_congr hsame⟩
  · -- an empty chain holds none of the names
    have hempty : target.ancestors = [] → ∀ d ∈ target.ancestors, Unmarked h.files.isPresent d :=
      fun hnil d hd => by simp [hnil] at hd
    rw [value_searchIn_eq_none_iff, ← or_assoc, or_iff_right_of_imp hempty]
  · obtain ⟨hbelow, hlt⟩ := Path.startsWith_of_mem_ancestors (mem_of_value_searchIn hroot)
    refine ⟨Path.startsWith_iff.mpr hbelow, fun hsame => ?_⟩
    rw [hsame] at hlt
    exact Nat.lt_irrefl _ hlt

/-- A repository `/w`, and in it a package `/w/p`. -/
def packageHost : Host where
  files := {
    tree := .directory [("w", .directory [(".git", .directory []),
      ("p", .directory [("Mason.toml", .file [] false), ("src", .directory [])])])]
    working := some [] }
  start _ := .ok ⟨.code 0, []⟩

/-- A file of the package has the package as its root, which is spelled as in the
path of the file; a file beside the package has none. -/
theorem root_is_nearest_marked_package :
    ((⟨"/w//p/./src/M.chpl/"⟩ : Path).isAbsolute = true ∧
      (packageHost.resolveRoot ⟨"/w//p/./src/M.chpl/"⟩ none).value = some ⟨"/w//p"⟩) ∧
    (⟨"/w/M.chpl"⟩ : Path).isAbsolute = true ∧
      (packageHost.resolveRoot ⟨"/w/M.chpl"⟩ none).value = none := by
  have hpackage : (⟨"/w//p/./src/M.chpl/"⟩ : Path).isAbsolute = true := by decide +kernel
  have hbeside : (⟨"/w/M.chpl"⟩ : Path).isAbsolute = true := by decide +kernel
  obtain ⟨_, hsome, _⟩ := root_is_nearest_marked hpackage packageHost
  obtain ⟨_, _, hnone, _⟩ := root_is_nearest_marked hbeside packageHost
  refine ⟨⟨hpackage, (hsome _).mpr ⟨?_, .inr (by decide +kernel)⟩⟩, hbeside,
    hnone.mpr (.inr (.inr ⟨⟨"/w"⟩, ?_, by decide +kernel⟩))⟩
  · exact ⟨[⟨"/w//p/./src"⟩], [⟨"/w"⟩, ⟨"/"⟩], by decide +kernel, by decide +kernel⟩
  · exact ⟨[], [⟨"/"⟩], by decide +kernel, by decide +kernel⟩

end ChapelCheck.Project
