import ChapelCheck.Project.Includes
import ChapelCheck.Proofs.Path.Climb
import ChapelCheck.Proofs.Path.Set
import ChapelCheck.Proofs.Visit

/-!
# ChapelCheck.Proofs.Sources

The directories of a project that hold source files.

Whether a file is a source is told from its name (`IsSourceName`) and from what it
is (`LeadsToFile`), and a directory holds a source if one of its own entries is one
(`HoldsSource`).

* `extensionOf_eq_some_iff` — the extension of a name is what stands behind its last
  dot, if anything stands before the dot;
* `sourceDirectory?_child_eq_some_iff` — a visited source stands for the directory
  it is in;
* `mem_sourceDirectories_iff` — the directories that are found are those that hold a
  source, at `src` and below it.
-/

namespace ChapelCheck

open Text

namespace Path

/-! ## extensions -/

/-- The extension of a name is what stands behind its last dot, if the name does not
start with that dot. -/
theorem extensionOf_eq_some_iff {name ext : List Char} :
    extensionOf name = some ext ↔ '.' ∉ ext ∧ ∃ stem, stem ≠ [] ∧ name = stem ++ '.' :: ext := by
  constructor
  · intro h
    by_cases hdot : '.' ∈ name.reverse
    · obtain ⟨after, before, hsplit, hafter⟩ := List.eq_append_cons_of_mem hdot
      have hname : name = before.reverse ++ '.' :: after.reverse := by
        simpa using congrArg List.reverse hsplit
      cases before with
      | nil => simp [extensionOf, hsplit, cut_append hafter] at h
      | cons c before =>
          have hext : after.reverse = ext := by
            simpa [extensionOf, hsplit, cut_append hafter] using h
          rw [hext] at hname
          refine ⟨?_, (c :: before).reverse, by simp, hname⟩
          rw [← hext, List.mem_reverse]
          exact hafter
    · simp [extensionOf, cut_of_not_mem hdot] at h
  · rintro ⟨hext, stem, hstem, rfl⟩
    have hreverse : (stem ++ '.' :: ext).reverse = ext.reverse ++ '.' :: stem.reverse := by simp
    have hcut : cut '.' (ext.reverse ++ '.' :: stem.reverse) = (ext.reverse, some stem.reverse) :=
      cut_append (by simpa using hext) _
    rw [extensionOf, hreverse, hcut]
    cases hrest : stem.reverse with
    | nil => exact absurd (List.reverse_eq_nil_iff.mp hrest) hstem
    | cons c before => simp

theorem extension?_child {name : String} (hname : IsName name) (p : Path) :
    (p.child name).extension? = (extensionOf name.toList).map String.ofList := by
  simp [extension?, fileName?, components_child hname]

end Path

namespace Project

/-! ## source files -/

theorem isName_sourceName : Path.IsName sourceName := by decide

/-- What a source is called: something, a dot and the extension of sources. -/
def IsSourceName (name : String) : Prop :=
  ∃ stem, stem ≠ [] ∧ name.toList = stem ++ '.' :: sourceExtension.toList

/-- `LeadsToFile fs p found`: what was found at `p` is a regular file, or a link that
leads to one. -/
def LeadsToFile (fs : FileSystem) (p : Path) (found : Tree) : Prop :=
  found.isFile = true ∨ (∃ target, found = .link target) ∧ fs.isFile p = true

/-- `HoldsSource fs directory entries`: one of the directory's own entries is a
source. -/
def HoldsSource (fs : FileSystem) (directory : Path) (entries : List (String × Tree)) : Prop :=
  ∃ name found, (name, found) ∈ entries ∧ IsSourceName name ∧
    LeadsToFile fs (directory.child name) found

theorem extension?_child_eq_some_iff {name : String} (hname : Path.IsName name) (p : Path) :
    (p.child name).extension? = some sourceExtension ↔ IsSourceName name := by
  have hdot : '.' ∉ sourceExtension.toList := by decide
  have hext : ∀ ext : List Char,
      String.ofList ext = sourceExtension ↔ ext = sourceExtension.toList := by
    intro ext
    rw [← String.toList_inj, String.toList_ofList]
  simp [Path.extension?_child hname, hext, Path.extensionOf_eq_some_iff, IsSourceName, hdot]

theorem leadsToFile_iff {fs : FileSystem} {p : Path} (hp : Tree.isTooLong p = false)
    (found : Tree) : fs.leadsToFile p found = true ↔ LeadsToFile fs p found := by
  cases found <;> simp [FileSystem.leadsToFile, LeadsToFile, Tree.isFile, hp]

/-- A directory is no source, whatever it is called. -/
theorem sourceDirectory?_directory (fs : FileSystem) (p : Path) {found : Tree}
    (h : found.isDirectory = true) : sourceDirectory? fs (.entry p found) = none := by
  cases found <;> simp_all [sourceDirectory?, isSource, FileSystem.leadsToFile, Tree.isDirectory]

/-- **A visited entry stands for its directory** exactly if it is a source. -/
theorem sourceDirectory?_child_eq_some_iff {fs : FileSystem} {p d : Path} {name : String}
    {found : Tree} (hname : Path.IsName name) (hp : p.lineage.head? = some p)
    (hshort : Tree.isTooLong (p.child name) = false) :
    sourceDirectory? fs (.entry (p.child name) found) = some d ↔
      (IsSourceName name ∧ LeadsToFile fs (p.child name) found) ∧ d = p := by
  have hsource : isSource fs (p.child name) found = true ↔
      IsSourceName name ∧ LeadsToFile fs (p.child name) found := by
    simp [isSource, extension?_child_eq_some_iff hname, leadsToFile_iff hshort]
  simp only [sourceDirectory?, Path.parent?_child hname hp, ← hsource]
  cases isSource fs (p.child name) found <;> simp [eq_comm]

/-! ## the directories that hold sources -/

section

variable {fs : FileSystem} {top : Tree} {sources : Path} (hwell : top.isWellFormed = true)
  (hdirectory : top.isDirectory = true) (hreach : top.isInReach sources = true)
  (hsources : sources.lineage.head? = some sources)
include hwell hdirectory hreach hsources

theorem mem_filterMap_sourceDirectory?_iff {d : Path} :
    d ∈ (top.visit sources).filterMap (sourceDirectory? fs) ↔
      ∃ names name found, top.Within (names ++ [name]) found ∧ IsSourceName name ∧
        LeadsToFile fs ((sources.down names).child name) found ∧ d = sources.down names := by
  have hstep : ∀ {names name found}, top.Within (names ++ [name]) found →
      (sourceDirectory? fs (.entry ((sources.down names).child name) found) = some d ↔
        (IsSourceName name ∧ LeadsToFile fs ((sources.down names).child name) found) ∧
          d = sources.down names) := by
    intro names name found hwithin
    have hnames := hwithin.isName hwell
    rw [List.forall_mem_append, List.forall_mem_singleton] at hnames
    have hshort := Tree.isInReach_iff.mp hreach _ _ hwithin
    rw [Path.down_concat] at hshort
    exact sourceDirectory?_child_eq_some_iff hnames.2 (Path.head?_lineage_down hsources hnames.1)
      hshort
  rw [List.mem_filterMap]
  constructor
  · rintro ⟨v, hv, hd⟩
    cases v with
    | unreadable p cause => contradiction
    | entry p found =>
        obtain ⟨names, hwithin, hp⟩ := Tree.exists_within_of_mem_visit top hv
        -- the top itself is a directory, and everything else is an entry
        rcases List.eq_nil_or_concat names with rfl | ⟨names, name, rfl⟩
        · cases hwithin
          rw [sourceDirectory?_directory fs p hdirectory] at hd
          contradiction
        · rw [List.concat_eq_append] at hwithin hp
          rw [hp, Path.down_concat, hstep hwithin] at hd
          exact ⟨names, name, found, hwithin, hd.1.1, hd.1.2, hd.2⟩
  · rintro ⟨names, name, found, hwithin, hname, hfile, hd⟩
    refine ⟨_, Tree.mem_visit_of_within hwithin hreach, ?_⟩
    rw [Path.down_concat]
    exact (hstep hwithin).mpr ⟨⟨hname, hfile⟩, hd⟩

/-- Directories that are found and mean the same are spelled the same. -/
theorem eq_of_mem_filterMap {d e : Path}
    (hd : d ∈ (top.visit sources).filterMap (sourceDirectory? fs))
    (he : e ∈ (top.visit sources).filterMap (sourceDirectory? fs)) (hsame : d.Same e) : d = e := by
  rw [mem_filterMap_sourceDirectory?_iff hwell hdirectory hreach hsources] at hd he
  obtain ⟨names, name, _, hwithin, _, _, rfl⟩ := hd
  obtain ⟨names', name', _, hwithin', _, _, rfl⟩ := he
  have hnames := hwithin.isName hwell
  have hnames' := hwithin'.isName hwell
  rw [List.forall_mem_append] at hnames hnames'
  rw [Path.eq_of_same_down hnames.1 hnames'.1 hsame]

end

theorem value_sourceDirectories_of_not {fs : FileSystem} {root : Path}
    (h : fs.isDirectory (root.child sourceName) = false) :
    (sourceDirectories fs root).value = PathSet.empty := by
  simp [sourceDirectories, h]

theorem value_sourceDirectories {fs : FileSystem} {root : Path} {top : Tree}
    (hget : fs.get (root.child sourceName) = .ok top) (hdirectory : top.isDirectory = true) :
    (sourceDirectories fs root).value =
      PathSet.ofList ((top.visit (root.child sourceName)).filterMap (sourceDirectory? fs)) := by
  simp [sourceDirectories, FileSystem.isDirectory, FileSystem.visit, hget, hdirectory]

/-- Something is found only if `src` leads to a directory. -/
theorem exists_top_of_mem_sourceDirectories {fs : FileSystem} {root d : Path}
    (h : d ∈ (sourceDirectories fs root).value.toList) :
    ∃ top, fs.get (root.child sourceName) = .ok top ∧ top.isDirectory = true := by
  cases hdirectory : fs.isDirectory (root.child sourceName) with
  | true => exact FileSystem.exists_get_of_isDirectory hdirectory
  | false =>
      rw [value_sourceDirectories_of_not hdirectory] at h
      exact absurd h List.not_mem_nil

/-- **The directories that are found** are those with a source in them. -/
theorem mem_sourceDirectories_iff {fs : FileSystem} {root : Path} {top : Tree}
    (hwell : fs.tree.isWellFormed = true) (hreach : fs.isInReach (root.child sourceName) = true)
    (hget : fs.get (root.child sourceName) = .ok top) (hdirectory : top.isDirectory = true)
    {d : Path} :
    d ∈ (sourceDirectories fs root).value.toList ↔
      ∃ names name found, top.Within (names ++ [name]) found ∧ IsSourceName name ∧
        LeadsToFile fs (((root.child sourceName).down names).child name) found ∧
        d = (root.child sourceName).down names := by
  have hsources : (root.child sourceName).lineage.head? = some (root.child sourceName) := by
    simp [Path.lineage_child isName_sourceName]
  have htop := FileSystem.isWellFormed_of_get hwell hget
  have hbelow : top.isInReach (root.child sourceName) = true := by
    simpa [FileSystem.isInReach, hget] using hreach
  rw [value_sourceDirectories hget hdirectory, PathSet.ofList,
    PathSet.adds_insert.mem_foldl_empty_iff fun p hp q hq =>
      eq_of_mem_filterMap htop hdirectory hbelow hsources hp hq]
  exact mem_filterMap_sourceDirectory?_iff htop hdirectory hbelow hsources

/-- A directory that is found is above something at `src` or below it. -/
theorem exists_mem_ancestors_of_mem_sourceDirectories {fs : FileSystem} {root d : Path}
    (h : d ∈ (sourceDirectories fs root).value.toList) :
    ∃ names, d ∈ ((root.child sourceName).down names).ancestors := by
  obtain ⟨top, hget, htop⟩ := exists_top_of_mem_sourceDirectories h
  rw [value_sourceDirectories hget htop] at h
  have hmem := (PathSet.adds_insert.mem_foldl h).resolve_left List.not_mem_nil
  obtain ⟨v, hv, hd⟩ := List.mem_filterMap.mp hmem
  cases v with
  | unreadable p cause => contradiction
  | entry p found =>
      obtain ⟨names, _, rfl⟩ := Tree.exists_within_of_mem_visit top hv
      rw [sourceDirectory?, Option.ite_none_right_eq_some] at hd
      exact ⟨names, List.mem_of_mem_head? hd.2⟩

/-! ## entries in another order -/

section

variable {fs fs' : FileSystem} (h : Tree.Alike fs.tree fs'.tree)
  (hworking : fs'.working = fs.working)
include h hworking

theorem leadsToFile_of_alike {p : Path} {found found' : Tree} (hnode : found'.node = found.node)
    (hfile : LeadsToFile fs p found) : LeadsToFile fs' p found' := by
  rcases hfile with hfile | ⟨⟨target, rfl⟩, hfile⟩
  · exact .inl ((Tree.isFile_of_node hnode).trans hfile)
  · have hlink : found' = .link target := by cases found' <;> simp_all [Tree.node]
    exact .inr ⟨⟨target, hlink⟩, (FileSystem.isFile_of_alike h hworking p).trans hfile⟩

variable (hwell : fs.tree.isWellFormed = true) (hwell' : fs'.tree.isWellFormed = true)
include hwell hwell'

theorem isInReach_of_alike {p : Path} (hreach : fs.isInReach p = true) :
    fs'.isInReach p = true := by
  cases hget' : fs'.get p with
  | error e => simp [FileSystem.isInReach, hget']
  | ok t' =>
      obtain ⟨t, hget, _, hbelow⟩ := FileSystem.get_of_alike h.symm hworking.symm hget'
      simp only [FileSystem.isInReach, hget, hget'] at hreach ⊢
      exact hbelow.symm.isInReach_of_alike (FileSystem.isWellFormed_of_get hwell hget)
        (FileSystem.isWellFormed_of_get hwell' hget') hreach

theorem mem_sourceDirectories_of_alike {root d : Path}
    (hreach : fs.isInReach (root.child sourceName) = true)
    (hd : d ∈ (sourceDirectories fs root).value.toList) :
    d ∈ (sourceDirectories fs' root).value.toList := by
  obtain ⟨top, hget, htop⟩ := exists_top_of_mem_sourceDirectories hd
  obtain ⟨top', hget', hnode, hbelow⟩ := FileSystem.get_of_alike h hworking hget
  have htop' : top'.isDirectory = true := (Tree.isDirectory_of_node hnode).trans htop
  have hreach' := isInReach_of_alike h hworking hwell hwell' hreach
  rw [mem_sourceDirectories_iff hwell hreach hget htop] at hd
  obtain ⟨names, name, found, hwithin, hname, hfile, hspelled⟩ := hd
  obtain ⟨found', hwithin', hnode'⟩ := hbelow.exists_within
    (FileSystem.isWellFormed_of_get hwell hget) (FileSystem.isWellFormed_of_get hwell' hget')
    hwithin
  rw [mem_sourceDirectories_iff hwell' hreach' hget' htop']
  exact ⟨names, name, found', hwithin', hname, leadsToFile_of_alike h hworking hnode' hfile,
    hspelled⟩

/-- **The order of entries does not matter** to the directories that are found. -/
theorem value_sourceDirectories_of_alike {root : Path}
    (hreach : fs.isInReach (root.child sourceName) = true) :
    (sourceDirectories fs' root).value = (sourceDirectories fs root).value := by
  have hreach' := isInReach_of_alike h hworking hwell hwell' hreach
  refine PathSet.ext_mem fun d => ⟨fun hd => ?_, fun hd => ?_⟩
  · exact mem_sourceDirectories_of_alike h.symm hworking.symm hwell' hwell hreach' hd
  · exact mem_sourceDirectories_of_alike h hworking hwell hwell' hreach hd

end

/-- **Source directories are where source files are.**  In a tree whose paths are all
short enough to be used, there are none if `src` does not lead to a directory.  Else
they are the directories at and below `src`, reached without following a link, that
hold a source among their own entries: a regular file, or a link that leads to one,
with something before the extension in its name.  They do not depend on the order in
which directories list their entries. -/
theorem sources_are_where_files_are (fs : FileSystem) (root : Path)
    (hwell : fs.tree.isWellFormed = true) (hreach : fs.isInReach (root.child sourceName) = true) :
    (fs.isDirectory (root.child sourceName) = false →
      (sourceDirectories fs root).value = PathSet.empty) ∧
    (∀ top, fs.get (root.child sourceName) = .ok top → top.isDirectory = true → ∀ d : Path,
      d.IsAmong (sourceDirectories fs root).value.toList ↔
        ∃ names entries, top.Within names (.directory entries) ∧
          ((root.child sourceName).down names).Same d ∧
          HoldsSource fs ((root.child sourceName).down names) entries) ∧
    ∀ tree', fs.tree.Reordered tree' →
      (sourceDirectories { fs with tree := tree' } root).value =
        (sourceDirectories fs root).value := by
  refine ⟨value_sourceDirectories_of_not, fun top hget htop d => ?_, fun tree' hreordered => ?_⟩
  · simp only [Path.IsAmong, mem_sourceDirectories_iff hwell hreach hget htop,
      Tree.within_concat_iff, HoldsSource]
    constructor
    · rintro ⟨q, ⟨names, name, found, ⟨entries, hwithin, hmem⟩, hname, hfile, rfl⟩, hsame⟩
      exact ⟨names, entries, hwithin, hsame, name, found, hmem, hname, hfile⟩
    · rintro ⟨names, entries, hwithin, hsame, name, found, hmem, hname, hfile⟩
      exact ⟨_, ⟨names, name, found, ⟨entries, hwithin, hmem⟩, hname, hfile, rfl⟩, hsame⟩
  · have halike : Tree.Alike fs.tree ({ fs with tree := tree' } : FileSystem).tree :=
      hreordered.alike hwell
    exact value_sourceDirectories_of_alike halike rfl hwell (hreordered.isWellFormed hwell) hreach

/-- A project `/w` whose sources are in `/code`.  There are a hidden file, a directory
that is named like a source, a link to a directory with a source, and below the
directory a link to a file. -/
def linkedEntries : List (String × Tree) :=
  [("w", .directory [("src", .link "/code")]),
    ("code", .directory [(".chpl", .file [] false),
      ("M.chpl", .directory [("deep", .directory [("N.chpl", .link "/data")])]),
      ("away", .link "/more")]),
    ("data", .file [] false),
    ("more", .directory [("X.chpl", .file [] false)])]

/-- The link below the directory makes a source directory, whichever way the top is
listed. -/
theorem sources_are_where_files_are_linked :
    let files : FileSystem := ⟨.directory linkedEntries, some []⟩
    files.tree.isWellFormed = true ∧ files.isInReach ((⟨"/w"⟩ : Path).child sourceName) = true ∧
      (⟨"/w/src//M.chpl/deep/"⟩ : Path).IsAmong (sourceDirectories files ⟨"/w"⟩).value.toList ∧
      (sourceDirectories ⟨.directory linkedEntries.reverse, some []⟩ ⟨"/w"⟩).value =
        (sourceDirectories files ⟨"/w"⟩).value := by
  intro files
  have hwell : files.tree.isWellFormed = true := by decide +kernel
  have hreach : files.isInReach ((⟨"/w"⟩ : Path).child sourceName) = true := by decide +kernel
  obtain ⟨_, hsome, horder⟩ := sources_are_where_files_are files ⟨"/w"⟩ hwell hreach
  have hlink : files.isFile ⟨"/w/src/M.chpl/deep/N.chpl"⟩ = true := by decide +kernel
  have hname : IsSourceName "N.chpl" := ⟨['N'], by simp, by decide +kernel⟩
  refine ⟨hwell, hreach, (hsome _ rfl rfl _).mpr ?_,
    horder _ (.order (List.reverse_perm linkedEntries).symm)⟩
  refine ⟨["M.chpl", "deep"], [("N.chpl", .link "/data")], ?_, by decide +kernel,
    "N.chpl", .link "/data", List.mem_cons_self, hname, .inr ⟨⟨_, rfl⟩, ?_⟩⟩
  · exact .entry (.tail _ (.head _)) (.entry (.head _) (.top _))
  · exact hlink

end Project

end ChapelCheck
