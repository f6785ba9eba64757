import Mathlib.Logic.Relation
import ChapelCheck.Project.Includes
import ChapelCheck.Proofs.Path.Join
import ChapelCheck.Proofs.Path.Set

/-!
# ChapelCheck.Proofs.Manifest

The directories that a manifest lists.

A line that is not blank stands for a directory, and what it stands for is said
in components (`listed?`): those of the root, unless the line is absolute, and
then those of the line less its `.` components.

* `isAmong_listedDirectories` — a manifest lists what its lines stand for;
* `listed?_of_respelled` — a line can be spelled in many ways, and
  `mem_filterMap_of_relisted` — lines can be put down in many ways;
* `manifest_lists_entries` — so the same directories are listed by any two
  manifests of which one is a rewriting of the other.
-/

namespace ChapelCheck.Project

open Text

/-! ## what a line stands for -/

/-- The components of the directory that an entry of a manifest names: those of the
root, unless the entry is absolute, and then those of the entry other than `.`. -/
def entryComponents (root entry : Path) : List Path.Component :=
  (if entry.isAbsolute then [] else root.components) ++ entry.components.filter (· ≠ .here)

/-- What a line of a manifest stands for, if it is not blank. -/
def listed? (root : Path) (line : List Char) : Option (List Path.Component) :=
  if trim line = [] then none
  else some (entryComponents root ⟨String.ofList (trim line)⟩)

theorem listed?_eq_some_iff {root : Path} {line : List Char} {cs : List Path.Component} :
    listed? root line = some cs ↔
      trim line ≠ [] ∧ cs = entryComponents root ⟨String.ofList (trim line)⟩ := by
  by_cases hnil : trim line = []
  · simp [listed?, hnil]
  · simp [listed?, hnil, eq_comm]

/-- Spellings of a path name the same directory. -/
theorem entryComponents_congr (root : Path) {entry entry' : Path} (h : entry.Same entry') :
    entryComponents root entry = entryComponents root entry' := by
  rw [entryComponents, entryComponents, h.isAbsolute_eq, h]

theorem blankBlind_listed? (root : Path) : BlankBlind (listed? root) where
  margins hw hv l := by rw [listed?, listed?, trim_margins hw hv]
  nil := rfl

/-- A blank line stands for nothing. -/
theorem listed?_of_allBlank (root : Path) {line : List Char} (h : AllBlank line) :
    listed? root line = none := by
  have hmargins := (blankBlind_listed? root).append h []
  rwa [List.nil_append] at hmargins

/-- A line without blanks at its ends stands for itself. -/
theorem listed?_of_trimmed (root : Path) {line : List Char} (h : Trimmed line) (hne : line ≠ []) :
    listed? root line = some (entryComponents root ⟨String.ofList line⟩) := by
  rw [listed?, trim_eq_self h, if_neg hne]

/-! ## what a manifest lists -/

/-- **A manifest lists what its lines stand for.** -/
theorem isAmong_listedDirectories (root : Path) (text : String) (d : Path) :
    d.IsAmong (listedDirectories root text).toList ↔
      d.components ∈ (pieces '\n' text.toList).filterMap (listed? root) := by
  have hlines : (pieces '\n' text.toList).filterMap (listed? root) =
      (lines text.toList).filterMap (listed? root) :=
    ((blankBlind_listed? root).filterMap_endedLines _).symm
  rw [listedDirectories, PathSet.ofListLatest, PathSet.adds_put.isAmong_foldl,
    or_iff_right (PathSet.isAmong_empty d), Path.isAmong_iff_mem_map, List.map_map, hlines]
  simp only [manifestLines, List.mem_map, List.mem_filter, List.mem_filterMap, Function.comp_apply,
    Path.components_join_plain, decide_eq_true_eq, listed?_eq_some_iff]
  constructor
  · rintro ⟨_, ⟨⟨line, hline, rfl⟩, hne⟩, hd⟩
    exact ⟨line, hline, hne, hd.symm⟩
  · rintro ⟨line, hline, hne, hd⟩
    exact ⟨trim line, ⟨⟨line, hline, rfl⟩, hne⟩, hd.symm⟩

theorem value_manifestEntries {fs : FileSystem} {root : Path} {text : String}
    (h : fs.readText (root.child manifestName) = .ok text) :
    (manifestEntries fs root).value = listedDirectories root text := by
  simp only [manifestEntries, h]
  rfl

/-- A manifest that cannot be read lists nothing. -/
theorem value_manifestEntries_of_error {fs : FileSystem} {root : Path} {e : SystemError}
    (h : fs.readText (root.child manifestName) = .error e) :
    (manifestEntries fs root).value = PathSet.empty := by
  simp only [manifestEntries, h]
  cases e <;> rfl

/-- What a manifest lists is read from the root. -/
theorem exists_join_of_mem_manifestEntries {fs : FileSystem} {root p : Path}
    (h : p ∈ (manifestEntries fs root).value.toList) : ∃ entry, p = root.join entry := by
  cases htext : fs.readText (root.child manifestName) with
  | ok text =>
      rw [value_manifestEntries htext] at h
      have hmem := (PathSet.adds_put.mem_foldl h).resolve_left List.not_mem_nil
      obtain ⟨line, _, rfl⟩ := List.mem_map.mp hmem
      exact ⟨_, rfl⟩
  | error e =>
      rw [value_manifestEntries_of_error htext] at h
      exact absurd h List.not_mem_nil

/-! ## other spellings of a line -/

/-- `Respelled line line'`: the same line with blanks around it, or with an entry that
names the same directory. -/
inductive Respelled : List Char → List Char → Prop where
  | padded {w v : List Char} (hw : AllBlank w) (hv : AllBlank v) (line : List Char) :
      Respelled line (w ++ line ++ v)
  /-- A relative entry with `./` before it. -/
  | dotted {line : List Char} (hline : Trimmed line) (hne : line ≠ [])
      (hrelative : Path.isAbsolute ⟨String.ofList line⟩ = false) :
      Respelled line ('.' :: '/' :: line)
  /-- An entry with a separator doubled. -/
  | doubled (before after : List Char) :
      Respelled (before ++ '/' :: after) (before ++ '/' :: '/' :: after)
  /-- An entry with a separator behind it. -/
  | ended {line : List Char} (hline : Trimmed line) (hne : line ≠ []) :
      Respelled line (line ++ ['/'])
  /-- An entry with `/.` behind it. -/
  | endedDotted {line : List Char} (hline : Trimmed line) (hne : line ≠ []) :
      Respelled line (line ++ ['/', '.'])

/-- A text of separators and dots has no blank at its ends. -/
theorem trimmed_of_slashes {cs : List Char} (h : ∀ c ∈ cs, c = '/' ∨ c = '.') : Trimmed cs := by
  have hblank : ∀ c ∈ cs, isBlank c = false := by
    intro c hc
    cases h c hc with
    | inl hslash => rw [hslash]; rfl
    | inr hdot => rw [hdot]; rfl
  exact ⟨fun c hc => hblank c (List.mem_of_head? hc),
    fun c hc => hblank c (List.mem_of_getLast? hc)⟩

/-- Lines whose entries mean the same stand for the same directory. -/
theorem listed?_congr (root : Path) {line line' : List Char} (hne : trim line ≠ [])
    (hne' : trim line' ≠ [])
    (h : Path.Same ⟨String.ofList (trim line')⟩ ⟨String.ofList (trim line)⟩) :
    listed? root line' = listed? root line := by
  rw [listed?, listed?, if_neg hne, if_neg hne', entryComponents_congr root h]

/-- Pieces without a component behind an entry do not change what it stands for. -/
theorem listed?_append_slash (root : Path) {line behind : List Char} (hline : Trimmed line)
    (hne : line ≠ []) (hbehind : Trimmed ('/' :: behind))
    (hnone : (pieces '/' behind).filterMap Path.pieceComponent = []) :
    listed? root (line ++ '/' :: behind) = listed? root line := by
  apply listed?_congr
  · rwa [trim_eq_self hline]
  · rw [trim_eq_self (hline.append hbehind)]
    simp [hne]
  · rw [trim_eq_self hline, trim_eq_self (hline.append hbehind), Path.Same,
      Path.components_append_slash hne, hnone, List.append_nil]

/-- **Any spelling of a line stands for the same directory.** -/
theorem listed?_of_respelled (root : Path) {line line' : List Char} (h : Respelled line line') :
    listed? root line' = listed? root line := by
  cases h with
  | padded hw hv => exact (blankBlind_listed? root).margins hw hv line
  | dotted hline hne hrelative =>
      have hdots : Trimmed ['.', '/'] := trimmed_of_slashes (by simp)
      have hdotted : Trimmed ('.' :: '/' :: line) := hdots.append hline
      have hcomponents := Path.components_dot_slash hrelative
      rw [String.toList_ofList] at hcomponents
      have habsolute : Path.isAbsolute ⟨String.ofList ('.' :: '/' :: line)⟩ = false := by
        rw [Path.isAbsolute, Path.start, String.toList_ofList]
        rfl
      rw [listed?_of_trimmed root hdotted (List.cons_ne_nil _ _), listed?_of_trimmed root hline hne,
        entryComponents, entryComponents, habsolute, hrelative, hcomponents]
      simp
  | doubled before after =>
      have hslash : isBlank '/' = false := rfl
      have htrim : trim (before ++ '/' :: after) = trimStart before ++ '/' :: trimEnd after :=
        trim_append_cons hslash before after
      have htrim' : trim (before ++ '/' :: '/' :: after) =
          trimStart before ++ '/' :: '/' :: trimEnd after := by
        rw [trim_append_cons hslash]
        exact congrArg (_ ++ '/' :: ·) (trimEnd_append_cons hslash [] after)
      apply listed?_congr
      · simp [htrim]
      · simp [htrim']
      · rw [htrim, htrim']
        exact Path.components_slash_slash _ _
  | ended hline hne =>
      exact listed?_append_slash root hline hne (trimmed_of_slashes (by simp)) rfl
  | endedDotted hline hne =>
      exact listed?_append_slash root hline hne (trimmed_of_slashes (by simp)) rfl

/-! ## other ways to put down the lines -/

/-- `Relisted ls ls'`: the same lines in another order, with a line said again, with a
blank line more, or with one line in another spelling. -/
inductive Relisted : List (List Char) → List (List Char) → Prop where
  | order {ls ls' : List (List Char)} (h : ls.Perm ls') : Relisted ls ls'
  | again {line : List Char} {ls : List (List Char)} (h : line ∈ ls) : Relisted ls (line :: ls)
  | blank {line : List Char} (h : AllBlank line) (ls : List (List Char)) :
      Relisted ls (line :: ls)
  | respelled {line line' : List Char} (h : Respelled line line') (ls : List (List Char)) :
      Relisted (line :: ls) (line' :: ls)

/-- One change to the lines leaves what they stand for. -/
theorem mem_filterMap_of_relisted (root : Path) {ls ls' : List (List Char)} (h : Relisted ls ls')
    (cs : List Path.Component) :
    cs ∈ ls'.filterMap (listed? root) ↔ cs ∈ ls.filterMap (listed? root) := by
  cases h with
  | order hperm => exact (hperm.filterMap (listed? root)).mem_iff.symm
  | again hline =>
      simp only [List.mem_filterMap, List.mem_cons]
      constructor
      · rintro ⟨l, rfl | hl, hcs⟩
        · exact ⟨l, hline, hcs⟩
        · exact ⟨l, hl, hcs⟩
      · rintro ⟨l, hl, hcs⟩
        exact ⟨l, .inr hl, hcs⟩
  | blank hblank ls => rw [List.filterMap_cons_none (listed?_of_allBlank root hblank)]
  | respelled hline ls =>
      rw [List.filterMap_cons, List.filterMap_cons, listed?_of_respelled root hline]

/-- Any number of changes to the lines, made or taken back, leave what they stand
for. -/
theorem mem_filterMap_of_eqvGen (root : Path) {ls ls' : List (List Char)}
    (h : Relation.EqvGen Relisted ls ls') (cs : List Path.Component) :
    cs ∈ ls'.filterMap (listed? root) ↔ cs ∈ ls.filterMap (listed? root) := by
  induction h with
  | rel ls ls' hstep => exact mem_filterMap_of_relisted root hstep cs
  | refl ls => rfl
  | symm ls ls' _ ih => exact ih.symm
  | trans ls ls' ls'' _ _ ih ih' => exact ih'.trans ih

/-- **A manifest lists what its lines stand for**, each directory once and in order.
For each line between line feeds that is not blank there is a directory: the line
without the blanks around it and without its `.` components, read from the root or,
if it is absolute, by itself.  So the listed directories stay the same, up to their
spelling, if lines are put in another order, repeated, padded with blanks or spelled
in another way, if blank lines are added, and if the line ends get carriage returns;
and if any such changes are taken back. -/
theorem manifest_lists_entries {fs : FileSystem} {root : Path} {text : String}
    (htext : fs.readText (root.child manifestName) = .ok text) :
    PathSet.Increasing (manifestEntries fs root).value.toList ∧
    (∀ d : Path, d.IsAmong (manifestEntries fs root).value.toList ↔
      ∃ line ∈ text.toList.splitOn '\n', trim line ≠ [] ∧
        d.components = entryComponents root ⟨String.ofList (trim line)⟩) ∧
    ∀ (fs' : FileSystem) (text' : String),
      fs'.readText (root.child manifestName) = .ok text' →
      (Relation.EqvGen Relisted (text.toList.splitOn '\n') (text'.toList.splitOn '\n') ∨
        text'.toList = withReturns text.toList) →
      (manifestEntries fs' root).value.toList.map Path.components =
        (manifestEntries fs root).value.toList.map Path.components := by
  rw [value_manifestEntries htext, ← pieces_eq_splitOn]
  refine ⟨PathSet.increasing _, fun d => ?_, fun fs' text' htext' hchanged => ?_⟩
  · rw [isAmong_listedDirectories, List.mem_filterMap]
    simp only [listed?_eq_some_iff]
  · rw [value_manifestEntries htext']
    refine PathSet.map_components_eq fun d => ?_
    rw [isAmong_listedDirectories, isAmong_listedDirectories]
    cases hchanged with
    | inl hlines =>
        rw [← pieces_eq_splitOn] at hlines
        exact mem_filterMap_of_eqvGen root hlines d.components
    | inr hreturns =>
        rw [hreturns, (blankBlind_listed? root).filterMap_pieces_withReturns]

/-- A project `/p` with a manifest. -/
def manifestFiles (text : String) : FileSystem where
  tree := .directory [("p", .directory [(".chapel_lsp", .file (Utf8.encode text) false)])]
  working := some []

/-- An entry is spelled in another way, and a blank line is put behind it; the directory
of the entry is listed before and after, and so are the same directories. -/
theorem manifest_lists_entries_respelled :
    (manifestFiles "lib\n/x").readText ⟨"/p/.chapel_lsp"⟩ = .ok "lib\n/x" ∧
    (⟨"/p//lib"⟩ : Path).IsAmong
      (manifestEntries (manifestFiles "lib\n/x") ⟨"/p"⟩).value.toList ∧
    (manifestEntries (manifestFiles "./lib/\n\n/x") ⟨"/p"⟩).value.toList.map Path.components =
      (manifestEntries (manifestFiles "lib\n/x") ⟨"/p"⟩).value.toList.map Path.components := by
  have htext : (manifestFiles "lib\n/x").readText (Path.child ⟨"/p"⟩ manifestName) =
      .ok "lib\n/x" := rfl
  have htext' : (manifestFiles "./lib/\n\n/x").readText (Path.child ⟨"/p"⟩ manifestName) =
      .ok "./lib/\n\n/x" := rfl
  have htrimmed : Trimmed "lib".toList := by decide +kernel
  have htrimmed' : Trimmed "./lib".toList := by decide +kernel
  have hchanged : Relation.EqvGen Relisted ["lib".toList, "/x".toList]
      ["./lib/".toList, [], "/x".toList] := by
    have hdotted : Relisted ["lib".toList, "/x".toList] ["./lib".toList, "/x".toList] :=
      .respelled (.dotted htrimmed (by decide) (by decide)) _
    have hended : Relisted ["./lib".toList, "/x".toList] ["./lib/".toList, "/x".toList] :=
      .respelled (.ended htrimmed' (by decide)) _
    have hblank : Relisted ["./lib/".toList, "/x".toList] [[], "./lib/".toList, "/x".toList] :=
      .blank allBlank_nil _
    have horder : Relisted [[], "./lib/".toList, "/x".toList] ["./lib/".toList, [], "/x".toList] :=
      .order (.swap _ _ _)
    exact .trans _ _ _ (.rel _ _ hdotted) (.trans _ _ _ (.rel _ _ hended)
      (.trans _ _ _ (.rel _ _ hblank) (.rel _ _ horder)))
  obtain ⟨_, hlisted, hsame⟩ := manifest_lists_entries htext
  refine ⟨htext, (hlisted _).mpr ⟨"lib".toList, ?_, ?_, ?_⟩, hsame _ _ htext' (.inl hchanged)⟩
  · decide +kernel
  · decide +kernel
  · decide +kernel

end ChapelCheck.Project
