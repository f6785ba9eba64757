import ChapelCheck.Proofs.Published
import ChapelCheck.Proofs.Workspace

/-!
# ChapelCheck.Proofs.Started

How often the compiler is started for a saved document, and with what.

The starts of a computation are its `Logged.invocations`.  Finding a root and
collecting directories start nothing, and a check starts the compiler once; what
remains is which root a saved document has (`ChosenRoot`).  The root above the file
is looked for twice, before the workspace folders are asked and behind them again,
but it is never chosen twice:

* `invocations_diagnose` — a check as part of a project is one start;
* `chosenRoot_iff` — the root that the directories are collected from;
* `saved_runs_compiler_once` — both together, for a saved document, with what is sent
  for it as a function of the outcome of that start.
-/

namespace ChapelCheck

/-! ## steps that start nothing -/

namespace Project

theorem invocations_searchIn (present : Path → Bool) (directories : List Path) :
    (searchIn present directories).invocations = [] := by
  induction directories with
  | nil => rfl
  | cons directory rest ih =>
      rw [searchIn]
      cases marker present directory with
      | root => rfl
      | boundary => rfl
      | plain => exact ih

/-- Looking for a root starts nothing. -/
theorem invocations_resolveRoot (present : Path → Bool) (working : Except SystemError Path)
    (target : Path) (known : Option Path) :
    (resolveRoot present working target known).invocations = [] := by
  cases known with
  | some root => rfl
  | none =>
      unfold resolveRoot
      cases habsolute : target.isAbsolute with
      | true =>
          simp only [if_true]
          exact invocations_searchIn present _
      | false =>
          simp only [Bool.false_eq_true, if_false]
          cases working with
          | ok directory => exact invocations_searchIn present _
          | error cause => rfl

theorem invocations_manifestEntries (fs : FileSystem) (root : Path) :
    (manifestEntries fs root).invocations = [] := by
  rw [manifestEntries]
  split
  · rfl
  · rfl
  · rfl

theorem invocations_sourceDirectories (fs : FileSystem) (root : Path) :
    (sourceDirectories fs root).invocations = [] := by
  rw [sourceDirectories]
  split
  · rfl
  · rfl

/-- Collecting directories starts nothing. -/
theorem invocations_includePaths (fs : FileSystem) (root : Path) :
    (includePaths fs root).invocations = [] := by
  simp [includePaths, invocations_manifestEntries, invocations_sourceDirectories]

end Project

namespace Host

/-- A root that is known is the root. -/
theorem value_resolveRoot_some (h : Host) (target root : Path) :
    (h.resolveRoot target (some root)).value = some root := rfl

/-- The directories that are searched for modules of a project with this root, in
order; without a project there are none. -/
def searched (h : Host) : Option Path → List Path
  | none => []
  | some root => (Project.includePaths h.files root).value.toList

/-- The directories for a file are those of its root. -/
theorem toList_includesFor (h : Host) (target : Path) (known : Option Path) :
    (h.includesFor target known).value.toList =
      h.searched (h.resolveRoot target known).value := by
  rw [includesFor, Logged.value_bind]
  cases (h.resolveRoot target known).value with
  | none => rfl
  | some root => rfl

theorem invocations_includesFor (h : Host) (target : Path) (known : Option Path) :
    (h.includesFor target known).invocations = [] := by
  have hroot : (h.resolveRoot target known).invocations = [] :=
    Project.invocations_resolveRoot _ _ _ _
  rw [includesFor, Logged.invocations_bind, hroot, List.nil_append]
  cases (h.resolveRoot target known).value with
  | none => rfl
  | some root => simp [Project.invocations_includePaths]

end Host

/-! ## one start -/

/-- What comes of a check's output starts nothing more. -/
theorem Checker.invocations_extract (c : Checker) (target : Path) (includes : PathSet) :
    (c.extract target includes).invocations = (c.check target includes.toList).invocations := by
  rw [extract, Logged.invocations_bind]
  cases (c.check target includes.toList).value with
  | error e => simp
  | ok output =>
      obtain ⟨success, text⟩ := output
      cases success with
      | true => simp
      | false => simp [Diagnostic.readDiagnostics]

/-- A check depends on its checker through one answer, and through the files that
are the checker's own. -/
theorem Checker.extract_congr {c c' : Checker} {target : Path} {includes : PathSet}
    (howns : c'.owns = c.owns)
    (hcheck : c'.check target includes.toList = c.check target includes.toList) :
    c'.extract target includes = c.extract target includes := by
  rw [extract, extract, hcheck, reports_congr howns]

namespace Host

/-- One check is one start of the compiler, whether it succeeds or not. -/
theorem invocations_check (h : Host) (s : Settings) (target : Path) (includes : List Path) :
    ((h.checker s).check target includes).invocations =
      [Compiler.invocation s target includes] := by
  simp only [checker, Checker.ofSettings, Logged.invocations_bind, Logged.invocations_tell,
    Logged.invocations_start, Logged.value_start]
  cases h.start (Compiler.invocation s target includes) with
  | error cause => rfl
  | ok finished => rfl

/-- **A check as part of a project is one start**, with the directories of the
file's root. -/
theorem invocations_diagnose (h : Host) (s : Settings) (target : Path) (known : Option Path) :
    (h.diagnose s target known).invocations =
      [Compiler.invocation s target (h.searched (h.resolveRoot target known).value)] := by
  rw [diagnose, Logged.invocations_bind, invocations_includesFor, List.nil_append,
    Checker.invocations_extract, invocations_check, toList_includesFor]

/-- A check as part of a project depends on the files, and on what comes of its
one start. -/
theorem diagnose_congr {h : Host} {start : Invocation → Except SystemError Finished} {s : Settings}
    {target : Path} {known : Option Path}
    (hstart : start (Compiler.invocation s target
        (h.searched (h.resolveRoot target known).value)) =
      h.start (Compiler.invocation s target
        (h.searched (h.resolveRoot target known).value))) :
    Host.diagnose ⟨h.files, start⟩ s target known = h.diagnose s target known := by
  have hincludes : Host.includesFor ⟨h.files, start⟩ target known = h.includesFor target known := rfl
  rw [← toList_includesFor] at hstart
  have hextract : (Host.checker ⟨h.files, start⟩ s).extract target
        (h.includesFor target known).value =
      (h.checker s).extract target (h.includesFor target known).value := by
    apply Checker.extract_congr
    · rfl
    · simp only [checker, Checker.ofSettings, Logged.start, hstart]
  simp only [diagnose, hincludes, bind, Logged.bind, hextract]

end Host

/-! ## the root of a saved document -/

namespace Server

/-- `ChosenRoot h folders file root`: where the directories for a saved file are
collected from.  A root above the file comes first, then the innermost
workspace folder; a file may have neither. -/
inductive ChosenRoot (h : Host) (folders : List Path) (file : Path) : Option Path → Prop where
  | above {root : Path} (hroot : (h.resolveRoot file none).value = some root) :
      ChosenRoot h folders file (some root)
  | folder {root : Path} (hnone : (h.resolveRoot file none).value = none)
      (hinner : IsInnermost folders file root) : ChosenRoot h folders file (some root)
  | alone (hnone : (h.resolveRoot file none).value = none)
      (hfolders : ∀ f ∈ folders, file.startsWith f = false) : ChosenRoot h folders file none

/-- The root that a saved file is checked with is the chosen one. -/
theorem chosenRoot_iff {h : Host} {folders : List Path} {file : Path} {root : Option Path} :
    ChosenRoot h folders file root ↔
      root = (h.resolveRoot file none).value.or (innermost folders file) := by
  constructor
  · intro hchosen
    cases hchosen with
    | above hroot => rw [hroot, Option.some_or]
    | folder hnone hinner => rw [hnone, Option.none_or, innermost_eq_some_iff.mpr hinner]
    | alone hnone hfolders => rw [hnone, Option.none_or, innermost_eq_none_iff.mpr hfolders]
  · rintro rfl
    cases hfound : (h.resolveRoot file none).value with
    | some root => rw [Option.some_or]; exact .above hfound
    | none =>
        rw [Option.none_or]
        cases hinner : innermost folders file with
        | some root => exact .folder hfound (innermost_eq_some_iff.mp hinner)
        | none => exact .alone hfound (innermost_eq_none_iff.mp hinner)

/-- A chosen root is not chosen again, and without one the second search finds
none either. -/
theorem ChosenRoot.value_resolveRoot {h : Host} {folders : List Path} {file : Path}
    {root : Option Path} (hchosen : ChosenRoot h folders file root) :
    (h.resolveRoot file root).value = root := by
  cases hchosen with
  | above _ => rfl
  | folder _ _ => rfl
  | alone hnone _ => exact hnone

/-- The directories that are searched when a file is saved are those of the chosen
root. -/
theorem ChosenRoot.toList_includesOf {h : Host} {s : Server} {file : Path} {root : Option Path}
    (hchosen : ChosenRoot h s.folders file root) :
    (s.includesOf h file).toList = h.searched root := by
  rw [includesOf, ← chosenRoot_iff.mp hchosen, h.toList_includesFor, hchosen.value_resolveRoot]

/-- A root above the file, or no folder that holds it: then the folders have no
say. -/
theorem ChosenRoot.eq_resolveRoot {h : Host} {folders : List Path} {file : Path}
    {root : Option Path} (hchosen : ChosenRoot h folders file root)
    (hfolders : (h.resolveRoot file none).value ≠ none ∨ ∀ f ∈ folders, file.startsWith f = false) :
    root = (h.resolveRoot file none).value := by
  rw [chosenRoot_iff.mp hchosen]
  cases hfolders with
  | inl hsome => exact Option.or_of_isSome (Option.isSome_iff_ne_none.mpr hsome)
  | inr hnone => rw [innermost_eq_none_iff.mpr hnone, Option.or_none]

/-! ## saved documents -/

theorem invocations_report (document : Url) (file : Path)
    (result : Except StartError (List Diagnostic)) : (report document file result).invocations = [] := by
  cases result with
  | error cause => rfl
  | ok found =>
      rw [report]
      split
      · rfl
      · rfl

/-- A saved document is one start of the compiler. -/
theorem invocations_saved {document : Url} {file : Path} (hfile : document.filePath? = some file)
    {h : Host} {s : Server} {root : Option Path} (hchosen : ChosenRoot h s.folders file root) :
    (s.handle h (.saved document)).invocations =
      [Compiler.invocation s.settings file (h.searched root)] := by
  have hfirst : (h.resolveRoot file none).invocations = [] :=
    Project.invocations_resolveRoot _ _ _ _
  have hdiagnose := h.invocations_diagnose s.settings file root
  rw [hchosen.value_resolveRoot] at hdiagnose
  simp only [handle, check, hfile, diagnose, Logged.invocations_bind, Logged.invocations_pure,
    invocations_report, hfirst, ← chosenRoot_iff.mp hchosen, hdiagnose, List.nil_append,
    List.append_nil]

/-- The diagnostics of a saved file are those of a check with the chosen root. -/
theorem value_diagnose_of_chosenRoot {h : Host} {s : Server} {file : Path} {root : Option Path}
    (hchosen : ChosenRoot h s.folders file root) :
    (diagnose h s file).value = (h.diagnose s.settings file root).value := by
  rw [diagnose, Logged.value_bind, ← chosenRoot_iff.mp hchosen]

/-- A root that is looked for and then passed on gives the same check as one that
is left to be looked for. -/
theorem value_host_diagnose_resolveRoot (h : Host) (s : Settings) (file : Path) :
    (h.diagnose s file (h.resolveRoot file none).value).value = (h.diagnose s file none).value := by
  cases hfound : (h.resolveRoot file none).value with
  | none => rfl
  | some root =>
      have hincludes : (h.includesFor file (some root)).value = (h.includesFor file none).value := by
        rw [Host.includesFor, Host.includesFor, Logged.value_bind, Logged.value_bind, hfound,
          h.value_resolveRoot_some]
      rw [Host.diagnose, Host.diagnose, Logged.value_bind, Logged.value_bind, hincludes]

/-- What comes of a saved document depends on the files, and on what comes of its
one start. -/
theorem handle_saved_congr {document : Url} {file : Path} (hfile : document.filePath? = some file)
    {h : Host} {s : Server} {root : Option Path} (hchosen : ChosenRoot h s.folders file root)
    {start : Invocation → Except SystemError Finished}
    (hstart : start (Compiler.invocation s.settings file (h.searched root)) =
      h.start (Compiler.invocation s.settings file (h.searched root))) :
    s.handle ⟨h.files, start⟩ (.saved document) = s.handle h (.saved document) := by
  have hroot : Host.resolveRoot ⟨h.files, start⟩ file none = h.resolveRoot file none := rfl
  have hdiagnose : Host.diagnose ⟨h.files, start⟩ s.settings file root =
      h.diagnose s.settings file root := by
    apply Host.diagnose_congr
    rw [hchosen.value_resolveRoot]
    exact hstart
  simp only [handle, check, hfile, diagnose, hroot, bind, Logged.bind, ← chosenRoot_iff.mp hchosen,
    hdiagnose]

/-- **A saved document is checked by one run of the compiler**, on its file and
with the directories of one root: the root above the file, or else the innermost
workspace folder that holds it, or else none.  What is sent is told by the outcome of
this run: an error if the compiler cannot be started, and else what an editor is shown
of its output.  All that follows, the log too, depends on the files and on this outcome
alone.  If there is a root above the file, or if no folder holds it, run and diagnostics
are those of a check to which no root is known. -/
theorem saved_runs_compiler_once {document : Url} {file : Path}
    (hfile : document.filePath? = some file) (h : Host) (s : Server) :
    ∃ root, (∀ r, ChosenRoot h s.folders file r ↔ r = root) ∧
      (s.handle h (.saved document)).invocations =
        [⟨s.settings.compiler, Compiler.arguments file (h.searched root), s.settings.home⟩] ∧
      (s.handle h (.saved document)).value =
        (s, sentFor document file s.settings.compiler (h.start
          ⟨s.settings.compiler, Compiler.arguments file (h.searched root), s.settings.home⟩)) ∧
      (∀ start : Invocation → Except SystemError Finished,
        start ⟨s.settings.compiler, Compiler.arguments file (h.searched root), s.settings.home⟩ =
          h.start ⟨s.settings.compiler, Compiler.arguments file (h.searched root),
            s.settings.home⟩ →
        s.handle ⟨h.files, start⟩ (.saved document) = s.handle h (.saved document)) ∧
      (((h.resolveRoot file none).value ≠ none ∨ ∀ f ∈ s.folders, file.startsWith f = false) →
        (s.handle h (.saved document)).invocations =
            (h.diagnose s.settings file none).invocations ∧
          (diagnose h s file).value = (h.diagnose s.settings file none).value ∧
          (s.handle h (.saved document)).value.2 =
            .message .log ("Document saved: " ++ document.text) ::
              (report document file (h.diagnose s.settings file none).value).value) := by
  have hchosen := chosenRoot_iff.mpr (Eq.refl ((h.resolveRoot file none).value.or
    (innermost s.folders file)))
  refine ⟨_, fun r => chosenRoot_iff, invocations_saved hfile hchosen, ?_,
    fun start hstart => handle_saved_congr hfile hchosen hstart, fun hfolders => ?_⟩
  · rw [value_saved_eq_sentFor hfile, hchosen.toList_includesOf]
    rfl
  have hroot := hchosen.eq_resolveRoot hfolders
  have hsame : (diagnose h s file).value = (h.diagnose s.settings file none).value := by
    rw [value_diagnose_of_chosenRoot hchosen, hroot, value_host_diagnose_resolveRoot]
  refine ⟨?_, hsame, ?_⟩
  · rw [invocations_saved hfile hchosen, h.invocations_diagnose, hroot]
  · rw [value_saved hfile, hsame]

/-- A repository `/w` with sources, and in it a package `/w/p` with sources of its
own.  The compiler finds an error in `/w/M`, and it cannot be started on any other
file. -/
def repositoryHost : Host where
  files := {
    tree := .directory [("w", .directory [(".git", .directory []),
      ("src", .directory [("A.chpl", .file [] false)]),
      ("p", .directory [("Mason.toml", .file [] false),
        ("src", .directory [("B.chpl", .file [] false)])])])]
    working := some [] }
  start i := if i.arguments.head? = some "/w/M" then .ok ⟨.code 1, Text.Utf8.encode "/w/M:1:e:a"⟩
    else .error .denied

/-- A file of the repository is checked with the workspace folder as its root,
although the search for a root ended at the repository; and a file of the
package is checked with the package as its root, as without any folder.  For the
first one its error is shown, and for the second one that the compiler could not be
started. -/
theorem saved_runs_compiler_once_repository :
    (Server.handle repositoryHost ⟨⟨"chpl", none⟩, [⟨"/w"⟩, ⟨"/"⟩]⟩
        (.saved ⟨"file", some "", none, .rooted ["w", "M"], none, none⟩)).invocations =
      [⟨"chpl", ["/w/M", "--no-codegen", "--baseline", "-M", "/w/src"], none⟩] ∧
    (Server.handle repositoryHost ⟨⟨"chpl", none⟩, [⟨"/w"⟩, ⟨"/"⟩]⟩
        (.saved ⟨"file", some "", none, .rooted ["w", "p", "N"], none, none⟩)).invocations =
      [⟨"chpl", ["/w/p/N", "--no-codegen", "--baseline", "-M", "/w/p/src"], none⟩] ∧
    (Server.handle repositoryHost ⟨⟨"chpl", none⟩, [⟨"/w"⟩, ⟨"/"⟩]⟩
        (.saved ⟨"file", some "", none, .rooted ["w", "p", "N"], none, none⟩)).invocations =
      (repositoryHost.diagnose ⟨"chpl", none⟩ ⟨"/w/p/N"⟩ none).invocations ∧
    (Server.handle repositoryHost ⟨⟨"chpl", none⟩, [⟨"/w"⟩, ⟨"/"⟩]⟩
        (.saved ⟨"file", some "", none, .rooted ["w", "M"], none, none⟩)).value.2 =
      [.message .log "Document saved: file:///w/M",
        .message .log "Publishing 1 diagnostics for file:///w/M",
        .publish ⟨"file", some "", none, .rooted ["w", "M"], none, none⟩ [⟨0, 1, .error, "a"⟩]] ∧
    (Server.handle repositoryHost ⟨⟨"chpl", none⟩, [⟨"/w"⟩, ⟨"/"⟩]⟩
        (.saved ⟨"file", some "", none, .rooted ["w", "p", "N"], none, none⟩)).value.2 =
      [.message .log "Document saved: file:///w/p/N",
        .message .error ("chapel-lsp: cannot check file:///w/p/N: " ++
          "Failed to start compiler `chpl`: Permission denied (os error 13)")] := by
  have hfile : Url.filePath? ⟨"file", some "", none, .rooted ["w", "M"], none, none⟩ =
      some ⟨"/w/M"⟩ := by decide +kernel
  have hfile' : Url.filePath? ⟨"file", some "", none, .rooted ["w", "p", "N"], none, none⟩ =
      some ⟨"/w/p/N"⟩ := by decide +kernel
  have hfound : (repositoryHost.resolveRoot ⟨"/w/p/N"⟩ none).value = some ⟨"/w/p"⟩ := by
    decide +kernel
  obtain ⟨root, hroot, hruns, hsent, _, _⟩ :=
    saved_runs_compiler_once hfile repositoryHost ⟨⟨"chpl", none⟩, [⟨"/w"⟩, ⟨"/"⟩]⟩
  obtain ⟨root', hroot', hruns', hsent', _, hsame'⟩ :=
    saved_runs_compiler_once hfile' repositoryHost ⟨⟨"chpl", none⟩, [⟨"/w"⟩, ⟨"/"⟩]⟩
  have hinner : IsInnermost [⟨"/w"⟩, ⟨"/"⟩] ⟨"/w/M"⟩ ⟨"/w"⟩ :=
    ⟨[], [⟨"/"⟩], rfl, by decide +kernel, by decide +kernel, by decide +kernel⟩
  have hfolder : some ⟨"/w"⟩ = root := (hroot _).mp (.folder (by decide +kernel) hinner)
  have habove : some ⟨"/w/p"⟩ = root' := (hroot' _).mp (.above hfound)
  refine ⟨?_, ?_, (hsame' (.inl (by rw [hfound]; exact Option.some_ne_none _))).1, ?_, ?_⟩
  · rw [hruns, ← hfolder]
    decide +kernel
  · rw [hruns', ← habove]
    decide +kernel
  · rw [hsent, ← hfolder]
    decide +kernel
  · rw [hsent', ← habove]
    decide +kernel

end Server

end ChapelCheck
