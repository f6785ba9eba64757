import ChapelCheck.Session.Server
import ChapelCheck.Proofs.Check

/-!
# ChapelCheck.Proofs.Published

What an editor is shown for a saved file, as a function of the compiler's
output alone.

The file's own diagnostics are never left out of its check, and a selection of
files commutes with merging; so the editor is shown the diagnostics of the
output that are in the file, merged (`shownFor`), whatever else is left out and
why.  A shown diagnostic has a message of its own or falls back to its kind,
except where several diagnostics without a message meet at one place:

* `value_saved_eq_sentFor` — all that is sent for a saved document, from the outcome of
  the compiler's run (`sentFor`);
* `published_eq_shownFor` — what is published is `shownFor`, so it depends
  neither on the installation nor on lines about other files;
* `message_blank_iff` — when the editor is shown a blank message.
-/

namespace ChapelCheck

open Diagnostic Editor.Diagnostic

/-! ## the diagnostics of the checked file -/

/-- What an editor is shown for a file, given the output of its check. -/
def shownFor (file : Path) (output : Output) : List Editor.Diagnostic :=
  if output.success then []
  else
    (merge ((parseOutput output.text).filter fun d => decide (d.file.Same file))).map ofDiagnostic

/-- A selection of the checked file's own diagnostics meets them all, since
they are all reported. -/
theorem filter_filter_reports (c : Checker) {file : Path} {p : Diagnostic → Bool}
    (hp : ∀ d, p d = true → d.file.Same file) (ds : List Diagnostic) :
    (ds.filter (c.reports file)).filter p = ds.filter p := by
  rw [List.filter_filter]
  apply List.filter_congr
  intro d _
  cases hd : p d with
  | true => rw [Checker.reports, decide_eq_true (hp d hd), Bool.true_or, Bool.true_and]
  | false => rw [Bool.false_and]

/-- What is shown for the checked file does not depend on what else is left
out. -/
theorem forFile_merge_reports (c : Checker) (file : Path) (ds : List Diagnostic) :
    forFile (merge (ds.filter (c.reports file))) file =
      (merge (ds.filter fun d => decide (d.file.Same file))).map ofDiagnostic := by
  rw [forFile, filter_merge (placeWise_file file),
    filter_filter_reports c fun _ hd => of_decide_eq_true hd]

/-- A check whose compiler could be started has a result, and `shownFor` is
what is shown of it. -/
theorem exists_extract_forFile {c : Checker} {file : Path} {includes : PathSet} {output : Output}
    (h : (c.check file includes.toList).value = .ok output) :
    ∃ found, (c.extract file includes).value = .ok found ∧
      forFile found file = shownFor file output := by
  refine ⟨_, Checker.value_extract h, ?_⟩
  rw [shownFor]
  by_cases hsuccess : output.success = true
  · rw [if_pos hsuccess, if_pos hsuccess]
    rfl
  · rw [if_neg hsuccess, if_neg hsuccess, forFile_merge_reports]

/-! ## saved documents -/

/-- The documents whose diagnostics are published, and with which ones. -/
def published (sent : List Outgoing) : List (Url × List Editor.Diagnostic) :=
  sent.filterMap fun
    | .publish document shown => some (document, shown)
    | .message .. => none

namespace Server

/-- The directories that are searched for modules when a file is saved. -/
def includesOf (h : Host) (s : Server) (file : Path) : PathSet :=
  (h.includesFor file ((h.resolveRoot file none).value.or (innermost s.folders file))).value

theorem value_diagnose (h : Host) (s : Server) (file : Path) :
    (diagnose h s file).value =
      ((h.checker s.settings).extract file (includesOf h s file)).value := by
  rw [diagnose, Logged.value_bind, Host.diagnose, Logged.value_bind, includesOf]

end Server

/-- A compiler that cannot be started leaves a check without an output. -/
theorem Host.value_check_checker_of_error {h : Host} {s : Settings} {target : Path}
    {includes : List Path} {cause : SystemError}
    (hstart : h.start (Compiler.invocation s target includes) = .error cause) :
    ((h.checker s).check target includes).value = .error ⟨s.compiler, cause⟩ := by
  simp only [checker, Checker.ofSettings, Logged.value_bind, Logged.value_start, hstart,
    Logged.value_pure]

/-- What a compiler that was started leaves behind is the output of the check. -/
theorem Host.value_check_checker {h : Host} {s : Settings} {target : Path} {includes : List Path}
    {finished : Finished}
    (hstart : h.start (Compiler.invocation s target includes) = .ok finished) :
    ((h.checker s).check target includes).value =
      .ok ⟨finished.status.isSuccess, Text.Utf8.decodeLossy finished.errors⟩ := by
  simp only [checker, Checker.ofSettings, Logged.value_bind, Logged.value_start, hstart,
    Logged.value_pure]

/-- A check without a result is reported as an error. -/
theorem Server.value_report_error (document : Url) (file : Path) (cause : StartError) :
    (report document file (.error cause)).value =
      [.message .error ("chapel-lsp: cannot check " ++ document.text ++ ": " ++ cause.message)] :=
  rfl

/-- A check with a result is announced and published, as far as it is about the file. -/
theorem Server.value_report_ok (document : Url) (file : Path) (found : List Diagnostic) :
    (report document file (.ok found)).value =
      [.message .log ("Publishing " ++ Text.Decimal.text (forFile found file).length ++
          " diagnostics for " ++ document.text),
        .publish document (forFile found file)] := by
  rw [report]
  split
  · rfl
  · rfl

/-- What comes of a saved document that is a file: it is announced, and its check
is reported. -/
theorem Server.value_saved {document : Url} {file : Path} (hfile : document.filePath? = some file)
    (h : Host) (s : Server) :
    (s.handle h (.saved document)).value =
      (s, .message .log ("Document saved: " ++ document.text) ::
        (report document file (diagnose h s file).value).value) := by
  simp only [handle, Logged.value_bind, Logged.value_pure, check, hfile]

/-- A saved file's diagnostics are published once. -/
theorem Server.published_saved_of_diagnose {h : Host} {s : Server} {document : Url} {file : Path}
    {found : List Diagnostic} (hfile : document.filePath? = some file)
    (hfound : (diagnose h s file).value = .ok found) :
    published (s.handle h (.saved document)).value.2 = [(document, forFile found file)] := by
  rw [value_saved hfile, hfound, value_report_ok]
  rfl

/-- What is sent for a saved document that is a file, given the outcome of the start
of the compiler `program`: it is announced, and then comes an error, or what an editor
is shown. -/
def sentFor (document : Url) (file : Path) (program : String) :
    Except SystemError Finished → List Outgoing
  | .error cause =>
    [.message .log ("Document saved: " ++ document.text),
      .message .error ("chapel-lsp: cannot check " ++ document.text ++ ": " ++
        StartError.message ⟨program, cause⟩)]
  | .ok finished =>
    let shown := shownFor file ⟨finished.status.isSuccess, Text.Utf8.decodeLossy finished.errors⟩
    [.message .log ("Document saved: " ++ document.text),
      .message .log ("Publishing " ++ Text.Decimal.text shown.length ++ " diagnostics for " ++
        document.text),
      .publish document shown]

/-- **What is sent for a saved file** follows from what comes of one start. -/
theorem Server.value_saved_eq_sentFor {document : Url} {file : Path}
    (hfile : document.filePath? = some file) (h : Host) (s : Server) :
    (s.handle h (.saved document)).value =
      (s, sentFor document file s.settings.compiler
        (h.start (Compiler.invocation s.settings file (s.includesOf h file).toList))) := by
  rw [value_saved hfile, value_diagnose]
  cases hstart : h.start (Compiler.invocation s.settings file (s.includesOf h file).toList) with
  | error cause =>
      rw [Checker.value_extract_of_error (Host.value_check_checker_of_error hstart),
        value_report_error, sentFor]
  | ok finished =>
      obtain ⟨found, hfound, hshown⟩ := exists_extract_forFile (Host.value_check_checker hstart)
      rw [hfound, value_report_ok, hshown, sentFor]

/-- What is published for a saved file is `shownFor` of the compiler's output. -/
theorem Server.published_saved {h : Host} {s : Server} {document : Url} {file : Path}
    {finished : Finished} (hfile : document.filePath? = some file)
    (hstart : h.start (Compiler.invocation s.settings file (s.includesOf h file).toList) =
      .ok finished) :
    published (s.handle h (.saved document)).value.2 =
      [(document, shownFor file
        ⟨finished.status.isSuccess, Text.Utf8.decodeLossy finished.errors⟩)] := by
  rw [value_saved_eq_sentFor hfile, hstart]
  rfl

/-! ## what is published depends on -/

/-- **What is published for a file is the merge of its own diagnostics**, and
nothing if the compiler accepted it.  So two checks of a file publish the same
if both fail and their outputs hold the same diagnostics for the file in the
same order, or if both succeed: whatever the installation is, whatever else the
outputs hold, and wherever it stands there.  A saved document is published with
just these diagnostics. -/
theorem published_eq_shownFor (file : Path) :
    (∀ (c : Checker) (includes : PathSet) (output : Output),
      (c.check file includes.toList).value = .ok output →
      ∃ found, (c.extract file includes).value = .ok found ∧
        forFile found file = shownFor file output) ∧
    (∀ (c c' : Checker) (includes includes' : PathSet) (output output' : Output)
      (found found' : List Diagnostic),
      (c.check file includes.toList).value = .ok output →
      (c'.check file includes'.toList).value = .ok output' →
      output.success = output'.success →
      (output.success = false →
        ((parseOutput output.text).filter fun d => decide (d.file.Same file)) =
          (parseOutput output'.text).filter fun d => decide (d.file.Same file)) →
      (c.extract file includes).value = .ok found →
      (c'.extract file includes').value = .ok found' →
      forFile found file = forFile found' file) ∧
    ∀ (h : Host) (s : Server) (document : Url) (finished : Finished),
      document.filePath? = some file →
      h.start (Compiler.invocation s.settings file (s.includesOf h file).toList) = .ok finished →
      published (s.handle h (.saved document)).value.2 =
        [(document, shownFor file
          ⟨finished.status.isSuccess, Text.Utf8.decodeLossy finished.errors⟩)] := by
  refine ⟨fun c includes output hrun => exists_extract_forFile hrun, ?_,
    fun h s document finished hfile hstart => Server.published_saved hfile hstart⟩
  intro c c' includes includes' output output' found found' hrun hrun' hsuccess hsame hfound hfound'
  obtain ⟨_, hextract, hshown⟩ := exists_extract_forFile hrun
  obtain ⟨_, hextract', hshown'⟩ := exists_extract_forFile hrun'
  have hleft : forFile found file = shownFor file output := by
    rw [← hshown, Except.ok.inj (hfound.symm.trans hextract)]
  have hright : forFile found' file = shownFor file output' := by
    rw [← hshown', Except.ok.inj (hfound'.symm.trans hextract')]
  rw [hleft, hright, shownFor, shownFor, ← hsuccess]
  by_cases haccepted : output.success = true
  · rw [if_pos haccepted, if_pos haccepted]
  · rw [if_neg haccepted, if_neg haccepted, hsame (Bool.eq_false_iff.mpr haccepted)]

/-- A file in the installation itself.  It is checked with the installation
known, and without, where other lines stand between its own; and it is
saved. -/
theorem published_eq_shownFor_installed :
    (∃ found found',
      ((Checker.replaying (some ⟨"/o"⟩) ⟨false, "/o/modules/M:1:e:a\n/o/modules/M:1:e:b"⟩).extract
        ⟨"/o/modules/M"⟩ .empty).value = .ok found ∧
      ((Checker.replaying none
        ⟨false, "/o/modules/M:1:e:a\n$CHPL_HOME/x:1:e:\n/o/modules/M:1:e:b\n/y:1:e:"⟩).extract
        ⟨"/o/modules/M"⟩ .empty).value = .ok found' ∧
      forFile found ⟨"/o/modules/M"⟩ = [⟨0, 1, .error, "a b"⟩] ∧
      forFile found ⟨"/o/modules/M"⟩ = forFile found' ⟨"/o/modules/M"⟩) ∧
    published ((Server.ofSettings ⟨"chpl", some ⟨"/o"⟩⟩).handle
        ⟨⟨.directory [], some []⟩, fun _ => .ok ⟨.code 1, Text.Utf8.encode "/o/modules/M:1:e:a"⟩⟩
        (.saved ⟨"file", some "", none, .rooted ["o", "modules", "M"], none, none⟩)).value.2 =
      [(⟨"file", some "", none, .rooted ["o", "modules", "M"], none, none⟩,
        [⟨0, 1, .error, "a"⟩])] := by
  obtain ⟨hshown, hsame, hsaved⟩ := published_eq_shownFor ⟨"/o/modules/M"⟩
  have hrun := Checker.value_check_replaying (some ⟨"/o"⟩)
    ⟨false, "/o/modules/M:1:e:a\n/o/modules/M:1:e:b"⟩ ⟨"/o/modules/M"⟩ PathSet.empty.toList
  have hrun' := Checker.value_check_replaying none
    ⟨false, "/o/modules/M:1:e:a\n$CHPL_HOME/x:1:e:\n/o/modules/M:1:e:b\n/y:1:e:"⟩
    ⟨"/o/modules/M"⟩ PathSet.empty.toList
  obtain ⟨found, hfound, hforFile⟩ := hshown _ _ _ hrun
  obtain ⟨found', hfound', _⟩ := hshown _ _ _ hrun'
  constructor
  · refine ⟨found, found', hfound, hfound', ?_, ?_⟩
    · rw [hforFile]
      decide +kernel
    · exact hsame _ _ _ _ _ _ _ _ hrun hrun' rfl (fun _ => by decide +kernel) hfound hfound'
  · have hfile : Url.filePath? ⟨"file", some "", none, .rooted ["o", "modules", "M"], none, none⟩ =
        some ⟨"/o/modules/M"⟩ := by decide +kernel
    rw [hsaved _ _ _ ⟨.code 1, Text.Utf8.encode "/o/modules/M:1:e:a"⟩ hfile rfl]
    decide +kernel

/-! ## blank messages -/

/-- A diagnostic as the compiler gives it is never shown with a blank message if
it has a kind. -/
theorem isBlankText_message_ofDiagnostic {errors : String} {d : Diagnostic}
    (hparsed : d ∈ parseOutput errors) (hkind : Text.isBlankText d.kind = false) :
    Text.isBlankText (ofDiagnostic d).message = false := by
  rw [ofDiagnostic]
  by_cases hmessage : d.message = ""
  · rw [if_pos hmessage, hkind]
  · rw [if_neg hmessage, Bool.eq_false_iff]
    exact fun hblank => hmessage ((isBlankText_message_iff hparsed).mp hblank)

/-- Merged diagnostics have a blank message exactly if none of them has one. -/
theorem isBlankText_message_foldl_extend_iff {errors : String} {e : Diagnostic}
    {es : List Diagnostic} (hparsed : ∀ x ∈ e :: es, x ∈ parseOutput errors) :
    Text.isBlankText (es.foldl extend e).message = true ↔ ∀ x ∈ e :: es, x.message = "" := by
  have hblank : ∀ x ∈ e :: es, (Text.isBlankText x.message = true ↔ x.message = "") :=
    fun x hx => isBlankText_message_iff (hparsed x hx)
  have hall : Text.isBlankText (es.foldl extend e).message = true ↔
      ∀ x ∈ e :: es, Text.isBlankText x.message = true := by
    rw [message_foldl_extend, isBlankText_intercalate, Bool.and_eq_true, List.all_map,
      List.all_eq_true, List.forall_mem_cons]
    rfl
  rw [hall]
  exact ⟨fun h x hx => (hblank x hx).mp (h x hx), fun h x hx => (hblank x hx).mpr (h x hx)⟩

/-- **When the editor is shown a blank message**, although the diagnostic has a
kind to fall back to: exactly if two diagnostics or more meet at the place, and
none of them has a message.  Their empty messages are joined by spaces, and so
are no longer empty. -/
theorem message_blank_iff {c : Checker} {file : Path} {includes : PathSet} {errors : String}
    (hrun : (c.check file includes.toList).value = .ok ⟨false, errors⟩) :
    ∃ found, (c.extract file includes).value = .ok found ∧
      ∀ d ∈ found, d.file.Same file → ofDiagnostic d ∈ forFile found file ∧
        (Text.isBlankText d.kind = false →
          (Text.isBlankText (ofDiagnostic d).message = true ↔
            2 ≤ ((parseOutput errors).filter fun e => decide (SamePlace d e)).length ∧
              ∀ e ∈ parseOutput errors, SamePlace d e → e.message = "")) := by
  refine ⟨_, Checker.value_extract hrun, ?_⟩
  intro d hmem hfile
  refine ⟨List.mem_map_of_mem (List.mem_filter.mpr ⟨hmem, decide_eq_true hfile⟩), ?_⟩
  intro hkind
  obtain ⟨e, es, hgroup, hd⟩ := exists_group_of_mem_merge hmem
  rw [filter_filter_reports c fun x hx => (of_decide_eq_true hx).2.symm.trans hfile] at hgroup
  have hmembers : ∀ x, x ∈ e :: es ↔ x ∈ parseOutput errors ∧ SamePlace d x := fun x => by
    rw [← hgroup, List.mem_filter, decide_eq_true_iff]
  have hblank := isBlankText_message_foldl_extend_iff fun x hx => ((hmembers x).mp hx).1
  have hempty : (∀ x ∈ e :: es, x.message = "") ↔
      ∀ x ∈ parseOutput errors, SamePlace d x → x.message = "" :=
    ⟨fun h x hx hplace => h x ((hmembers x).mpr ⟨hx, hplace⟩),
      fun h x hx => h x ((hmembers x).mp hx).1 ((hmembers x).mp hx).2⟩
  rw [← hd, hempty] at hblank
  rw [hgroup]
  cases es with
  | nil =>
      have hparsed : d ∈ parseOutput errors := by
        rw [hd, List.foldl_nil]
        exact ((hmembers e).mp List.mem_cons_self).1
      rw [isBlankText_message_ofDiagnostic hparsed hkind, List.length_singleton]
      exact ⟨fun h => absurd h Bool.false_ne_true, fun h => absurd h.1 (by decide)⟩
  | cons e' es =>
      -- The messages are joined by a space at least, so the kind is not shown.
      have hne : d.message ≠ "" := fun h => by
        rw [hd, message_foldl_extend, intercalate_eq_empty_iff] at h
        exact absurd h.2 (List.cons_ne_nil _ _)
      have hmessage : (ofDiagnostic d).message = d.message := if_neg hne
      rw [hmessage, hblank, List.length_cons, List.length_cons]
      exact ⟨fun h => ⟨Nat.le_add_left 2 _, h⟩, fun h => h.2⟩

/-- A function that is named twice at line 3 is shown as a space, and one that
is named once at line 4 by its name. -/
theorem message_blank_iff_twice :
    ∃ found, ((Checker.replaying none ⟨false, "/M:3:In f\n/M:3:In f:\n/M:4:In g:"⟩).extract
        ⟨"/M"⟩ .empty).value = .ok found ∧
      (⟨"In f", ⟨"/M"⟩, 3, " "⟩ : Diagnostic) ∈ found ∧
      Text.isBlankText (ofDiagnostic ⟨"In f", ⟨"/M"⟩, 3, " "⟩).message = true ∧
      (⟨"In g", ⟨"/M"⟩, 4, ""⟩ : Diagnostic) ∈ found ∧
      ¬ Text.isBlankText (ofDiagnostic ⟨"In g", ⟨"/M"⟩, 4, ""⟩).message = true := by
  have hvalue : ((Checker.replaying none ⟨false, "/M:3:In f\n/M:3:In f:\n/M:4:In g:"⟩).extract
      ⟨"/M"⟩ .empty).value = .ok [⟨"In f", ⟨"/M"⟩, 3, " "⟩, ⟨"In g", ⟨"/M"⟩, 4, ""⟩] := rfl
  obtain ⟨found, hfound, hshown⟩ := message_blank_iff
    (Checker.value_check_replaying none ⟨false, "/M:3:In f\n/M:3:In f:\n/M:4:In g:"⟩ ⟨"/M"⟩
      PathSet.empty.toList)
  have hlist := Except.ok.inj (hfound.symm.trans hvalue)
  rw [hlist] at hfound hshown
  refine ⟨_, hfound, List.mem_cons_self, ?_, List.mem_cons_of_mem _ List.mem_cons_self, ?_⟩
  · rw [(hshown _ List.mem_cons_self rfl).2 (by decide +kernel)]
    decide +kernel
  · rw [(hshown _ (List.mem_cons_of_mem _ List.mem_cons_self) rfl).2 (by decide +kernel)]
    decide +kernel

/-- A diagnostic with a kind can be shown with a blank message. -/
theorem not_forall_message_shown :
    ¬ ∀ (c : Checker) (file : Path) (includes : PathSet) (errors : String)
        (found : List Diagnostic),
      (c.check file includes.toList).value = .ok ⟨false, errors⟩ →
      (c.extract file includes).value = .ok found →
      ∀ d ∈ found, d.file.Same file → Text.isBlankText d.kind = false →
        Text.isBlankText (ofDiagnostic d).message = false := by
  intro h
  have hshown := h (.replaying none ⟨false, "/M:3:In f\n/M:3:In f:"⟩) ⟨"/M"⟩ .empty _ _ rfl rfl
    ⟨"In f", ⟨"/M"⟩, 3, " "⟩ List.mem_cons_self rfl (by decide +kernel)
  exact absurd hshown (by decide +kernel)

end ChapelCheck
