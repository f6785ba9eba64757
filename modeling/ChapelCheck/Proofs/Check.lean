import ChapelCheck.Check
import ChapelCheck.Proofs.Diagnostic.Merge
import ChapelCheck.Proofs.Diagnostic.Output
import ChapelCheck.Proofs.Path

/-!
# ChapelCheck.Proofs.Check

What a check of one file gives, as a function of the compiler's output.

The compiler's own files are left out before the diagnostics are merged.  This
is a selection of places (`placeWise_reports`), although the marker is looked
for in the spelling of a file, so it could as well be made afterwards; and
lines about files that are left out, or about nothing, can stand anywhere in
the output (`extract_eq_filter_merge`).

The order of an output matters at each place by itself:

* `readDiagnostics_linewise` — what is read and logged is read and logged line
  by line;
* `extract_perm_of_places` — outputs that say the same about each place give
  the same diagnostics, in some order.
-/

namespace ChapelCheck

/-- The number of errors in a log. -/
def errorCount (log : List Event) : Nat := log.countP fun e => e.level = .error

namespace Diagnostic

open Text

/-! ## what is read and logged -/

/-- All that stands between the line feeds of an output, line by line. -/
def rawLines (output : String) : List String := (output.toList.splitOn '\n').map String.ofList

/-- Whether a line has fields, but no number where the line number should be. -/
def isUnnumbered (line : String) : Bool :=
  match parse line with
  | .error (.invalidLineNumber _) => true
  | _ => false

theorem value_readDiagnostics (output : String) :
    (readDiagnostics output).value = parseOutput output := rfl

/-- An error is logged for each verdict that is one. -/
theorem errorCount_readDiagnostics (output : String) :
    errorCount (readDiagnostics output).log = (verdicts output).countP fun v => !v.isOk := by
  rw [readDiagnostics, Logged.log_bind, Logged.log_tellAll, Logged.log_pure, List.append_nil,
    errorCount, List.countP_filterMap, verdicts, List.countP_map]
  congr 1
  funext r
  cases r <;> rfl

/-- The diagnostics of an output are those that its lines stand for. -/
theorem parseOutput_eq_rawLines (output : String) :
    parseOutput output = (rawLines output).filterMap fun line => (parse line).toOption := by
  have hline : ∀ line, (parse (String.ofList line)).toOption = ofLine? line := fun line => by
    rw [parse, String.toList_ofList, ofLine?]
  rw [parseOutput_eq_pieces, rawLines, List.filterMap_map, pieces_eq_splitOn]
  simp only [Function.comp_def, hline]

/-- The verdicts that are errors are those on unnumbered lines. -/
theorem countP_verdicts (output : String) :
    (verdicts output).countP (fun v => !v.isOk) = (rawLines output).countP isUnnumbered := by
  rw [verdicts_eq_pieces, List.countP_filterMap, rawLines, List.countP_map, pieces_eq_splitOn]
  congr 1
  funext line
  rw [Function.comp_apply, isUnnumbered, verdict?, parse, String.toList_ofList]
  cases parseChars line with
  | ok d => rfl
  | error e => cases e <;> rfl

/-- **Outputs are read line by line.**  The diagnostics of two outputs with a
line feed between them are those of the first and then those of the second, and
as many errors are logged as for both.  That is so since each line is read by
itself: although the output is trimmed as a whole before it is split, its
diagnostics are those that its untrimmed lines stand for, and an error is logged
for each line without a line number.  It does not matter whether lines end in a
carriage return. -/
theorem readDiagnostics_linewise :
    (∀ a b : String,
      (readDiagnostics (a ++ "\n" ++ b)).value =
          (readDiagnostics a).value ++ (readDiagnostics b).value ∧
        errorCount (readDiagnostics (a ++ "\n" ++ b)).log =
          errorCount (readDiagnostics a).log + errorCount (readDiagnostics b).log) ∧
    (∀ output : String,
      (readDiagnostics output).value =
          (rawLines output).filterMap (fun line => (parse line).toOption) ∧
        errorCount (readDiagnostics output).log = (rawLines output).countP isUnnumbered) ∧
    ∀ output : String,
      (readDiagnostics (String.ofList (withReturns output.toList))).value =
          (readDiagnostics output).value ∧
        errorCount (readDiagnostics (String.ofList (withReturns output.toList))).log =
          errorCount (readDiagnostics output).log := by
  simp only [value_readDiagnostics, errorCount_readDiagnostics]
  refine ⟨fun a b => ⟨?_, ?_⟩, fun output => ⟨?_, ?_⟩, fun output => ⟨?_, ?_⟩⟩
  · simp only [parseOutput_eq_verdicts, verdicts_append, List.filterMap_append]
  · rw [verdicts_append, List.countP_append]
  · exact parseOutput_eq_rawLines output
  · exact countP_verdicts output
  · simp only [parseOutput_eq_verdicts, verdicts_withReturns]
  · rw [verdicts_withReturns]

end Diagnostic

namespace Checker

open Diagnostic

/-! ## what is reported -/

/-- A checker that gives the same output for every file, and whose own files
are those of the compiler at `home`. -/
def replaying (home : Option Path) (output : Output) : Checker where
  check _ _ := return .ok output
  owns := Compiler.owns home

theorem owns_replaying (home : Option Path) (output : Output) :
    (replaying home output).owns = Compiler.owns home := rfl

theorem value_check_replaying (home : Option Path) (output : Output) (target : Path)
    (includes : List Path) :
    ((replaying home output).check target includes).value = .ok output := rfl

/-- A check whose compiler could not be started has no result. -/
theorem value_extract_of_error {c : Checker} {target : Path} {includes : PathSet}
    {cause : StartError} (h : (c.check target includes.toList).value = .error cause) :
    (c.extract target includes).value = .error cause := by
  rw [extract, Logged.value_bind, h]
  rfl

/-- What comes of a check whose compiler could be started. -/
theorem value_extract {c : Checker} {target : Path} {includes : PathSet} {output : Output}
    (h : (c.check target includes.toList).value = .ok output) :
    (c.extract target includes).value =
      .ok (if output.success then [] else
        merge ((parseOutput output.text).filter (c.reports target))) := by
  rw [extract, Logged.value_bind, h]
  obtain ⟨success, text⟩ := output
  cases success with
  | true => rfl
  | false => rfl

/-- What is reported depends on the checker through the files that are its own. -/
theorem reports_congr {c c' : Checker} (howns : c'.owns = c.owns) (target : Path) :
    c'.reports target = c.reports target := by
  funext d
  rw [reports, reports, howns]

/-- What is left out of a check is left out at whole places. -/
theorem placeWise_reports {c : Checker} {home : Option Path} (howns : c.owns = Compiler.owns home)
    (target : Path) : PlaceWise (c.reports target) := by
  intro d e h
  have hmarked : d.isMarked = e.isMarked := isMarked_congr h.2
  have howned : c.owns d.file = c.owns e.file := by
    rw [howns]
    exact Compiler.owns_congr home h.2
  have htarget : decide (d.file.Same target) = decide (e.file.Same target) :=
    placeWise_file target d e h
  rw [reports, reports, hmarked, howned, htarget]

/-- Lines that a check of `target` by the compiler at `home` keeps nothing of:
they are refused, or stand for a diagnostic in another file than the target
that belongs to the installation. -/
def KeepsNothing (home : Option Path) (target : Path) (line : List Char) : Prop :=
  (∃ e, parseChars line = .error e) ∨
    ∃ d, parseChars line = .ok d ∧ ¬ d.file.Same target ∧
      (d.isMarked = true ∨ Compiler.owns home d.file = true)

/-- No check reports what a line stands for that it keeps nothing of. -/
theorem reports_eq_false_of_keepsNothing {c : Checker} {home : Option Path} {target : Path}
    (howns : c.owns = Compiler.owns home) {line : List Char} {d : Diagnostic}
    (hline : KeepsNothing home target line) (hd : parseChars line = .ok d) :
    c.reports target d = false := by
  cases hline with
  | inl hrefused =>
      obtain ⟨e, he⟩ := hrefused
      rw [he] at hd
      contradiction
  | inr hdropped =>
      obtain ⟨d', hd', htarget, hinstalled⟩ := hdropped
      have hsame : d' = d := Except.ok.inj (hd'.symm.trans hd)
      rw [hsame] at htarget hinstalled
      have hleft : (d.isMarked || c.owns d.file) = true := by
        rw [howns]
        exact Bool.or_eq_true_iff.mpr hinstalled
      rw [reports, decide_eq_false htarget, hleft, Bool.not_true, Bool.or_false]

/-- **A check is its merged output, less the installation's files.**  It makes
no difference that these are left out before the diagnostics are merged, and
not after; and lines that nothing is kept of can be put into the output at any
line boundaries without changing the result. -/
theorem extract_eq_filter_merge {c : Checker} {home : Option Path} {target : Path}
    {includes : PathSet} {errors : String} (howns : c.owns = Compiler.owns home)
    (hrun : (c.check target includes.toList).value = .ok ⟨false, errors⟩) :
    (c.extract target includes).value =
        .ok ((merge (parseOutput errors)).filter fun d =>
          decide (d.file.Same target) || !(d.isMarked || Compiler.owns home d.file)) ∧
      ∀ (c' : Checker) (includes' : PathSet) (errors' : String), c'.owns = Compiler.owns home →
        (c'.check target includes'.toList).value = .ok ⟨false, errors'⟩ →
        AddLines (KeepsNothing home target) errors errors' →
        (c'.extract target includes').value = (c.extract target includes).value := by
  constructor
  · have hselection : (fun d : Diagnostic =>
        decide (d.file.Same target) || !(d.isMarked || Compiler.owns home d.file)) =
        c.reports target := by
      funext d
      rw [reports, howns]
    rw [hselection, filter_merge (placeWise_reports howns target), value_extract hrun]
    rfl
  · intro c' includes' errors' howns' hrun' hadd
    have hreports : c'.reports target = c.reports target := by
      funext d
      rw [reports, reports, howns, howns']
    have hkept := filter_parseOutput_of_addLines
      (fun line d hline hd => reports_eq_false_of_keepsNothing howns hline hd) hadd
    rw [value_extract hrun, value_extract hrun', hreports]
    simp only [Bool.false_eq_true, if_false, hkept]

/-- A banner before an output, and in it a line about an installed module:
the one is no diagnostic and the other is left out, as the marked file is. -/
theorem extract_eq_filter_merge_banner :
    AddLines (KeepsNothing (some ⟨"/o"⟩) ⟨"/M"⟩) "/M:1:e:\n$CHPL_HOME/x:2:e:"
        "chpl\n/M:1:e:\n/o//modules/y:1:e:\n$CHPL_HOME/x:2:e:" ∧
      ((replaying (some ⟨"/o"⟩) ⟨false, "/M:1:e:\n$CHPL_HOME/x:2:e:"⟩).extract
          ⟨"/M"⟩ .empty).value = .ok [⟨"e", ⟨"/M"⟩, 1, ""⟩] ∧
      ((replaying (some ⟨"/o"⟩) ⟨false,
          "chpl\n/M:1:e:\n/o//modules/y:1:e:\n$CHPL_HOME/x:2:e:"⟩).extract
          ⟨"/M"⟩ .empty).value = .ok [⟨"e", ⟨"/M"⟩, 1, ""⟩] := by
  have hbanner : KeepsNothing (some ⟨"/o"⟩) ⟨"/M"⟩ "chpl".toList := .inl ⟨_, rfl⟩
  have hmodule : KeepsNothing (some ⟨"/o"⟩) ⟨"/M"⟩ "/o//modules/y:1:e:".toList :=
    .inr ⟨⟨"e", ⟨"/o//modules/y"⟩, 1, ""⟩, rfl, by decide +kernel, by decide +kernel⟩
  have hadd : AddLines (KeepsNothing (some ⟨"/o"⟩) ⟨"/M"⟩) "/M:1:e:\n$CHPL_HOME/x:2:e:"
      "chpl\n/M:1:e:\n/o//modules/y:1:e:\n$CHPL_HOME/x:2:e:" :=
    (Relation.ReflTransGen.single (AddLine.before "/M:1:e:\n$CHPL_HOME/x:2:e:".toList
      (.inl rfl) (by decide +kernel) hbanner)).tail
      (AddLine.before "$CHPL_HOME/x:2:e:".toList
        (.inr ⟨"chpl\n/M:1:e:".toList, rfl⟩) (by decide +kernel) hmodule)
  obtain ⟨hmerged, hsame⟩ := extract_eq_filter_merge
    (owns_replaying (some ⟨"/o"⟩) ⟨false, "/M:1:e:\n$CHPL_HOME/x:2:e:"⟩)
    (value_check_replaying _ _ ⟨"/M"⟩ PathSet.empty.toList)
  have hfound : ((merge (parseOutput "/M:1:e:\n$CHPL_HOME/x:2:e:")).filter fun d =>
      decide (d.file.Same ⟨"/M"⟩) || !(d.isMarked || Compiler.owns (some ⟨"/o"⟩) d.file)) =
      [⟨"e", ⟨"/M"⟩, 1, ""⟩] := by decide +kernel
  rw [hfound] at hmerged
  refine ⟨hadd, hmerged, ?_⟩
  rw [← hmerged]
  exact hsame _ _ _ (owns_replaying _ _) (value_check_replaying _ _ _ _) hadd

/-! ## the order of the output -/

/-- **Interleaving changes the order only.**  Two failing outputs that hold, for
each file and each line, the same diagnostics in the same order give the same
diagnostics, as often, with the same kinds, spellings, lines and messages; only
the order of different places may differ. -/
theorem extract_perm_of_places {c c' : Checker} {target : Path} {includes includes' : PathSet}
    {errors errors' : String} (howns : c'.owns = c.owns)
    (hrun : (c.check target includes.toList).value = .ok ⟨false, errors⟩)
    (hrun' : (c'.check target includes'.toList).value = .ok ⟨false, errors'⟩)
    (hplaces : ∀ (file : Path) (line : UInt32),
      ((parseOutput errors).filter fun d => decide (d.file.Same file ∧ d.line = line)) =
        (parseOutput errors').filter fun d => decide (d.file.Same file ∧ d.line = line)) :
    ∃ found found', (c.extract target includes).value = .ok found ∧
      (c'.extract target includes').value = .ok found' ∧ found.Perm found' := by
  refine ⟨_, _, value_extract hrun, value_extract hrun', ?_⟩
  -- what is left out is left out of both, so a place may be looked at first
  have hswap : ∀ (p : Diagnostic → Bool) (ds : List Diagnostic),
      (ds.filter (c.reports target)).filter p = (ds.filter p).filter (c.reports target) := by
    intro p ds
    simp only [List.filter_filter, Bool.and_comm]
  apply merge_perm
  intro d
  have hplace : (fun x => decide (SamePlace d x)) =
      fun x : Diagnostic => decide (x.file.Same d.file ∧ x.line = d.line) := by
    funext x
    rw [decide_eq_decide]
    exact ⟨fun h => ⟨h.2.symm, h.1.symm⟩, fun h => ⟨h.2.symm, h.1.symm⟩⟩
  rw [reports_congr howns, hswap, hswap, hplace, hplaces]

/-- A note comes right behind its error, or the error comes after a warning about
another file and a banner: the error gets its note either way. -/
theorem extract_perm_of_places_note :
    ∃ found found',
      ((replaying none ⟨false, "/M:1:e:a\n/M:1:n:b\n/N:2:w:c"⟩).extract ⟨"/M"⟩ .empty).value =
        .ok found ∧
      ((replaying none ⟨false, "/N:2:w:c\n/M:1:e:a\nchpl\n/M:1:n:b"⟩).extract
        ⟨"/M"⟩ .empty).value = .ok found' ∧
      found.Perm found' ∧ found = [⟨"e", ⟨"/M"⟩, 1, "a b"⟩, ⟨"w", ⟨"/N"⟩, 2, "c"⟩] := by
  have hread : parseOutput "/M:1:e:a\n/M:1:n:b\n/N:2:w:c" =
      [⟨"e", ⟨"/M"⟩, 1, "a"⟩, ⟨"n", ⟨"/M"⟩, 1, "b"⟩, ⟨"w", ⟨"/N"⟩, 2, "c"⟩] := by decide +kernel
  have hread' : parseOutput "/N:2:w:c\n/M:1:e:a\nchpl\n/M:1:n:b" =
      [⟨"w", ⟨"/N"⟩, 2, "c"⟩, ⟨"e", ⟨"/M"⟩, 1, "a"⟩, ⟨"n", ⟨"/M"⟩, 1, "b"⟩] := by decide +kernel
  have hplaces : ∀ (file : Path) (line : UInt32),
      ((parseOutput "/M:1:e:a\n/M:1:n:b\n/N:2:w:c").filter fun d =>
          decide (d.file.Same file ∧ d.line = line)) =
        (parseOutput "/N:2:w:c\n/M:1:e:a\nchpl\n/M:1:n:b").filter fun d =>
          decide (d.file.Same file ∧ d.line = line) := by
    intro file line
    rw [hread, hread']
    by_cases hline : line = 1
    · simp [List.filter_cons, hline]
    · simp [List.filter_cons, Ne.symm hline]
  have hrun := value_check_replaying none ⟨false, "/M:1:e:a\n/M:1:n:b\n/N:2:w:c"⟩ ⟨"/M"⟩
    PathSet.empty.toList
  have hrun' := value_check_replaying none ⟨false, "/N:2:w:c\n/M:1:e:a\nchpl\n/M:1:n:b"⟩ ⟨"/M"⟩
    PathSet.empty.toList
  have howns : (replaying none ⟨false, "/N:2:w:c\n/M:1:e:a\nchpl\n/M:1:n:b"⟩).owns =
      (replaying none ⟨false, "/M:1:e:a\n/M:1:n:b\n/N:2:w:c"⟩).owns := rfl
  obtain ⟨found, found', hfound, hfound', hperm⟩ := extract_perm_of_places howns hrun hrun' hplaces
  refine ⟨found, found', hfound, hfound', hperm, ?_⟩
  rw [value_extract hrun] at hfound
  rw [← Except.ok.inj hfound]
  decide +kernel

end Checker

end ChapelCheck
