import Mathlib.Data.List.Perm.Subperm
import ChapelCheck.Proofs.Shown

/-!
# ChapelCheck.Proofs.Ranges

The lines that an editor marks for a saved file.

The compiler counts lines from 1 and an editor from 0, both in 32 bits.  A line 0
of the compiler is shown on the first line and so meets line 1 there; no other two
lines meet:

* `toNat_lineOf`, `toNat_lineOf_add_one` — the line before a line, and the line
  itself, in words that do not wrap around;
* `range_ofDiagnostic_eq_iff` — which lines are shown as one range;
* `countP_range_le` — how often a range is shown, if all lines are different;
* `marksLines_forFile` — the diagnostics of a check are so, since no two of them
  are at one place and those of a file differ in nothing but the line.
-/

namespace ChapelCheck

namespace Editor.Diagnostic

/-! ## lines of the compiler and of the editor -/

theorem toNat_lineOf (n : UInt32) : (lineOf n).toNat = n.toNat - 1 := by
  rw [lineOf]
  by_cases hn : n = 0
  · rw [if_pos hn, hn]
    rfl
  · have hpos : n.toNat ≠ 0 := fun h => hn (UInt32.toNat_inj.mp h)
    have hle : 1 ≤ n := UInt32.le_iff_toNat_le.mpr (Nat.one_le_iff_ne_zero.mpr hpos)
    rw [if_neg hn, UInt32.toNat_sub_of_le n 1 hle, UInt32.toNat_one]

/-- There is always a line after a line of the editor. -/
theorem toNat_lineOf_add_one (n : UInt32) : (lineOf n + 1).toNat = n.toNat - 1 + 1 := by
  have hlt : n.toNat < 2 ^ 32 := n.toNat_lt
  rw [UInt32.toNat_add, toNat_lineOf, UInt32.toNat_one, Nat.mod_eq_of_lt (by omega)]

/-- Only the first line of the editor is that of two lines. -/
theorem lineOf_eq_iff {m n : UInt32} :
    lineOf m = lineOf n ↔ m = n ∨ (m = 0 ∧ n = 1) ∨ (m = 1 ∧ n = 0) := by
  simp only [← UInt32.toNat_inj, toNat_lineOf, UInt32.toNat_zero, UInt32.toNat_one]
  omega

/-! ## ranges -/

/-- The lines at whose starts the range of a diagnostic begins and ends. -/
def range (d : Diagnostic) : UInt32 × UInt32 := (d.startLine, d.endLine)

/-- The range of a whole line, in the form that editors read. -/
def wholeLine (line : Nat) : Json :=
  .object [
    ("end", .object [("character", .ofNat 0), ("line", .ofNat (line + 1))]),
    ("start", .object [("character", .ofNat 0), ("line", .ofNat line)])]

/-- What the editor reads is the range of one whole line. -/
theorem get?_range_toJson (d : ChapelCheck.Diagnostic) :
    (ofDiagnostic d).toJson.get? "range" = some (wholeLine (d.line.toNat - 1)) := by
  have hrange : ∀ e : Diagnostic, e.toJson.get? "range" =
      some (.object [("end", position e.endLine), ("start", position e.startLine)]) :=
    fun _ => rfl
  rw [hrange, ofDiagnostic, position, position, toNat_lineOf_add_one, toNat_lineOf, wholeLine]

theorem range_ofDiagnostic_eq_iff {d e : ChapelCheck.Diagnostic} :
    range (ofDiagnostic d) = range (ofDiagnostic e) ↔
      d.line = e.line ∨ (d.line = 0 ∧ e.line = 1) ∨ (d.line = 1 ∧ e.line = 0) := by
  rw [← lineOf_eq_iff]
  constructor
  · exact fun h => (Prod.mk.inj h).1
  · intro h
    rw [range, range, ofDiagnostic, ofDiagnostic, h]

/-- The lines whose range is `r`. -/
def linesOf (r : UInt32 × UInt32) : List UInt32 := if r = (0, 1) then [0, 1] else [r.2]

theorem line_mem_linesOf (d : ChapelCheck.Diagnostic) :
    d.line ∈ linesOf (range (ofDiagnostic d)) := by
  rw [linesOf]
  by_cases hline : d.line = 0
  · have hfirst : range (ofDiagnostic d) = (0, 1) := by
      rw [range, ofDiagnostic, hline]
      rfl
    rw [if_pos hfirst, hline]
    exact List.mem_cons_self
  · -- the range ends where the line after it starts, which the compiler counts as the line
    have hend : (range (ofDiagnostic d)).2 = d.line := by
      have hpos : d.line.toNat ≠ 0 := fun h => hline (UInt32.toNat_inj.mp h)
      rw [← UInt32.toNat_inj, range, ofDiagnostic, toNat_lineOf_add_one]
      omega
    by_cases hfirst : range (ofDiagnostic d) = (0, 1)
    · rw [if_pos hfirst, ← hend, hfirst]
      exact List.mem_cons_of_mem 0 List.mem_cons_self
    · rw [if_neg hfirst, hend]
      exact List.mem_cons_self

/-- Diagnostics at different lines are shown once in each range, and twice at most
in that of the first line. -/
theorem countP_range_le {records : List ChapelCheck.Diagnostic}
    (h : (records.map ChapelCheck.Diagnostic.line).Nodup) (r : UInt32 × UInt32) :
    (records.map ofDiagnostic).countP (fun e => range e = r) ≤ (linesOf r).length := by
  rw [List.countP_map, List.countP_eq_length_filter]
  generalize hmet : records.filter ((fun e => decide (range e = r)) ∘ ofDiagnostic) = met
  have hsublist : met.Sublist records := hmet ▸ List.filter_sublist
  have hnodup : (met.map ChapelCheck.Diagnostic.line).Nodup := (hsublist.map _).nodup h
  have hsub : met.map ChapelCheck.Diagnostic.line ⊆ linesOf r := by
    intro line hline
    obtain ⟨d, hd, rfl⟩ := List.mem_map.mp hline
    rw [← hmet, List.mem_filter] at hd
    have hr : range (ofDiagnostic d) = r := of_decide_eq_true hd.2
    exact hr ▸ line_mem_linesOf d
  have hlength := (hnodup.subperm hsub).length_le
  rwa [List.length_map] at hlength

/-! ## the diagnostics of a file -/

/-- `MarksLines file records shown`: what is shown of the records about a file marks
their lines. -/
structure MarksLines (file : Path) (records : List ChapelCheck.Diagnostic)
    (shown : List Diagnostic) : Prop where
  /-- Each record is shown as one entry. -/
  entries : shown = records.map ofDiagnostic
  /-- All of them are about the file. -/
  about : ∀ d ∈ records, d.file.Same file
  /-- An entry starts at the line of its record, counted from 0; line 0 counts as the
  first. -/
  starts : ∀ d ∈ records, (ofDiagnostic d).startLine.toNat =
    if d.line = 0 then 0 else d.line.toNat - 1
  /-- It ends at the next line, which is still a number of 32 bits. -/
  ends : ∀ d ∈ records, (ofDiagnostic d).endLine.toNat = (ofDiagnostic d).startLine.toNat + 1
  /-- The editor reads both as the starts of these lines. -/
  covers : ∀ d ∈ records, (ofDiagnostic d).toJson.get? "range" =
    some (wholeLine (ofDiagnostic d).startLine.toNat)
  /-- Two entries have one range only if one is at line 0 and the other at line 1. -/
  shared : records.Pairwise fun d e => range (ofDiagnostic d) = range (ofDiagnostic e) →
    (d.line = 0 ∧ e.line = 1) ∨ (d.line = 1 ∧ e.line = 0)
  /-- So every range but the first occurs once at most, -/
  once : ∀ r, r ≠ (0, 1) → shown.countP (fun e => range e = r) ≤ 1
  /-- and the first one twice. -/
  twice : shown.countP (fun e => range e = (0, 1)) ≤ 2

/-- Diagnostics at different places of one file are at different lines. -/
theorem pairwise_line_ne {file : Path} {records : List ChapelCheck.Diagnostic}
    (habout : ∀ d ∈ records, d.file.Same file)
    (h : records.Pairwise fun d e => ¬ d.SamePlace e) :
    records.Pairwise fun d e => d.line ≠ e.line :=
  h.imp_of_mem fun hd he hplace hline =>
    hplace ⟨hline, (habout _ hd).trans (habout _ he).symm⟩

/-- Diagnostics at different places are shown for a file at their lines. -/
theorem marksLines_forFile (file : Path) {found : List ChapelCheck.Diagnostic}
    (h : found.Pairwise fun d e => ¬ d.SamePlace e) :
    MarksLines file (found.filter fun d => decide (d.file.Same file)) (forFile found file) := by
  have habout : ∀ d ∈ found.filter fun d => decide (d.file.Same file), d.file.Same file :=
    fun d hd => of_decide_eq_true (List.mem_filter.mp hd).2
  have hlines := pairwise_line_ne habout (h.sublist List.filter_sublist)
  have hcount := countP_range_le (List.pairwise_map.mpr hlines)
  exact {
    entries := rfl
    about := habout
    starts := fun d _ => by
      have hstart : (ofDiagnostic d).startLine.toNat = d.line.toNat - 1 := toNat_lineOf d.line
      rw [hstart]
      split
      · next hline => rw [hline]; rfl
      · rfl
    ends := fun d _ => by
      rw [ofDiagnostic, toNat_lineOf_add_one, toNat_lineOf]
    covers := fun d _ => by
      rw [get?_range_toJson, ofDiagnostic, toNat_lineOf]
    shared := hlines.imp fun hne hrange => (range_ofDiagnostic_eq_iff.mp hrange).resolve_left hne
    once := fun r hr => by
      have hle := hcount r
      rwa [linesOf, if_neg hr] at hle
    twice := hcount (0, 1) }

end Editor.Diagnostic

open Diagnostic Editor.Diagnostic

/-- A check whose compiler could be started gives diagnostics at different places. -/
theorem Checker.exists_extract_pairwise {c : Checker} {file : Path} {includes : PathSet}
    {output : Output} (h : (c.check file includes.toList).value = .ok output) :
    ∃ found, (c.extract file includes).value = .ok found ∧
      found.Pairwise fun d e => ¬ SamePlace d e := by
  refine ⟨_, value_extract h, ?_⟩
  split
  · exact List.Pairwise.nil
  · exact pairwise_merge _

/-- **What is published for a file marks the lines of its diagnostics.**  Whatever
the compiler prints, each published entry stands for one merged diagnostic about
the file and covers the whole of its line, which the editor counts from 0; line 0
is shown as the first line, and the last line there is has one after it.  Two
entries have the same range only if they stand for line 0 and line 1, so every
range is there once, and that of the first line twice at most. -/
theorem published_ranges_mark_lines (file : Path) :
    (∀ (c : Checker) (includes : PathSet) (output : Output),
      (c.check file includes.toList).value = .ok output →
      ∃ found, (c.extract file includes).value = .ok found ∧
        MarksLines file (found.filter fun d => decide (d.file.Same file)) (forFile found file)) ∧
    ∀ (h : Host) (s : Server) (document : Url) (finished : Finished),
      document.filePath? = some file →
      h.start (Compiler.invocation s.settings file (s.includesOf h file).toList) = .ok finished →
      ∃ found shown, (Server.diagnose h s file).value = .ok found ∧
        published (s.handle h (.saved document)).value.2 = [(document, shown)] ∧
        MarksLines file (found.filter fun d => decide (d.file.Same file)) shown := by
  constructor
  · intro c includes output hrun
    obtain ⟨found, hfound, hplaces⟩ := Checker.exists_extract_pairwise hrun
    exact ⟨found, hfound, marksLines_forFile file hplaces⟩
  · intro h s document finished hfile hstart
    obtain ⟨found, hfound, hplaces⟩ :=
      Checker.exists_extract_pairwise (Host.value_check_checker hstart)
    have hdiagnose : (Server.diagnose h s file).value = .ok found := by
      rw [Server.value_diagnose, hfound]
    exact ⟨found, forFile found file, hdiagnose,
      Server.published_saved_of_diagnose hfile hdiagnose, marksLines_forFile file hplaces⟩

/-- The lines 0 and 1 share a range, and the last line of 32 bits has one to itself. -/
theorem published_ranges_mark_lines_clamped :
    (∃ found, ((Checker.replaying none
          ⟨false, "/M:0:e:a\n/M:1:e:b\n/M:4294967295:w:c"⟩).extract ⟨"/M"⟩ .empty).value = .ok found ∧
      MarksLines ⟨"/M"⟩ (found.filter fun d => decide (d.file.Same ⟨"/M"⟩))
        (forFile found ⟨"/M"⟩) ∧
      (forFile found ⟨"/M"⟩).map range = [(0, 1), (0, 1), (4294967294, 4294967295)]) ∧
    ∃ (found : List Diagnostic) (shown : List Editor.Diagnostic),
      published ((Server.ofSettings .default).handle
        (.answering (.ok ⟨.code 1, Text.Utf8.encode "/M:0:e:a\n/M:1:e:b"⟩))
        (.saved documentM)).value.2 = [(documentM, shown)] ∧
      MarksLines ⟨"/M"⟩ (found.filter fun d => decide (d.file.Same ⟨"/M"⟩)) shown ∧
      shown.countP (fun e => range e = (0, 1)) = 2 := by
  obtain ⟨hchecked, hsaved⟩ := published_ranges_mark_lines ⟨"/M"⟩
  constructor
  · obtain ⟨found, hfound, hmarks⟩ := hchecked _ _ _ (Checker.value_check_replaying none
      ⟨false, "/M:0:e:a\n/M:1:e:b\n/M:4294967295:w:c"⟩ ⟨"/M"⟩ PathSet.empty.toList)
    refine ⟨found, hfound, hmarks, ?_⟩
    have hvalue : ((Checker.replaying none
        ⟨false, "/M:0:e:a\n/M:1:e:b\n/M:4294967295:w:c"⟩).extract ⟨"/M"⟩ .empty).value =
        .ok [⟨"e", ⟨"/M"⟩, 0, "a"⟩, ⟨"e", ⟨"/M"⟩, 1, "b"⟩, ⟨"w", ⟨"/M"⟩, 4294967295, "c"⟩] := rfl
    rw [Except.ok.inj (hfound.symm.trans hvalue)]
    decide +kernel
  · have hfile : documentM.filePath? = some ⟨"/M"⟩ := by decide +kernel
    obtain ⟨found, shown, _, hpublished, hmarks⟩ := hsaved
      (.answering (.ok ⟨.code 1, Text.Utf8.encode "/M:0:e:a\n/M:1:e:b"⟩))
      (.ofSettings .default) documentM _ hfile rfl
    refine ⟨found, shown, hpublished, hmarks, ?_⟩
    have hshown : published ((Server.ofSettings .default).handle
        (.answering (.ok ⟨.code 1, Text.Utf8.encode "/M:0:e:a\n/M:1:e:b"⟩))
        (.saved documentM)).value.2 =
        [(documentM, [⟨0, 1, .error, "a"⟩, ⟨0, 1, .error, "b"⟩])] := by decide +kernel
    obtain ⟨hentries, _⟩ := List.cons.inj (hpublished.symm.trans hshown)
    rw [(Prod.mk.inj hentries).2]
    decide +kernel

end ChapelCheck
