import ChapelCheck.Proofs.Path.Join
import ChapelCheck.Proofs.Settings
import ChapelCheck.Proofs.Workspace

/-!
# ChapelCheck.Proofs.Installation

Which files are the compiler's own.

A file is one of the installation at `home` if it lies in the directory `modules`
there, and also if the compiler spells it with the marker `$CHPL_HOME`.  Both are told
from components:

* `Compiler.owns_some_iff` — the components of the home and the name `modules` start
  those of the file;
* `Diagnostic.isMarked_iff` (of `Proofs.Path`) — the first component is a name that
  starts with the marker.

An empty home would make a directory `modules` beside the project the compiler's own
(`Compiler.owns_modules_iff`).  The environment brings none
(`Settings.home_ofEnvironment_ne`), but an editor may.
-/

namespace ChapelCheck

namespace Compiler

/-! ## files below a home -/

theorem isName_modulesDirectory : Path.IsName modulesDirectory := by decide

/-- **A file is the compiler's own** if the home and its directory of modules lead to
it. -/
theorem owns_some_iff {home file : Path} :
    owns (some home) file = true ↔
      home.components ++ [.name modulesDirectory] <+: file.components := by
  rw [owns, Path.startsWith_iff, Path.components_child isName_modulesDirectory]

/-- All spellings of a home have the same files. -/
theorem owns_congr_home {home home' : Path} (h : home.Same home') (file : Path) :
    owns (some home) file = owns (some home') file := by
  rw [Bool.eq_iff_iff, owns_some_iff, owns_some_iff, h]

end Compiler

/-- **Files of the installation are told by their components.**  A file is the compiler's
own at a home exactly if the components of the home and the name `modules` start its
components, and the compiler marks the file of a diagnostic exactly if it is relative and
its first component is a name that starts with `$CHPL_HOME`.  So neither answer depends
on how the file is spelled, and the first does not depend on how the home is. -/
theorem installed_files_told_by_components (home file : Path) (d : Diagnostic) :
    (Compiler.owns (some home) file = true ↔
      home.components ++ [.name "modules"] <+: file.components) ∧
    (d.isMarked = true ↔ d.file.isAbsolute = false ∧
      ∃ name rest, d.file.components = .name name :: rest ∧ "$CHPL_HOME".toList <+: name.toList) ∧
    (∀ file' : Path, file.Same file' →
      Compiler.owns (some home) file' = Compiler.owns (some home) file) ∧
    (∀ home' : Path, home.Same home' →
      Compiler.owns (some home') file = Compiler.owns (some home) file) ∧
    ∀ e : Diagnostic, d.file.Same e.file → e.isMarked = d.isMarked := by
  refine ⟨Compiler.owns_some_iff, ?_, fun file' h => Compiler.owns_congr _ h.symm,
    fun home' h => Compiler.owns_congr_home h.symm file,
    fun e h => Diagnostic.isMarked_congr h.symm⟩
  rw [Diagnostic.isMarked_iff]
  constructor
  · rintro ⟨name, rest, hcomponents, hname⟩
    have hbare := Path.splitStart_of_components hcomponents
    exact ⟨by rw [Path.isAbsolute, Path.start, hbare]; rfl, name, rest, hcomponents, hname⟩
  · rintro ⟨_, hmarked⟩
    exact hmarked

/-- A module is the compiler's own in all spellings, and a file of a directory whose name
only begins like that of the modules is not.  A dot before the marker makes it a
directory like any other. -/
theorem installed_files_told_by_components_respelled :
    ((⟨"/c/modules/M.chpl"⟩ : Path).Same ⟨"/c//modules/./M.chpl/"⟩ ∧
      (⟨"/c"⟩ : Path).Same ⟨"//c/."⟩ ∧
      Compiler.owns (some ⟨"/c"⟩) ⟨"/c//modules/./M.chpl/"⟩ = true ∧
      Compiler.owns (some ⟨"//c/."⟩) ⟨"/c/modules/M.chpl"⟩ = true ∧
      Compiler.owns (some ⟨"/c"⟩) ⟨"/c/modulesExtra/M.chpl"⟩ = false) ∧
    (⟨"$CHPL_HOME/M.chpl"⟩ : Path).Same ⟨"$CHPL_HOME//M.chpl/"⟩ ∧
      (⟨"error", ⟨"$CHPL_HOME//M.chpl/"⟩, 1, ""⟩ : Diagnostic).isMarked = true ∧
      (⟨"error", ⟨"./$CHPL_HOME/M.chpl"⟩, 1, ""⟩ : Diagnostic).isMarked = false := by
  have hfile : (⟨"/c/modules/M.chpl"⟩ : Path).Same ⟨"/c//modules/./M.chpl/"⟩ := by decide +kernel
  have hhome : (⟨"/c"⟩ : Path).Same ⟨"//c/."⟩ := by decide +kernel
  have hmarked : (⟨"$CHPL_HOME/M.chpl"⟩ : Path).Same ⟨"$CHPL_HOME//M.chpl/"⟩ := by decide +kernel
  obtain ⟨howns, hiff, hspelled, hhomes, hmarks⟩ := installed_files_told_by_components ⟨"/c"⟩
    ⟨"/c/modules/M.chpl"⟩ ⟨"error", ⟨"$CHPL_HOME/M.chpl"⟩, 1, ""⟩
  have hmodule := howns.mpr (by decide +kernel)
  have hmark := hiff.mpr
    ⟨by decide +kernel, "$CHPL_HOME", [.name "M.chpl"], by decide +kernel, List.prefix_rfl⟩
  have hrespelled := hmarks ⟨"error", ⟨"$CHPL_HOME//M.chpl/"⟩, 1, ""⟩ hmarked
  exact ⟨⟨hfile, hhome, (hspelled _ hfile).trans hmodule, (hhomes _ hhome).trans hmodule,
    by decide +kernel⟩, hmarked, hrespelled.trans hmark, by decide +kernel⟩

/-! ## empty homes -/

/-- A relative directory `modules` is the compiler's own only if the home is empty. -/
theorem Compiler.owns_modules_iff {home : Option Path} :
    owns home ⟨"modules"⟩ = true ↔ home = some ⟨""⟩ := by
  rcases home with _ | ⟨⟨text⟩⟩
  · simp [owns]
  · have hmodules : (⟨"modules"⟩ : Path).components = [.name modulesDirectory] := by decide
    rw [owns_some_iff, hmodules, Option.some.injEq, Path.mk.injEq]
    refine Iff.trans ?_ (Path.components_eq_nil_iff (p := ⟨text⟩))
    constructor
    · intro h
      have hlength := h.length_le
      rw [List.length_append, List.length_singleton] at hlength
      exact List.eq_nil_of_length_eq_zero (by omega)
    · intro h
      rw [h]
      exact List.prefix_rfl

/-- The environment brings no empty home. -/
theorem Settings.home_ofEnvironment_ne (compiler home : Option String) :
    (ofEnvironment compiler home).home ≠ some ⟨""⟩ := by
  intro h
  obtain ⟨text, htext, hempty⟩ := Option.map_eq_some_iff.mp h
  have hne := (Option.filter_eq_some_iff.mp htext).2
  rw [Path.mk.injEq] at hempty
  simp [hempty] at hne

namespace Server

open Override

/-- **A home is empty only if an editor says so last.**  Whatever the command line and the
environment bring, after any values that an editor has sent the home is empty exactly if
the last home in an accepted value is, and exactly then a relative directory `modules`
is taken for the compiler's own. -/
theorem home_empty_iff_last_sent (compiler home : Option String) (values : List Json) :
    ((settingsAfter (.ofEnvironment compiler home) values).home = some ⟨""⟩ ↔
      (homesIn values).getLast? = some ⟨""⟩) ∧
    (Compiler.owns (settingsAfter (.ofEnvironment compiler home) values).home ⟨"modules"⟩ = true ↔
      (homesIn values).getLast? = some ⟨""⟩) := by
  have hhome : (settingsAfter (.ofEnvironment compiler home) values).home = some ⟨""⟩ ↔
      (homesIn values).getLast? = some ⟨""⟩ := by
    rw [home_settingsAfter, Option.or_eq_some_iff]
    exact or_iff_left fun h => Settings.home_ofEnvironment_ne compiler home h.2
  exact ⟨hhome, Compiler.owns_modules_iff.trans hhome⟩

/-- An editor can make the home empty. -/
theorem not_forall_home_ne_empty :
    ¬ ∀ (compiler home : Option String) (values : List Json),
      (settingsAfter (.ofEnvironment compiler home) values).home ≠ some ⟨""⟩ := by
  intro h
  exact h none none [.object [("chplHome", .string "")]] (by decide +kernel)

end Server

end ChapelCheck
