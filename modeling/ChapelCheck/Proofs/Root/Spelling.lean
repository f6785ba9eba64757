import ChapelCheck.Proofs.Path.Anchor
import ChapelCheck.Proofs.Root

/-!
# ChapelCheck.Proofs.Root.Spelling

The root of a project does not depend on how a file of it is named.

A relative file is first taken from the working directory and its dots are resolved,
and the directories above an absolute one are cut out of its text as it was given.
Both chains mean the same directories, one by one, and where existence is a matter of
components the search cannot tell them apart:

* `marker_eq_of_same` — two spellings of a directory are the same to the search;
* `rel_value_searchIn` — so are two spellings of a chain of directories;
* `rel_value_search` — and two spellings of a file.
-/

namespace ChapelCheck.Project

theorem isName_of_mem_markerNames : ∀ name ∈ markerNames, Path.IsName name := by decide

section

variable {present : Path → Bool} (hpresent : ∀ p q : Path, p.Same q → present p = present q)
include hpresent

theorem marker_eq_of_same {d e : Path} (h : d.Same e) : marker present d = marker present e := by
  apply marker_congr
  intro name hmem
  have hname := isName_of_mem_markerNames name hmem
  apply hpresent
  rw [Path.Same, Path.components_child hname, Path.components_child hname, h]

/-- **Chains that mean the same directories** lead to roots that mean the same, or none of
them leads to any. -/
theorem rel_value_searchIn {chain chain' : List Path} (h : List.Forall₂ Path.Same chain chain') :
    Option.Rel Path.Same (searchIn present chain).value (searchIn present chain').value := by
  induction h with
  | nil => exact .none
  | @cons d e chain chain' hsame _ ih =>
      rw [searchIn, searchIn, marker_eq_of_same hpresent hsame]
      cases marker present e with
      | root => exact .some hsame
      | boundary => exact .none
      | plain => exact ih

theorem rel_value_search {p q : Path} (h : p.Same q) :
    Option.Rel Path.Same (search present p).value (search present q).value :=
  rel_value_searchIn hpresent h.forall₂_ancestors

end

/-- **A file has one root, by its relative and by its absolute name.**  Where the existence
of a path depends on nothing but its components, a relative file without `..` is looked
for from an absolute working directory without `..`, and the same file is looked for by
the joined path, wherever one works then.  Both searches find directories that mean the
same, or both find none. -/
theorem relative_and_absolute_names_agree {present : Path → Bool}
    (hpresent : ∀ p q : Path, p.Same q → present p = present q) {directory target : Path}
    (habsolute : directory.isAbsolute = true) (hup : .up ∉ directory.components)
    (htarget : target.isAbsolute = false) (hdown : .up ∉ target.components)
    (working : Except SystemError Path) :
    Option.Rel Path.Same (resolveRoot present (.ok directory) target none).value
      (resolveRoot present working (directory.join target) none).value := by
  have hjoined : (directory.join target).isAbsolute = true := Path.isAbsolute_join habsolute target
  have hsame := Path.same_anchor_join habsolute hup htarget hdown
  simp only [resolveRoot, htarget, hjoined, Bool.false_eq_true, if_false, if_true]
  exact rel_value_search hpresent hsame

/-- A package `/w/p` in a repository `/w`, and nothing else. -/
def packagePresent (p : Path) : Bool :=
  [[.root, .name "w", .name ".git"], [.root, .name "w", .name "p", .name "Mason.toml"]].contains
    p.components

/-- The root of a file is spelled in two ways that mean the same; a file that is no more
than the package itself lies in the repository, by both names. -/
theorem relative_and_absolute_names_agree_package :
    ((∀ p q : Path, p.Same q → packagePresent p = packagePresent q) ∧
      (⟨"/w//p"⟩ : Path).isAbsolute = true ∧ .up ∉ (⟨"/w//p"⟩ : Path).components ∧
      ∀ target ∈ ([⟨"./src//./M.chpl/"⟩, ⟨""⟩] : List Path),
        target.isAbsolute = false ∧ .up ∉ target.components ∧
        Option.Rel Path.Same (resolveRoot packagePresent (.ok ⟨"/w//p"⟩) target none).value
          (resolveRoot packagePresent (.error .notFound) (Path.join ⟨"/w//p"⟩ target) none).value) ∧
    (resolveRoot packagePresent (.ok ⟨"/w//p"⟩) ⟨"./src//./M.chpl/"⟩ none).value =
      some ⟨"/w/p"⟩ ∧
    (resolveRoot packagePresent (.error .notFound)
      (Path.join ⟨"/w//p"⟩ ⟨"./src//./M.chpl/"⟩) none).value = some ⟨"/w//p"⟩ ∧
    (resolveRoot packagePresent (.ok ⟨"/w//p"⟩) ⟨""⟩ none).value = none := by
  have hpresent : ∀ p q : Path, p.Same q → packagePresent p = packagePresent q := by
    intro p q h
    rw [packagePresent, packagePresent, h]
  have habsolute : (⟨"/w//p"⟩ : Path).isAbsolute = true := by decide +kernel
  have hup : .up ∉ (⟨"/w//p"⟩ : Path).components := by decide +kernel
  have htargets : ∀ target ∈ ([⟨"./src//./M.chpl/"⟩, ⟨""⟩] : List Path),
      target.isAbsolute = false ∧ .up ∉ target.components := by decide +kernel
  refine ⟨⟨hpresent, habsolute, hup, fun target hmem => ?_⟩, by decide +kernel, by decide +kernel,
    by decide +kernel⟩
  obtain ⟨htarget, hdown⟩ := htargets target hmem
  exact ⟨htarget, hdown,
    relative_and_absolute_names_agree hpresent habsolute hup htarget hdown _⟩

end ChapelCheck.Project
