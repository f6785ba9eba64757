import ChapelCheck.Compiler
import ChapelCheck.Diagnostic
import ChapelCheck.Proofs.Text

/-!
# ChapelCheck.Proofs.Path

Paths that mean the same, and what is told from their spelling.

Whether a file belongs to the compiler's installation is asked in two ways: by
the components of its path, and by the first characters of its spelling.  The
second question, too, has the same answer for all spellings of a path:

* `prefix_text_iff` — the text of a path starts with a word (without
  separators, and not starting with a dot) exactly if its first component is a
  name that starts with it;
* `isMarked_congr`, `owns_congr` — files that mean the same are both of the
  installation, or both are not.
-/

namespace ChapelCheck

open Text

namespace Path

/-! ## the first component of a relative path -/

/-- Only an empty piece and a dot stand for no component. -/
theorem pieceComponent_eq_none_iff {piece : List Char} :
    pieceComponent piece = none ↔ piece = [] ∨ piece = ['.'] := by
  fun_cases pieceComponent piece <;> simp_all

/-- How a text starts that has neither a root nor a dot at its start. -/
theorem components_of_bare {p : Path} (hbare : splitStart p.text.toList = (.bare, p.text.toList))
    (hne : p.text.toList ≠ []) :
    ∃ piece c rest, '/' ∉ piece ∧ (p.text.toList = piece ∨ ∃ r, p.text.toList = piece ++ '/' :: r) ∧
      pieceComponent piece = some c ∧ p.components = c :: rest := by
  generalize hcs : p.text.toList = cs at hbare hne
  have hcomponents : p.components = (Text.pieces '/' cs).filterMap pieceComponent := by
    rw [components, start, pieces, hcs, hbare]
    rfl
  by_cases hslash : '/' ∈ cs
  · obtain ⟨piece, r, hsplit, hpiece⟩ := List.eq_append_cons_of_mem hslash
    -- an empty first piece is a root, and a dot before a separator is a start
    have hsome : pieceComponent piece ≠ none := by
      intro hnone
      cases pieceComponent_eq_none_iff.mp hnone with
      | inl h => rw [hsplit, h] at hbare; simp [splitStart] at hbare
      | inr h => rw [hsplit, h] at hbare; simp [splitStart] at hbare
    obtain ⟨c, hc⟩ := Option.ne_none_iff_exists'.mp hsome
    refine ⟨piece, c, (Text.pieces '/' r).filterMap pieceComponent, hpiece, .inr ⟨r, hsplit⟩, hc,
      ?_⟩
    rw [hcomponents, hsplit, pieces_append_cons, pieces_of_not_mem hpiece, List.singleton_append,
      List.filterMap_cons_some hc]
  · have hsome : pieceComponent cs ≠ none := by
      intro hnone
      cases pieceComponent_eq_none_iff.mp hnone with
      | inl h => exact hne h
      | inr h => rw [h] at hbare; simp [splitStart] at hbare
    obtain ⟨c, hc⟩ := Option.ne_none_iff_exists'.mp hsome
    refine ⟨cs, c, [], hslash, .inl rfl, hc, ?_⟩
    rw [hcomponents, pieces_of_not_mem hslash, List.filterMap_cons_some hc, List.filterMap_nil]

/-- A text has a start that is a component, or it is all pieces. -/
theorem splitStart_cases (cs : List Char) :
    (∃ r, cs = '/' :: r ∧ splitStart cs = (.root, r)) ∨
      (∃ r, cs = '.' :: r ∧ splitStart cs = (.here, r)) ∨ splitStart cs = (.bare, cs) := by
  fun_cases splitStart cs <;> simp_all

/-- Only the empty text has no components. -/
theorem components_eq_nil_iff {p : Path} : p.components = [] ↔ p.text = "" := by
  constructor
  · intro h
    rcases splitStart_cases p.text.toList with ⟨r, _, hr⟩ | ⟨r, _, hr⟩ | hbare
    · simp [components, start, hr, Start.components] at h
    · simp [components, start, hr, Start.components] at h
    · by_cases hne : p.text.toList = []
      · exact String.toList_inj.mp hne
      · obtain ⟨_, _, _, _, _, _, hcons⟩ := components_of_bare hbare hne
        rw [hcons] at h
        contradiction
  · intro h
    rw [components, start, pieces, h]
    rfl

/-- A piece that stands for a name is spelled like it. -/
theorem eq_toList_of_pieceComponent {piece : List Char} {name : String}
    (h : pieceComponent piece = some (.name name)) : piece = name.toList := by
  revert h
  fun_cases pieceComponent piece with
  | case1 => intro h; contradiction
  | case2 => intro h; contradiction
  | case3 => intro h; injection h with h; contradiction
  | case4 =>
      intro h
      injection h with h
      injection h with h
      rw [← h, String.toList_ofList]

/-- A piece that starts with no dot stands for a name. -/
theorem pieceComponent_of_head {c : Char} (hdot : c ≠ '.') (cs : List Char) :
    pieceComponent (c :: cs) = some (.name (String.ofList (c :: cs))) := by
  apply pieceComponent.eq_4
  · exact List.cons_ne_nil c cs
  · exact fun h => hdot (List.cons.inj h).1
  · exact fun h => hdot (List.cons.inj h).1

/-- Words without separators that start a text start its first piece. -/
theorem prefix_piece {w piece r : List Char} (hw : '/' ∉ w) (h : w <+: piece ++ '/' :: r) :
    w <+: piece := by
  cases List.prefix_or_prefix_of_prefix h (List.prefix_append piece ('/' :: r)) with
  | inl hshort => exact hshort
  | inr hlong =>
      obtain ⟨t, ht⟩ := hlong
      cases t with
      | nil =>
          have heq : piece = w := (List.append_nil piece).symm.trans ht
          exact heq ▸ List.prefix_rfl
      | cons x t =>
          rw [← ht, List.prefix_append_right_inj] at h
          have hx : x = '/' := (List.cons_prefix_cons.mp h).1
          rw [← ht, hx] at hw
          exact absurd (by simp) hw

/-- A text that starts with neither a separator nor a dot is all pieces. -/
theorem splitStart_of_head {c : Char} (hslash : c ≠ '/') (hdot : c ≠ '.') (cs : List Char) :
    splitStart (c :: cs) = (.bare, c :: cs) := by
  rcases splitStart_cases (c :: cs) with ⟨r, hr, _⟩ | ⟨r, hr, _⟩ | h
  · exact absurd (List.cons.inj hr).1 hslash
  · exact absurd (List.cons.inj hr).1 hdot
  · exact h

/-- A path whose first component is a name is all pieces. -/
theorem splitStart_of_components {p : Path} {name : String} {rest : List Component}
    (h : p.components = .name name :: rest) :
    splitStart p.text.toList = (.bare, p.text.toList) := by
  rcases splitStart_cases p.text.toList with ⟨r, _, hr⟩ | ⟨r, _, hr⟩ | hbare
  · rw [components, start, hr] at h
    simp [Start.components] at h
  · rw [components, start, hr] at h
    simp [Start.components] at h
  · exact hbare

/-- The first component of a path whose text starts with a word. -/
theorem exists_name_of_prefix_text {c : Char} {cs : List Char} (hslash : '/' ∉ c :: cs)
    (hdot : c ≠ '.') {p : Path} (h : c :: cs <+: p.text.toList) :
    ∃ name rest, p.components = .name name :: rest ∧ c :: cs <+: name.toList := by
  obtain ⟨t, ht⟩ := h
  have hc : c ≠ '/' := fun hc => hslash (hc ▸ List.mem_cons_self)
  have hbare : splitStart p.text.toList = (.bare, p.text.toList) := by
    rw [← ht]
    exact splitStart_of_head hc hdot (cs ++ t)
  have hne : p.text.toList ≠ [] := by
    rw [← ht]
    exact List.cons_ne_nil c (cs ++ t)
  obtain ⟨piece, k, rest, _, hsplit, hk, hcomponents⟩ := components_of_bare hbare hne
  have hpiece : c :: cs <+: piece := by
    cases hsplit with
    | inl hwhole => exact ⟨t, ht.trans hwhole⟩
    | inr hcut =>
        obtain ⟨r, hr⟩ := hcut
        exact prefix_piece hslash ⟨t, ht.trans hr⟩
  obtain ⟨u, hu⟩ := hpiece
  rw [← hu, List.cons_append, pieceComponent_of_head hdot] at hk
  refine ⟨String.ofList (c :: (cs ++ u)), rest, ?_, ?_⟩
  · rw [hcomponents, Option.some.inj hk]
  · rw [String.toList_ofList]
    exact List.prefix_append (c :: cs) u

/-- A path's text starts with its first component, if that is a name. -/
theorem name_prefix_text {p : Path} {name : String} {rest : List Component}
    (h : p.components = .name name :: rest) : name.toList <+: p.text.toList := by
  have hne : p.text.toList ≠ [] := by
    intro hempty
    rw [components, start, pieces, hempty] at h
    contradiction
  obtain ⟨piece, k, rest', _, hsplit, hk, hfirst⟩ :=
    components_of_bare (splitStart_of_components h) hne
  have hkname : k = .name name := (List.cons.inj (hfirst.symm.trans h)).1
  rw [hkname] at hk
  rw [← eq_toList_of_pieceComponent hk]
  cases hsplit with
  | inl hwhole => exact ⟨[], (List.append_nil piece).trans hwhole.symm⟩
  | inr hcut =>
      obtain ⟨r, hr⟩ := hcut
      exact ⟨'/' :: r, hr.symm⟩

/-- **Spelling and components**: the text of a path starts with a word exactly
if the path's first component is a name that starts with it. -/
theorem prefix_text_iff {c : Char} {cs : List Char} (hslash : '/' ∉ c :: cs) (hdot : c ≠ '.')
    (p : Path) :
    c :: cs <+: p.text.toList ↔
      ∃ name rest, p.components = .name name :: rest ∧ c :: cs <+: name.toList := by
  constructor
  · exact exists_name_of_prefix_text hslash hdot
  · rintro ⟨name, rest, hcomponents, hname⟩
    exact hname.trans (name_prefix_text hcomponents)

end Path

/-! ## files of the installation -/

/-- The compiler spells a file relative to its installation exactly if the
file's first component is a name that starts with the marker. -/
theorem Diagnostic.isMarked_iff (d : Diagnostic) :
    d.isMarked = true ↔ ∃ name rest, d.file.components = .name name :: rest ∧
      installationMarker.toList <+: name.toList := by
  rw [isMarked, List.isPrefixOf_iff_prefix]
  exact Path.prefix_text_iff (c := '$') (by decide) (by decide) d.file

/-- The marker says the same about all spellings of a file. -/
theorem Diagnostic.isMarked_congr {d e : Diagnostic} (h : d.file.Same e.file) :
    d.isMarked = e.isMarked := by
  rw [Bool.eq_iff_iff, isMarked_iff, isMarked_iff, h]

/-- All spellings of a file are the compiler's own, or none is. -/
theorem Compiler.owns_congr (home : Option Path) {p q : Path} (h : p.Same q) :
    owns home p = owns home q := by
  cases home with
  | none => rfl
  | some directory => rw [owns, owns, Path.startsWith, Path.startsWith, h]

end ChapelCheck
