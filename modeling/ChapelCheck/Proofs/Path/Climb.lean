import Mathlib.Data.List.Forall2
import ChapelCheck.Proofs.Path.Join

/-!
# ChapelCheck.Proofs.Path.Climb

The directories above a path.

They are cut out of the spelling of the path, so each of them is spelled by the
path's start and some of its first pieces (`SpellsAll`), and what leads to it can
be read off the same pieces:

* `lineage_child` — what leads to an entry of a directory is the entry itself and
  then what leads to the directory;
* `climbs_ancestors` — the directories above a path are its parent, the parent
  of that, and so on, and each has one component less;
* `Same.forall₂_ancestors` — the directories above two spellings of a path mean
  the same, one by one;
* `isAbsolute_of_mem_ancestors`, `getLast?_ancestors` — climbing from an absolute
  path meets absolute paths, and the root at the end;
* `components_down` — going down along names adds them as components.
-/

namespace ChapelCheck.Path

open Text

/-! ## lineages -/

/-- Empty pieces at the end lead nowhere. -/
theorem lineageOf_ends (s : Start) {ends : List (List Char)} (h : ∀ piece ∈ ends, piece = [])
    (before : List (List Char)) : lineageOf s (ends ++ before) = lineageOf s before := by
  induction ends with
  | nil => rfl
  | cons piece ends ih =>
      rw [List.forall_mem_cons] at h
      rw [h.1, List.cons_append, lineageOf]
      exact ih h.2

/-- **What leads to an entry of a directory** is the entry and what leads to the
directory. -/
theorem lineage_child {name : String} (hname : IsName name) (p : Path) :
    (p.child name).lineage = p.child name :: p.lineage := by
  obtain ⟨ps, ends, hpieces, hends, hstart, hchild⟩ := exists_pieces_child hname p
  have hself := ofPieces_self (p.child name)
  have hends' : ∀ piece ∈ ends.reverse, piece = [] := fun piece h =>
    hends piece (List.mem_reverse.mp h)
  rw [lineage, lineage, hpieces, List.reverse_append, lineageOf_ends _ hends', hstart, hchild,
    List.reverse_append, List.reverse_singleton, List.singleton_append, lineageOf,
    pieceComponent_of_isName hname]
  rw [hstart, hchild] at hself
  simp [hself]

/-- A directory is above its entries. -/
theorem parent?_child {name : String} (hname : IsName name) {p : Path}
    (hp : p.lineage.head? = some p) : (p.child name).parent? = some p := by
  rw [parent?, ancestors, lineage_child hname, List.tail_cons, hp]

/-- `SpellsAll s ps`: all first pieces of `ps` are spelled with the start `s`. -/
def SpellsAll (s : Start) (ps : List (List Char)) : Prop := ∀ qs, qs <+: ps → qs ≠ [] → Spells s qs

theorem spellsAll_self (p : Path) : SpellsAll p.start p.pieces := by
  rintro qs ⟨rest, hrest⟩ hne
  have h := spells_self p
  rw [← hrest] at h
  exact h.of_append hne

theorem SpellsAll.of_cons {s : Start} {piece : List Char} {before : List (List Char)}
    (h : SpellsAll s (piece :: before).reverse) : SpellsAll s before.reverse := by
  intro qs hqs
  rw [List.reverse_cons] at h
  exact h qs (hqs.trans (List.prefix_append _ _))

/-- The first path of a lineage leads where its own lineage says, and it has all
the components. -/
theorem lineageOf_eq_cons {s : Start} {before : List (List Char)} {q : Path} {rest : List Path}
    (hs : SpellsAll s before.reverse) (h : lineageOf s before = q :: rest) :
    q.lineage = q :: rest ∧
      q.components = s.components ++ before.reverse.filterMap pieceComponent := by
  induction before with
  | nil =>
      cases s <;> obtain ⟨rfl, rfl⟩ := List.cons.inj h <;> decide
  | cons piece before ih =>
      cases hc : pieceComponent piece with
      | none =>
          simp only [lineageOf, hc] at h
          rw [List.reverse_cons, List.filterMap_append, List.filterMap_cons_none hc,
            List.filterMap_nil, List.append_nil]
          exact ih hs.of_cons h
      | some c =>
          simp only [lineageOf, hc] at h
          obtain ⟨hq, hrest⟩ := List.cons.inj h
          have hspells : Spells s (piece :: before).reverse := hs _ List.prefix_rfl (by simp)
          rw [Spells, hq] at hspells
          refine ⟨?_, ?_⟩
          · rw [lineage, hspells.1, hspells.2, List.reverse_reverse, lineageOf, hc]
            simp only [hq, hrest]
          · rw [components, hspells.1, hspells.2]

/-- The second path of a lineage leads where its own lineage says, and it has one
component less. -/
theorem lineageOf_eq_cons_cons {s : Start} {before : List (List Char)} {q d : Path}
    {rest : List Path} (hs : SpellsAll s before.reverse) (h : lineageOf s before = q :: d :: rest) :
    d.lineage = d :: rest ∧
      ∃ c, s.components ++ before.reverse.filterMap pieceComponent = d.components ++ [c] := by
  induction before with
  | nil =>
      cases s with
      | root => exact absurd (List.cons.inj h).2.symm (List.cons_ne_nil d rest)
      | bare => exact absurd (List.cons.inj h).2.symm (List.cons_ne_nil d rest)
      | here =>
          obtain ⟨rfl, rfl⟩ := List.cons.inj (List.cons.inj h).2
          exact ⟨by decide, .here, by decide⟩
  | cons piece before ih =>
      cases hc : pieceComponent piece with
      | none =>
          simp only [lineageOf, hc] at h
          rw [List.reverse_cons, List.filterMap_append, List.filterMap_cons_none hc,
            List.filterMap_nil, List.append_nil]
          exact ih hs.of_cons h
      | some c =>
          simp only [lineageOf, hc] at h
          obtain ⟨hlineage, hcomponents⟩ := lineageOf_eq_cons hs.of_cons (List.cons.inj h).2
          refine ⟨hlineage, c, ?_⟩
          rw [hcomponents, List.reverse_cons, List.filterMap_append, List.filterMap_cons_some hc,
            List.filterMap_nil, List.append_assoc]

theorem length_lineageOf (s : Start) (before : List (List Char)) :
    (lineageOf s before).length = s.lineage.length + (before.filterMap pieceComponent).length := by
  induction before with
  | nil => rfl
  | cons piece before ih =>
      cases hc : pieceComponent piece with
      | none => simp only [lineageOf, hc, List.filterMap_cons, ih]
      | some c =>
          simp only [lineageOf, hc, List.filterMap_cons, List.length_cons, ih]
          omega

/-- Above a path is one directory for each of its components, less the root. -/
theorem length_ancestors (p : Path) : p.ancestors.length = p.components.countP (· ≠ .root) := by
  have hpieces : (p.pieces.filterMap pieceComponent).countP (· ≠ .root) =
      (p.pieces.filterMap pieceComponent).length := by
    rw [List.countP_eq_length]
    intro c hc
    exact decide_eq_true (ne_of_mem_filterMap_pieceComponent hc).2
  rw [ancestors, List.length_tail, lineage, length_lineageOf, List.filterMap_reverse,
    List.length_reverse, components, List.countP_append, hpieces]
  cases p.start <;> simp [Start.lineage, Start.components]

/-- Nothing is above a path that has no components, or only the root. -/
theorem ancestors_eq_nil_iff {p : Path} : p.ancestors = [] ↔ ∀ c ∈ p.components, c = .root := by
  rw [← List.length_eq_zero_iff, length_ancestors, List.countP_eq_zero]
  simp only [decide_eq_true_eq, Decidable.not_not]

/-- The nearest directory above a path has one component less, and above it are
the others. -/
theorem ancestors_eq_cons {p d : Path} {ds : List Path} (h : p.ancestors = d :: ds) :
    d.ancestors = ds ∧ ∃ c, c ≠ .root ∧ p.components = d.components ++ [c] := by
  have hs : SpellsAll p.start p.pieces.reverse.reverse := by
    rw [List.reverse_reverse]
    exact spellsAll_self p
  cases hp : p.lineage with
  | nil => rw [ancestors, hp] at h; contradiction
  | cons q rest =>
      rw [ancestors, hp, List.tail_cons] at h
      rw [h] at hp
      obtain ⟨hlineage, c, hc⟩ := lineageOf_eq_cons_cons hs hp
      rw [List.reverse_reverse] at hc
      have hrest : d.ancestors = ds := by rw [ancestors, hlineage, List.tail_cons]
      have hcomponents : p.components = d.components ++ [c] := hc
      refine ⟨hrest, c, ?_, hcomponents⟩
      -- the root is no step of a climb, and this one is a step
      rintro rfl
      have hlength : p.ancestors.length = d.ancestors.length := by
        rw [length_ancestors, length_ancestors, hcomponents, List.countP_append]
        rfl
      rw [hrest, ancestors, hp, List.tail_cons, List.length_cons] at hlength
      omega

/-- `Climbs p ds`: the directories `ds` are the parent of `p`, the parent of that,
and so on.  Each is the path below it less the last component, and the climb ends
where no component but the root is left. -/
inductive Climbs : Path → List Path → Prop where
  | top {p : Path} (h : p.parent? = none) (htop : ∀ c ∈ p.components, c = .root) : Climbs p []
  | up {p d : Path} {ds : List Path} {c : Component} (h : p.parent? = some d) (hc : c ≠ .root)
      (hlast : p.components = d.components ++ [c]) (hrest : Climbs d ds) : Climbs p (d :: ds)

/-- **The directories above a path are met by climbing.** -/
theorem climbs_ancestors (p : Path) : Climbs p p.ancestors := by
  generalize h : p.ancestors = ds
  induction ds generalizing p with
  | nil => exact .top (by rw [parent?, h]; rfl) (ancestors_eq_nil_iff.mp h)
  | cons d ds ih =>
      obtain ⟨hrest, c, hc, hlast⟩ := ancestors_eq_cons h
      exact .up (by rw [parent?, h]; rfl) hc hlast (ih d hrest)

/-- A directory above a path is spelled by some of its components. -/
theorem startsWith_of_mem_ancestors {p d : Path} (h : d ∈ p.ancestors) :
    d.components <+: p.components ∧ d.components.length < p.components.length := by
  generalize hds : p.ancestors = ds at h
  induction ds generalizing p with
  | nil => exact absurd h List.not_mem_nil
  | cons e ds ih =>
      obtain ⟨hrest, c, _, hc⟩ := ancestors_eq_cons hds
      have he : e.components <+: p.components ∧ e.components.length < p.components.length := by
        rw [hc]
        exact ⟨List.prefix_append _ _, by simp⟩
      cases List.mem_cons.mp h with
      | inl hd => rw [hd]; exact he
      | inr hd =>
          obtain ⟨hbelow, hlt⟩ := ih hrest hd
          exact ⟨hbelow.trans he.1, Nat.lt_trans hlt he.2⟩

/-! ## other spellings -/

/-- **Above paths that mean the same** are directories that mean the same, one by one. -/
theorem Same.forall₂_ancestors {p q : Path} (h : p.Same q) :
    List.Forall₂ Same p.ancestors q.ancestors := by
  generalize hds : p.ancestors = ds
  induction ds generalizing p q with
  | nil =>
      have hnil : q.ancestors = [] := by
        rw [ancestors_eq_nil_iff, ← h, ← ancestors_eq_nil_iff, hds]
      rw [hnil]
      exact .nil
  | cons d ds ih =>
      obtain ⟨hrest, c, _, hc⟩ := ancestors_eq_cons hds
      cases hes : q.ancestors with
      | nil =>
          rw [ancestors_eq_nil_iff, ← h, ← ancestors_eq_nil_iff, hds] at hes
          contradiction
      | cons e es =>
          obtain ⟨hrest', c', _, hc'⟩ := ancestors_eq_cons hes
          have hlast : d.components ++ [c] = e.components ++ [c'] := by
            rw [← hc, ← hc', h]
          have hsame : d.Same e := List.append_inj_left' hlast rfl
          have habove := ih hsame hrest
          rw [hrest'] at habove
          exact .cons hsame habove

/-! ## absolute paths -/

/-- The directories that lead to an absolute path are absolute, and the last of them
is the root. -/
theorem lineageOf_root (before : List (List Char)) :
    (∀ q ∈ lineageOf .root before, q.isAbsolute = true) ∧
      (lineageOf .root before).getLast? = some ⟨"/"⟩ := by
  induction before with
  | nil => exact ⟨fun q hq => by rw [List.mem_singleton.mp hq]; decide, rfl⟩
  | cons piece before ih =>
      cases hc : pieceComponent piece with
      | none => simpa only [lineageOf, hc] using ih
      | some c =>
          have hself : (ofPieces .root (piece :: before).reverse).isAbsolute = true := by
            rw [isAbsolute, start, ofPieces, String.toList_ofList]
            rfl
          simp only [lineageOf, hc, List.forall_mem_cons]
          refine ⟨⟨hself, ih.1⟩, ?_⟩
          rw [List.getLast?_cons, ih.2]
          rfl

section

variable {p : Path} (hp : p.isAbsolute = true)
include hp

theorem isAbsolute_of_mem_ancestors {d : Path} (h : d ∈ p.ancestors) : d.isAbsolute = true := by
  rw [ancestors, lineage, of_decide_eq_true hp] at h
  exact (lineageOf_root _).1 d (List.mem_of_mem_tail h)

/-- Climbing from an absolute path ends at the root. -/
theorem getLast?_ancestors (hne : p.ancestors ≠ []) : p.ancestors.getLast? = some ⟨"/"⟩ := by
  have hlast := (lineageOf_root p.pieces.reverse).2
  rw [ancestors, lineage, of_decide_eq_true hp] at hne ⊢
  rw [List.getLast?_tail, if_neg, hlast]
  intro hone
  exact hne (List.eq_nil_of_length_eq_zero (by rw [List.length_tail, hone]))

end

/-! ## going down -/

/-- The path that names lead to from a directory. -/
def down (p : Path) (names : List String) : Path := names.foldl child p

theorem down_cons (p : Path) (name : String) (names : List String) :
    p.down (name :: names) = (p.child name).down names := rfl

theorem down_concat (p : Path) (names : List String) (name : String) :
    p.down (names ++ [name]) = (p.down names).child name := by
  rw [down, List.foldl_append, List.foldl_cons, List.foldl_nil, down]

/-- Names are one component each. -/
theorem components_down {names : List String} (h : ∀ name ∈ names, IsName name) (p : Path) :
    (p.down names).components = p.components ++ names.map .name := by
  induction names generalizing p with
  | nil => exact (List.append_nil p.components).symm
  | cons name names ih =>
      rw [List.forall_mem_cons] at h
      rw [down_cons, ih h.2, components_child h.1, List.append_assoc, List.map_cons,
        List.singleton_append]

/-- Different names lead to different paths. -/
theorem eq_of_same_down {p : Path} {names names' : List String} (h : ∀ name ∈ names, IsName name)
    (h' : ∀ name ∈ names', IsName name) (hsame : (p.down names).Same (p.down names')) :
    names = names' := by
  rw [Same, components_down h, components_down h'] at hsame
  have hmap := List.append_cancel_left hsame
  rwa [List.map_inj_right fun _ _ => Component.name.inj] at hmap

theorem isAbsolute_down {p : Path} (hp : p.isAbsolute = true) (names : List String) :
    (p.down names).isAbsolute = true := by
  induction names generalizing p with
  | nil => exact hp
  | cons name names ih => exact ih (isAbsolute_join hp ⟨name⟩)

/-- A path that spells no separators at its end keeps its spelling as a parent. -/
theorem head?_lineage_down {p : Path} (hp : p.lineage.head? = some p) {names : List String}
    (h : ∀ name ∈ names, IsName name) : (p.down names).lineage.head? = some (p.down names) := by
  induction names generalizing p with
  | nil => exact hp
  | cons name names ih =>
      rw [List.forall_mem_cons] at h
      exact ih (by simp [lineage_child h.1]) h.2

end ChapelCheck.Path
