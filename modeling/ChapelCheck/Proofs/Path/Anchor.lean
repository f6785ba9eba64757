import ChapelCheck.Proofs.Path.Climb

/-!
# ChapelCheck.Proofs.Path.Anchor

Relative paths taken from an absolute directory.

Dots are resolved on the spelling of a path: a name is joined to it, and `..` goes
back to its parent.  What becomes of the components is said by `settleStep`, which
keeps a stack of them, and `Settled p cs` ties the two together: the path is spelled
by names behind the root, without any other character, and the stack holds the root
and these names.

```
           root, w, p            /w/p
..         root, w               /w
.          root, w               /w
M.chpl     root, w, M.chpl       /w/M.chpl
```

* `Settled.step`, `Settled.run` — each component, and so any number of them, keeps the
  path and the stack together;
* `settled_anchor` — a path that is taken from a directory is spelled by the stack that
  the directory's components begin;
* `foldl_components_join` — joined paths are read one after the other.
-/

namespace ChapelCheck.Path

/-! ## components -/

/-- One component more on a stack of them: `.` says nothing, `..` takes back the last
name, but never the root, and anything else is put on top. -/
def settleStep (settled : List Component) : Component → List Component
  | .here => settled
  | .up => if settled = [.root] then settled else settled.dropLast
  | c => settled ++ [c]

/-- Without dots, components are put on the stack one after the other. -/
theorem foldl_settleStep {ds : List Component} (hhere : .here ∉ ds) (hup : .up ∉ ds)
    (cs : List Component) : ds.foldl settleStep cs = cs ++ ds := by
  induction ds generalizing cs with
  | nil => exact (List.append_nil cs).symm
  | cons d ds ih =>
      rw [List.mem_cons, not_or] at hhere hup
      have hstep : settleStep cs d = cs ++ [d] := by
        cases d with
        | root => rfl
        | here => exact absurd rfl hhere.1
        | up => exact absurd rfl hup.1
        | name text => rfl
      rw [List.foldl_cons, hstep, ih hhere.2 hup.2, List.append_assoc, List.singleton_append]

/-- A `.` can be left out where it says nothing. -/
theorem foldl_filter_here {α : Type} {f : α → Component → α} (hf : ∀ a, f a .here = a)
    (cs : List Component) (a : α) : (cs.filter (· ≠ .here)).foldl f a = cs.foldl f a := by
  rw [List.foldl_filter]
  congr 1
  funext a c
  cases c <;> simp [hf]

/-- Joined paths are read one after the other where a `.` says nothing. -/
theorem foldl_components_join {α : Type} {f : α → Component → α} (hf : ∀ a, f a .here = a)
    {p q : Path} (hq : q.isAbsolute = false) (a : α) :
    (p.join q).components.foldl f a = q.components.foldl f (p.components.foldl f a) := by
  by_cases hp : p.text = ""
  · rw [join_of_text_eq_empty hp, components_eq_nil_iff.mpr hp, List.foldl_nil]
  · rw [components_join hq fun h => absurd h hp, List.foldl_append, foldl_filter_here hf]

/-- A component that is a name is one that something can have. -/
theorem isName_of_mem_components {p : Path} {name : String} (h : .name name ∈ p.components) :
    IsName name := by
  rw [components, List.mem_append] at h
  cases h with
  | inl hstart => cases hp : p.start <;> simp [hp, Start.components] at hstart
  | inr hpieces =>
      obtain ⟨piece, hmem, hpiece⟩ := List.mem_filterMap.mp hpieces
      exact isName_of_pieceComponent hpiece (Text.not_mem_of_mem_pieces hmem)

/-! ## a path and its stack -/

/-- The root directory. -/
def top : Path := ⟨"/"⟩

/-- `Settled p cs`: the path `p` is spelled by names behind the root, and `cs` are the
root and these names. -/
def Settled (p : Path) (cs : List Component) : Prop :=
  ∃ names : List String, (∀ name ∈ names, IsName name) ∧ p = top.down names ∧
    cs = .root :: names.map .name

theorem settled_top : Settled top [.root] :=
  ⟨[], fun _ h => absurd h List.not_mem_nil, rfl, rfl⟩

namespace Settled

variable {p q : Path} {cs : List Component}

theorem components_eq (h : Settled p cs) : p.components = cs := by
  obtain ⟨names, hnames, rfl, rfl⟩ := h
  rw [components_down hnames]
  rfl

/-- The stack says how the path is spelled. -/
theorem unique (hp : Settled p cs) (hq : Settled q cs) : p = q := by
  obtain ⟨names, _, rfl, hcs⟩ := hp
  obtain ⟨names', _, rfl, hcs'⟩ := hq
  have hmap := (List.cons.inj (hcs.symm.trans hcs')).2
  rw [(List.map_inj_right fun _ _ => Component.name.inj).mp hmap]

/-- There are no dots in a stack. -/
theorem not_mem (h : Settled p cs) : .here ∉ cs ∧ .up ∉ cs := by
  obtain ⟨names, _, _, rfl⟩ := h
  simp

/-- One component more does the same to the path and to the stack. -/
theorem step (h : Settled p cs) {c : Component} (hroot : c ≠ .root)
    (hname : ∀ name, c = .name name → IsName name) :
    Settled (p.anchorStep c) (settleStep cs c) := by
  obtain ⟨names, hnames, rfl, rfl⟩ := h
  cases c with
  | root => contradiction
  | here => exact ⟨names, hnames, rfl, rfl⟩
  | name name =>
      refine ⟨names ++ [name], ?_, (down_concat top names name).symm, by simp [settleStep]⟩
      rw [List.forall_mem_append]
      exact ⟨hnames, List.forall_mem_singleton.mpr (hname name rfl)⟩
  | up =>
      -- at the root there is no parent, and behind it the last name goes
      rcases List.eq_nil_or_concat names with rfl | ⟨before, last, rfl⟩
      · exact ⟨[], hnames, by decide, rfl⟩
      · rw [List.concat_eq_append] at hnames ⊢
        rw [List.forall_mem_append, List.forall_mem_singleton] at hnames
        have hspelled := head?_lineage_down (p := top) (by decide) hnames.1
        refine ⟨before, hnames.1, ?_, ?_⟩
        · rw [anchorStep, down_concat, parent?_child hnames.2 hspelled, Option.getD_some]
        · rw [List.map_append, List.map_singleton, ← List.cons_append, settleStep,
            if_neg (by simp), List.dropLast_concat]

/-- Any components of relative paths keep a path and its stack together. -/
theorem run (h : Settled p cs) {ds : List Component} (hroot : .root ∉ ds)
    (hname : ∀ name, .name name ∈ ds → IsName name) :
    Settled (ds.foldl anchorStep p) (ds.foldl settleStep cs) := by
  induction ds generalizing p cs with
  | nil => exact h
  | cons d ds ih =>
      have hstep := h.step (c := d) (fun hd => hroot (hd ▸ List.mem_cons_self))
        fun name hd => hname name (hd ▸ List.mem_cons_self)
      exact ih hstep (fun hmem => hroot (List.mem_cons_of_mem d hmem))
        fun name hmem => hname name (List.mem_cons_of_mem d hmem)

end Settled

/-! ## paths taken from a directory -/

/-- One component more keeps a path absolute. -/
theorem isAbsolute_anchorStep {p : Path} (hp : p.isAbsolute = true) (c : Component) :
    (p.anchorStep c).isAbsolute = true := by
  cases c with
  | root => exact isAbsolute_join hp _
  | here => exact hp
  | name text => exact isAbsolute_join hp _
  | up =>
      rw [anchorStep]
      cases hparent : p.parent? with
      | none => exact hp
      | some d => exact isAbsolute_of_mem_ancestors hp (List.mem_of_head? hparent)

/-- A path that is taken from an absolute directory is absolute. -/
theorem isAbsolute_anchor {directory : Path} (h : directory.isAbsolute = true) (target : Path) :
    (target.anchor directory).isAbsolute = true := by
  have hstart : (directory.join target).start = .root :=
    of_decide_eq_true (isAbsolute_join h target)
  -- the fold starts at the root, and no component leads away from there
  rw [anchor, components, hstart, Start.components, List.singleton_append, List.foldl_cons]
  exact List.foldlRecOn (motive := fun p : Path => p.isAbsolute = true) _ _ (by decide)
    fun p hp c _ => isAbsolute_anchorStep hp c

section

variable {directory : Path} (habsolute : directory.isAbsolute = true)
  (hup : .up ∉ directory.components)
include habsolute hup

/-- A directory without `..` leads to its own components. -/
theorem settled_directory :
    Settled (directory.components.foldl anchorStep ⟨""⟩) directory.components := by
  have hstart : directory.start = .root := of_decide_eq_true habsolute
  have hcomponents :
      directory.components = .root :: directory.pieces.filterMap pieceComponent := by
    rw [components, hstart]
    rfl
  have hstack := foldl_settleStep (fun h => (ne_of_mem_filterMap_pieceComponent h).1 rfl)
    (fun h => hup (hcomponents ▸ List.mem_cons_of_mem .root h)) [.root]
  have hrun := settled_top.run (fun h => (ne_of_mem_filterMap_pieceComponent h).2 rfl)
    fun name h =>
      isName_of_mem_components (p := directory) (hcomponents ▸ List.mem_cons_of_mem .root h)
  rw [hstack] at hrun
  rw [hcomponents]
  exact hrun

/-- **A path that is taken from a directory** is spelled by the stack that its components
make of those of the directory. -/
theorem settled_anchor {target : Path} (htarget : target.isAbsolute = false) :
    Settled (target.anchor directory)
      (target.components.foldl settleStep directory.components) := by
  have hroot : .root ∉ target.components := by
    rw [← isAbsolute_iff, htarget]
    exact Bool.false_ne_true
  rw [anchor, foldl_components_join (fun _ => rfl) htarget]
  exact (settled_directory habsolute hup).run hroot fun name => isName_of_mem_components

/-- Without `..`, a path that is taken from a directory means the joined path. -/
theorem same_anchor_join {target : Path} (htarget : target.isAbsolute = false)
    (hdown : .up ∉ target.components) : (target.anchor directory).Same (directory.join target) := by
  have hne := text_ne_empty_of_isAbsolute habsolute
  have hhere : .here ∉ target.components.filter (· ≠ .here) := by simp
  have hdots : .up ∉ target.components.filter (· ≠ .here) :=
    fun h => hdown (List.mem_of_mem_filter h)
  rw [Same, (settled_anchor habsolute hup htarget).components_eq,
    components_join htarget fun h => absurd h hne, ← foldl_filter_here fun _ => rfl,
    foldl_settleStep hhere hdots]

/-- **Paths that are taken one from the other** are spelled like the joined path. -/
theorem anchor_join {t u : Path} (ht : t.isAbsolute = false) (hu : u.isAbsolute = false) :
    (t.join u).anchor directory = u.anchor (t.anchor directory) := by
  have hsettled := settled_anchor habsolute hup ht
  have hjoined := settled_anchor habsolute hup (isAbsolute_join_eq_false ht hu)
  rw [foldl_components_join (fun _ => rfl) hu, ← hsettled.components_eq] at hjoined
  refine hjoined.unique (settled_anchor (isAbsolute_anchor habsolute t) ?_ hu)
  rw [hsettled.components_eq]
  exact hsettled.not_mem.2

end

/-- **Dots are resolved from the left, and steps can be taken together.**  A relative
path that is taken from an absolute directory without `..` (no absolute path has a `.`)
is absolute, and no dots are left in it.  Its components are those of the directory, on
which the components of the path were stacked one by one: names are put on top, `.` says
nothing, and `..` takes back the last name, but never the root.  To take one path and
from there another is to take the two joined, and both are spelled the same. -/
theorem anchor_stacks_components {directory t u : Path} (habsolute : directory.isAbsolute = true)
    (hup : .up ∉ directory.components) (ht : t.isAbsolute = false) (hu : u.isAbsolute = false) :
    (t.anchor directory).isAbsolute = true ∧
      .here ∉ (t.anchor directory).components ∧ .up ∉ (t.anchor directory).components ∧
      (t.anchor directory).components = t.components.foldl settleStep directory.components ∧
      (t.join u).anchor directory = u.anchor (t.anchor directory) := by
  have hsettled := settled_anchor habsolute hup ht
  have hcomponents := hsettled.components_eq
  have hdots := hsettled.not_mem
  rw [← hcomponents] at hdots
  exact ⟨isAbsolute_anchor habsolute t, hdots.1, hdots.2, hcomponents,
    anchor_join habsolute hup ht hu⟩

/-- More `..` than there are names lead to the root, and on from there. -/
theorem anchor_stacks_components_above :
    ((⟨"/w//p/"⟩ : Path).isAbsolute = true ∧ .up ∉ (⟨"/w//p/"⟩ : Path).components ∧
      (⟨"./../../..//a/./"⟩ : Path).isAbsolute = false ∧ (⟨"../b/."⟩ : Path).isAbsolute = false) ∧
    ((⟨"./../../..//a/./"⟩ : Path).anchor ⟨"/w//p/"⟩).components = [.root, .name "a"] ∧
    ((⟨"./../../..//a/./"⟩ : Path).join ⟨"../b/."⟩).anchor ⟨"/w//p/"⟩ = ⟨"/b"⟩ := by
  have habsolute : (⟨"/w//p/"⟩ : Path).isAbsolute = true := by decide +kernel
  have hup : .up ∉ (⟨"/w//p/"⟩ : Path).components := by decide +kernel
  have ht : (⟨"./../../..//a/./"⟩ : Path).isAbsolute = false := by decide +kernel
  have hu : (⟨"../b/."⟩ : Path).isAbsolute = false := by decide +kernel
  obtain ⟨_, _, _, hcomponents, hjoined⟩ := anchor_stacks_components habsolute hup ht hu
  refine ⟨⟨habsolute, hup, ht, hu⟩, ?_, ?_⟩
  · rw [hcomponents]
    decide +kernel
  · rw [hjoined]
    decide +kernel

end ChapelCheck.Path
