import ChapelCheck.Path

/-!
# ChapelCheck.Path.Set

Ordered sets of paths.  A set lists its paths in increasing order of their
components and holds each meaning once, in one of the spellings it was added
with: `insert` keeps the spelling that is there already, `put` takes the new
one.  The order is part of a set, so both prove that they keep it
(`increasing_place`).
-/

namespace ChapelCheck

namespace PathSet

/-! ## lists in increasing order -/

/-- `Increasing ps`: each path stands before all that follow it. -/
def Increasing (ps : List Path) : Prop := ps.Pairwise fun p q => p.key < q.key

instance (ps : List Path) : Decidable (Increasing ps) :=
  inferInstanceAs (Decidable (ps.Pairwise fun p q => p.key < q.key))

/-- Puts a path where it belongs in an increasing list.  If the list holds the
path already, `choose new old` says which spelling stays. -/
def place (choose : Path → Path → Path) (p : Path) : List Path → List Path
  | [] => [p]
  | q :: qs =>
    if p.key < q.key then p :: q :: qs
    else if p.key = q.key then choose p q :: qs
    else q :: place choose p qs

section

variable {choose : Path → Path → Path} (hchoose : ∀ p q, choose p q = p ∨ choose p q = q)
include hchoose

theorem mem_of_mem_place {p x : Path} {ps : List Path} (h : x ∈ place choose p ps) :
    x = p ∨ x ∈ ps := by
  fun_induction place choose p ps with
  | case1 => exact .inl (List.mem_singleton.mp h)
  | case2 q qs hlt => exact List.mem_cons.mp h
  | case3 q qs hlt heq =>
      cases List.mem_cons.mp h with
      | inl hx =>
          cases hchoose p q with
          | inl hp => exact .inl (hx.trans hp)
          | inr hq => exact .inr (by rw [hx, hq]; exact List.mem_cons_self)
      | inr hx => exact .inr (List.mem_cons_of_mem q hx)
  | case4 q qs hlt hne ih =>
      cases List.mem_cons.mp h with
      | inl hx => exact .inr (by rw [hx]; exact List.mem_cons_self)
      | inr hx => exact (ih hx).imp_right (List.mem_cons_of_mem q)

/-- A list stays in increasing order, whichever spelling stays. -/
theorem increasing_place {p : Path} {ps : List Path} (h : Increasing ps) :
    Increasing (place choose p ps) := by
  fun_induction place choose p ps with
  | case1 => exact List.pairwise_singleton _ p
  | case2 q qs hlt =>
      refine List.Pairwise.cons (fun x hx => ?_) h
      cases List.mem_cons.mp hx with
      | inl hx => rw [hx]; exact hlt
      | inr hx => exact List.lt_trans hlt (List.rel_of_pairwise_cons h hx)
  | case3 q qs hlt heq =>
      have hkey : (choose p q).key = q.key := by
        cases hchoose p q with
        | inl hp => rw [hp, heq]
        | inr hq => rw [hq]
      refine List.Pairwise.cons (fun x hx => ?_) h.of_cons
      rw [hkey]
      exact List.rel_of_pairwise_cons h hx
  | case4 q qs hlt hne ih =>
      have hgt : q.key < p.key :=
        (List.le_iff_lt_or_eq.mp (List.not_lt.mp hlt)).resolve_right (Ne.symm hne)
      refine List.Pairwise.cons (fun x hx => ?_) (ih h.of_cons)
      cases mem_of_mem_place hchoose hx with
      | inl hx => rw [hx]; exact hgt
      | inr hx => exact List.rel_of_pairwise_cons h hx

end

end PathSet

/-- A set of paths up to `Path.Same`, in increasing order. -/
structure PathSet where
  toList : List Path
  increasing : PathSet.Increasing toList
deriving DecidableEq, Repr

namespace PathSet

/-! ## sets -/

/-- The set without paths. -/
def empty : PathSet := ⟨[], .nil⟩

/-- Adds a path; a spelling that is there already stays. -/
def insert (s : PathSet) (p : Path) : PathSet where
  toList := place (fun _ old => old) p s.toList
  increasing := increasing_place (fun _ _ => .inr rfl) s.increasing

/-- Adds a path in its new spelling. -/
def put (s : PathSet) (p : Path) : PathSet where
  toList := place (fun new _ => new) p s.toList
  increasing := increasing_place (fun _ _ => .inl rfl) s.increasing

/-- The set of some paths, each in the first spelling that occurs. -/
def ofList (ps : List Path) : PathSet := ps.foldl insert empty

/-- The set of some paths, each in the last spelling that occurs. -/
def ofListLatest (ps : List Path) : PathSet := ps.foldl put empty

/-- All paths of two sets; spellings of the first one stay. -/
def union (s t : PathSet) : PathSet := t.toList.foldl insert s

/-- The number of paths. -/
def size (s : PathSet) : Nat := s.toList.length

end PathSet

end ChapelCheck
