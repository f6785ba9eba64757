import ChapelCheck.Path.Set

/-!
# ChapelCheck.Proofs.Path.Set

Paths told apart by what they mean, and ordered sets of them.

A set holds each meaning once, in one of the spellings it was added with.  There
are two ways to add a path, which differ in the spelling that stays; what they
have in common (`Adds`) is all that is needed to know about a set that is made by
adding paths one by one:

* `Adds.mem_foldl` — the spellings are among those that were added;
* `Adds.isAmong_foldl` — the meanings are those that were added.

The paths of a set stand in strictly increasing order, so that a set is determined
by its members (`ext_mem`), and their meanings by the meanings of its members
(`map_components_eq`).
-/

namespace ChapelCheck

namespace Path

/-! ## paths among others -/

/-- `IsAmong p ps`: one of the paths `ps` means the same as `p`. -/
def IsAmong (p : Path) (ps : List Path) : Prop := ∃ q ∈ ps, q.Same p

instance (p : Path) (ps : List Path) : Decidable (p.IsAmong ps) :=
  inferInstanceAs (Decidable (∃ q ∈ ps, q.Same p))

theorem isAmong_nil (p : Path) : ¬ p.IsAmong [] := by
  rintro ⟨q, hq, _⟩
  exact List.not_mem_nil hq

theorem isAmong_cons {p q : Path} {ps : List Path} :
    p.IsAmong (q :: ps) ↔ q.Same p ∨ p.IsAmong ps := by
  simp [IsAmong]

theorem isAmong_append {p : Path} {ps qs : List Path} :
    p.IsAmong (ps ++ qs) ↔ p.IsAmong ps ∨ p.IsAmong qs := by
  simp only [IsAmong, List.mem_append, or_and_right, exists_or]

/-- All spellings of a path are among others, or none is. -/
theorem Same.isAmong_iff {p q : Path} (h : p.Same q) (ps : List Path) :
    p.IsAmong ps ↔ q.IsAmong ps :=
  ⟨fun ⟨r, hr, hsame⟩ => ⟨r, hr, hsame.trans h⟩, fun ⟨r, hr, hsame⟩ => ⟨r, hr, hsame.trans h.symm⟩⟩

theorem isAmong_of_mem {p : Path} {ps : List Path} (h : p ∈ ps) : p.IsAmong ps :=
  ⟨p, h, Same.refl p⟩

theorem isAmong_iff_mem_map {p : Path} {ps : List Path} :
    p.IsAmong ps ↔ p.components ∈ ps.map components := by
  rw [List.mem_map]
  rfl

/-! ## order -/

/-- Components have different places in the order. -/
theorem Component.key_inj {c d : Component} (h : c.key = d.key) : c = d := by
  cases c <;> cases d <;> simp only [key, List.cons.injEq, Nat.reduceEqDiff, false_and,
    reduceCtorEq, true_and, name.injEq] at h ⊢
  rwa [List.map_inj_right fun _ _ => Char.toNat_inj.mp, String.toList_inj] at h

/-- Paths have the same place in the order exactly if they mean the same. -/
theorem key_eq_iff {p q : Path} : p.key = q.key ↔ p.Same q := by
  rw [key, key, List.map_inj_right fun _ _ => Component.key_inj]
  rfl

end Path

namespace PathSet

/-- No two paths of a set mean the same. -/
theorem pairwise_not_same (s : PathSet) : s.toList.Pairwise fun p q => ¬ p.Same q := by
  refine s.increasing.imp fun hlt hsame => ?_
  rw [Path.key_eq_iff.mpr hsame] at hlt
  exact List.lt_irrefl _ hlt

/-! ## one path more -/

theorem isAmong_place {choose : Path → Path → Path}
    (hchoose : ∀ p q, choose p q = p ∨ choose p q = q) {p d : Path} {ps : List Path} :
    d.IsAmong (place choose p ps) ↔ d.IsAmong ps ∨ p.Same d := by
  fun_induction place choose p ps with
  | case1 => simp [Path.isAmong_cons, Path.isAmong_nil]
  | case2 q qs hlt => rw [Path.isAmong_cons, or_comm]
  | case3 q qs hlt heq =>
      -- the old and the new spelling mean the same
      have hsame : p.Same q := Path.key_eq_iff.mp heq
      have hkept : (choose p q).Same d ↔ p.Same d := by
        cases hchoose p q with
        | inl hp => rw [hp]
        | inr hq => rw [hq]; exact ⟨hsame.trans, hsame.symm.trans⟩
      have hold : q.Same d ↔ p.Same d := ⟨hsame.trans, hsame.symm.trans⟩
      rw [Path.isAmong_cons, Path.isAmong_cons, hkept, hold, or_right_comm, or_self, or_comm]
  | case4 q qs hlt hne ih => rw [Path.isAmong_cons, ih, Path.isAmong_cons, or_assoc]

/-- What adding a path does, whichever spelling stays. -/
structure Adds (add : PathSet → Path → PathSet) : Prop where
  mem {s : PathSet} {p x : Path} : x ∈ (add s p).toList → x ∈ s.toList ∨ x = p
  isAmong {s : PathSet} {p d : Path} :
    d.IsAmong (add s p).toList ↔ d.IsAmong s.toList ∨ p.Same d

theorem adds_insert : Adds insert where
  mem h := (mem_of_mem_place (fun _ _ => .inr rfl) h).symm
  isAmong := isAmong_place fun _ _ => .inr rfl

theorem adds_put : Adds put where
  mem h := (mem_of_mem_place (fun _ _ => .inl rfl) h).symm
  isAmong := isAmong_place fun _ _ => .inl rfl

/-! ## any number of paths -/

namespace Adds

variable {add : PathSet → Path → PathSet} (hadd : Adds add) {s : PathSet} {ps : List Path}
include hadd

/-- Only what was added is there. -/
theorem mem_foldl {x : Path} (h : x ∈ (ps.foldl add s).toList) : x ∈ s.toList ∨ x ∈ ps := by
  induction ps generalizing s with
  | nil => exact .inl h
  | cons p ps ih =>
      rcases ih h with hs | hps
      · exact (hadd.mem hs).imp_right fun hx => by rw [hx]; exact List.mem_cons_self
      · exact .inr (List.mem_cons_of_mem p hps)

/-- Everything that was added is there, in one spelling or another. -/
theorem isAmong_foldl {d : Path} :
    d.IsAmong (ps.foldl add s).toList ↔ d.IsAmong s.toList ∨ d.IsAmong ps := by
  induction ps generalizing s with
  | nil => simp [Path.isAmong_nil]
  | cons p ps ih => rw [List.foldl_cons, ih, hadd.isAmong, Path.isAmong_cons, or_assoc]

/-- If no two spellings mean the same, everything that was added is there as it is
spelled. -/
theorem mem_foldl_empty_iff (h : ∀ p ∈ ps, ∀ q ∈ ps, p.Same q → p = q) {x : Path} :
    x ∈ (ps.foldl add empty).toList ↔ x ∈ ps := by
  have hadded : ∀ {y : Path}, y ∈ (ps.foldl add empty).toList → y ∈ ps := fun hy =>
    (hadd.mem_foldl hy).resolve_left List.not_mem_nil
  constructor
  · exact hadded
  · intro hx
    obtain ⟨y, hy, hsame⟩ := (hadd.isAmong_foldl (s := empty)).mpr (.inr (Path.isAmong_of_mem hx))
    rwa [h y (hadded hy) x hx hsame] at hy

end Adds

theorem isAmong_empty (d : Path) : ¬ d.IsAmong empty.toList := Path.isAmong_nil d

/-! ## sets with the same paths -/

/-- A set is determined by its members, also when the paths are looked at through
something that their order can be told from. -/
theorem map_toList_eq {β : Type} (view : Path → β) {key : β → List (List Nat)}
    (hkey : ∀ p, key (view p) = p.key) {s t : PathSet}
    (h : ∀ b, b ∈ s.toList.map view ↔ b ∈ t.toList.map view) :
    s.toList.map view = t.toList.map view := by
  have hlt : ∀ r : PathSet, (r.toList.map view).Pairwise fun a b => key a < key b := by
    intro r
    rw [List.pairwise_map]
    simp only [hkey]
    exact r.increasing
  have hnodup : ∀ r : PathSet, (r.toList.map view).Nodup := by
    intro r
    refine (hlt r).imp fun hab heq => ?_
    rw [heq] at hab
    exact List.lt_irrefl _ hab
  have hperm : (s.toList.map view).Perm (t.toList.map view) :=
    (List.perm_ext_iff_of_nodup (hnodup s) (hnodup t)).mpr h
  exact hperm.eq_of_pairwise (fun a b _ _ hab hba => absurd hab (List.lt_asymm hba)) (hlt s)
    (hlt t)

/-- **Sets that mean the same paths** mean them one by one. -/
theorem map_components_eq {s t : PathSet}
    (h : ∀ d : Path, d.IsAmong s.toList ↔ d.IsAmong t.toList) :
    s.toList.map Path.components = t.toList.map Path.components := by
  refine map_toList_eq Path.components (fun _ => rfl) fun cs => ?_
  constructor
  · intro hcs
    obtain ⟨p, hp, rfl⟩ := List.mem_map.mp hcs
    exact Path.isAmong_iff_mem_map.mp ((h p).mp (Path.isAmong_of_mem hp))
  · intro hcs
    obtain ⟨q, hq, rfl⟩ := List.mem_map.mp hcs
    exact Path.isAmong_iff_mem_map.mp ((h q).mpr (Path.isAmong_of_mem hq))

/-- Sets with the same paths are equal. -/
theorem ext_mem {s t : PathSet} (h : ∀ p, p ∈ s.toList ↔ p ∈ t.toList) : s = t := by
  have hlist : s.toList = t.toList := by
    simpa using map_toList_eq id (fun _ => rfl) (by simpa using h)
  cases s
  cases t
  simpa using hlist

end PathSet

end ChapelCheck
