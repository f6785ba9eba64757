import Mathlib.Data.List.Induction
import Mathlib.Data.List.Nodup
import ChapelCheck.Proofs.Diagnostic.Merge

/-!
# ChapelCheck.Proofs.Diagnostic.Merged

All there is to know about merged diagnostics.

`IsMergeOf ds ms` says at which places the diagnostics `ms` are, in which order
they stand and what each of them is made of, and nothing about how they are
found.  Merging gives such a list, and there is no other:

* `map_place_absorb_of_mem`, `absorb_of_not_mem` — one more diagnostic makes no
  new place, or stands at the end;
* `pairwise_idxOf_merge` — so places come in the order in which they are first
  seen;
* `isMergeOf_merge`, `IsMergeOf.eq` — the merged diagnostics are determined.
-/

namespace ChapelCheck.Diagnostic

/-! ## places as values -/

/-- The place of a diagnostic: the components of its file, and the line. -/
def place (d : Diagnostic) : List Path.Component × UInt32 := (d.file.components, d.line)

theorem place_eq_iff {d e : Diagnostic} : place d = place e ↔ SamePlace d e := by
  rw [place, place, Prod.mk.injEq, SamePlace, Path.Same, and_comm]

/-- `IsMergeOf ds ms`: the diagnostics `ms` are those of `ds`, one for each place. -/
structure IsMergeOf (ds ms : List Diagnostic) : Prop where
  /-- No two of them are at one place. -/
  apart : (ms.map place).Nodup
  /-- Their places are those of `ds`. -/
  places : ∀ p, p ∈ ms.map place ↔ p ∈ ds.map place
  /-- They stand in the order in which their places first occur in `ds`. -/
  ordered : (ms.map place).Pairwise fun p q => (ds.map place).idxOf p < (ds.map place).idxOf q
  /-- Each has the kind, the line and the spelling of the file of the first
  diagnostic at its place. -/
  first : ∀ m ∈ ms, ∃ d, ds.find? (fun d => place d = place m) = some d ∧
    m.kind = d.kind ∧ m.line = d.line ∧ m.file = d.file
  /-- Its message is all messages at its place in order, with one space between
  each two. -/
  joined : ∀ m ∈ ms, m.message =
    " ".intercalate ((ds.filter fun d => place d = place m).map message)

/-! ## one diagnostic more -/

theorem merge_concat (ds : List Diagnostic) (d : Diagnostic) :
    merge (ds ++ [d]) = absorb d (merge ds) :=
  absorbAll_concat [] ds d

/-- A diagnostic at a place that is there already makes no new one. -/
theorem map_place_absorb_of_mem {d : Diagnostic} {es : List Diagnostic}
    (h : place d ∈ es.map place) : (absorb d es).map place = es.map place := by
  induction es with
  | nil => exact absurd h List.not_mem_nil
  | cons e es ih =>
      rw [absorb]
      by_cases hplace : SamePlace e d
      · rw [if_pos hplace]
        rfl
      · have hne : place d ≠ place e := fun heq => hplace (place_eq_iff.mp heq.symm)
        rw [List.map_cons, List.mem_cons] at h
        rw [if_neg hplace, List.map_cons, List.map_cons, ih (h.resolve_left hne)]

/-- A diagnostic at a new place stands at the end. -/
theorem absorb_of_not_mem {d : Diagnostic} {es : List Diagnostic} (h : place d ∉ es.map place) :
    absorb d es = es ++ [d] := by
  induction es with
  | nil => rfl
  | cons e es ih =>
      rw [List.map_cons, List.mem_cons, not_or] at h
      have hplace : ¬ SamePlace e d := fun hsame => h.1 (place_eq_iff.mpr hsame.symm)
      rw [absorb, if_neg hplace, ih h.2, List.cons_append]

theorem mem_map_place_absorb {d : Diagnostic} {es : List Diagnostic}
    {p : List Path.Component × UInt32} :
    p ∈ (absorb d es).map place ↔ p ∈ es.map place ∨ p = place d := by
  by_cases h : place d ∈ es.map place
  · rw [map_place_absorb_of_mem h]
    exact ⟨.inl, fun hp => hp.elim id fun heq => heq ▸ h⟩
  · rw [absorb_of_not_mem h, List.map_append, List.mem_append, List.map_singleton,
      List.mem_singleton]

/-! ## the places of merged diagnostics -/

/-- The places of merged diagnostics are those that they are merged from. -/
theorem mem_map_place_merge {ds : List Diagnostic} {p : List Path.Component × UInt32} :
    p ∈ (merge ds).map place ↔ p ∈ ds.map place := by
  induction ds using List.reverseRecOn with
  | nil => rfl
  | append_singleton ds d ih =>
      rw [merge_concat, mem_map_place_absorb, ih, List.map_append, List.mem_append,
        List.map_singleton, List.mem_singleton]

/-- Merged diagnostics stand in the order in which their places are first seen. -/
theorem pairwise_idxOf_merge (ds : List Diagnostic) :
    ((merge ds).map place).Pairwise fun p q =>
      (ds.map place).idxOf p < (ds.map place).idxOf q := by
  induction ds using List.reverseRecOn with
  | nil => exact List.Pairwise.nil
  | append_singleton ds d ih =>
      rw [merge_concat, List.map_append, List.map_singleton]
      -- a place that was seen before is found where it was found before
      have hseen : ∀ p ∈ (merge ds).map place,
          (ds.map place ++ [place d]).idxOf p = (ds.map place).idxOf p :=
        fun p hp => List.idxOf_append_of_mem (mem_map_place_merge.mp hp)
      have hkept : ((merge ds).map place).Pairwise fun p q =>
          (ds.map place ++ [place d]).idxOf p < (ds.map place ++ [place d]).idxOf q :=
        ih.imp_of_mem fun {p q} hp hq hlt => by rwa [hseen p hp, hseen q hq]
      by_cases h : place d ∈ (merge ds).map place
      · rw [map_place_absorb_of_mem h]
        exact hkept
      · rw [absorb_of_not_mem h, List.map_append, List.map_singleton, List.pairwise_append]
        refine ⟨hkept, List.pairwise_singleton _ _, fun p hp q hq => ?_⟩
        have hnew : place d ∉ ds.map place := fun hmem => h (mem_map_place_merge.mpr hmem)
        have hlt : (ds.map place).idxOf p < (ds.map place).length :=
          List.idxOf_lt_length_iff.mpr (mem_map_place_merge.mp hp)
        rw [hseen p hp, List.mem_singleton.mp hq, List.idxOf_append_of_notMem hnew]
        omega

/-! ## the one merge -/

/-- The diagnostics at a place are the same in terms of places and of `SamePlace`. -/
theorem filter_place_eq (m : Diagnostic) (ds : List Diagnostic) :
    (ds.filter fun d => decide (place d = place m)) =
      ds.filter fun d => decide (SamePlace m d) := by
  apply List.filter_congr
  intro d _
  rw [decide_eq_decide, place_eq_iff]
  exact ⟨SamePlace.symm, SamePlace.symm⟩

theorem isMergeOf_merge (ds : List Diagnostic) : IsMergeOf ds (merge ds) where
  apart := by
    rw [List.Nodup, List.pairwise_map]
    exact (pairwise_merge ds).imp fun hplace heq => hplace (place_eq_iff.mp heq)
  places _ := mem_map_place_merge
  ordered := pairwise_idxOf_merge ds
  first m hm := by
    obtain ⟨e, es, hgroup, hm⟩ := exists_group_of_mem_merge hm
    refine ⟨e, ?_, ?_⟩
    · rw [← List.head?_filter, filter_place_eq, hgroup, List.head?_cons]
    · rw [hm, foldl_extend_eq]
      exact ⟨rfl, rfl, rfl⟩
  joined m hm := by
    obtain ⟨e, es, hgroup, hm⟩ := exists_group_of_mem_merge hm
    rw [filter_place_eq, hgroup, List.map_cons, ← message_foldl_extend, ← hm]

/-- Of two merges of the same diagnostics, each holds what the other does. -/
theorem IsMergeOf.subset {ds ms ns : List Diagnostic} (h : IsMergeOf ds ms)
    (h' : IsMergeOf ds ns) : ms ⊆ ns := by
  intro m hm
  have hplace : place m ∈ ns.map place :=
    (h'.places _).mpr ((h.places _).mp (List.mem_map_of_mem hm))
  obtain ⟨n, hn, heq⟩ := List.mem_map.mp hplace
  obtain ⟨d, hd, hkind, hline, hfile⟩ := h.first m hm
  obtain ⟨d', hd', hkind', hline', hfile'⟩ := h'.first n hn
  have hmessage := h.joined m hm
  have hmessage' := h'.joined n hn
  rw [heq] at hd' hmessage'
  obtain rfl : d = d' := Option.some.inj (hd.symm.trans hd')
  have hm' : m = ⟨d.kind, d.file, d.line, m.message⟩ := by rw [← hkind, ← hfile, ← hline]
  have hn' : n = ⟨d.kind, d.file, d.line, n.message⟩ := by rw [← hkind', ← hfile', ← hline']
  have hmn : m = n := by rw [hm', hn', hmessage, hmessage']
  exact hmn ▸ hn

/-- There is one merge of some diagnostics at most. -/
theorem IsMergeOf.eq {ds ms ns : List Diagnostic} (h : IsMergeOf ds ms) (h' : IsMergeOf ds ns) :
    ms = ns := by
  have hperm : ms.Perm ns := by
    rw [List.perm_ext_iff_of_nodup (List.Nodup.of_map place h.apart)
      (List.Nodup.of_map place h'.apart)]
    exact fun m => ⟨fun hm => h.subset h' hm, fun hm => h'.subset h hm⟩
  -- the same diagnostics, and both lists increase strictly in their first occurrence
  have hordered := List.pairwise_map.mp h.ordered
  have hordered' := List.pairwise_map.mp h'.ordered
  exact hperm.eq_of_pairwise (fun m n _ _ hlt hgt => absurd hlt (Nat.lt_asymm hgt))
    hordered hordered'

/-- **Merging is one diagnostic per place.**  The merged diagnostics are at
different places, at just the places of those they are merged from, and in the
order in which these places first occur.  Each has the kind, the line and the
spelling of the file of the first diagnostic at its place, and all messages
there, in order and joined by single spaces, also where they are empty.  Nothing
else is so merged. -/
theorem isMergeOf_iff_eq_merge (ds ms : List Diagnostic) : IsMergeOf ds ms ↔ ms = merge ds := by
  constructor
  · intro h
    exact h.eq (isMergeOf_merge ds)
  · rintro rfl
    exact isMergeOf_merge ds

/-- Two files, one in two spellings: the first spelling stays, and the empty
message leaves its space. -/
example : merge [⟨"e", ⟨"/M"⟩, 1, "a"⟩, ⟨"e", ⟨"/N"⟩, 1, "b"⟩, ⟨"n", ⟨"//M"⟩, 1, ""⟩,
      ⟨"n", ⟨"/M/."⟩, 1, "c"⟩] =
    [⟨"e", ⟨"/M"⟩, 1, "a  c"⟩, ⟨"e", ⟨"/N"⟩, 1, "b"⟩] := by
  decide +kernel

end ChapelCheck.Diagnostic
