import ChapelCheck.Proofs.Diagnostic.Merged
import ChapelCheck.Proofs.Diagnostic.Output

/-!
# ChapelCheck.Proofs.Diagnostic.Chunks

Merging an output at once, and merging it in chunks.

A chunk that is merged by itself goes into what was merged before as if its
diagnostics came one by one: at a place that both have, the joined messages are
joined again, and the new places stay in their order.  Two laws of one step carry
this,

```
absorb d (absorb e ms) = absorb (extend e d) ms     at one place
absorb d (absorb x ms) = absorb x (absorb d ms)     at two places, one of them known
```

and with them

* `absorbAll_absorb` — adding a diagnostic to a chunk, or after the chunk;
* `absorbAll_merge` — adding a merged chunk, or its diagnostics;
* `merge_append_merge`, `merge_merge_append` — so each side of an append may be
  merged before.
-/

namespace ChapelCheck.Diagnostic

/-! ## two steps -/

/-- Messages may be joined from either side. -/
theorem extend_extend (a b c : Diagnostic) : extend (extend a b) c = extend a (extend b c) := by
  simp only [extend, String.append_assoc]

/-- Two diagnostics at one place may be put together before they are added. -/
theorem absorb_absorb_of_samePlace {e d : Diagnostic} (h : SamePlace e d) (ms : List Diagnostic) :
    absorb d (absorb e ms) = absorb (extend e d) ms := by
  have hext := samePlace_extend e d
  induction ms with
  | nil => rw [absorb, absorb, absorb, if_pos h]
  | cons m ms ih =>
      rw [absorb, absorb]
      by_cases hm : SamePlace m e
      · have hmd : SamePlace (extend m e) d := (samePlace_extend m e).trans (hm.trans h)
        rw [if_pos hm, if_pos (hm.trans hext.symm), absorb, if_pos hmd, extend_extend]
      · have hmd : ¬ SamePlace m d := fun hsame => hm (hsame.trans h.symm)
        have hme : ¬ SamePlace m (extend e d) := fun hsame => hm (hsame.trans hext)
        rw [if_neg hm, if_neg hme, absorb, if_neg hmd, ih]

/-- Two diagnostics at different places may be added in either order, if the place
of one of them is there already.  If both are new, the first to come stands
first. -/
theorem absorb_comm {d x : Diagnostic} (hne : ¬ SamePlace d x) {ms : List Diagnostic}
    (hmem : place d ∈ ms.map place) : absorb d (absorb x ms) = absorb x (absorb d ms) := by
  induction ms with
  | nil => exact absurd hmem List.not_mem_nil
  | cons m ms ih =>
      rw [absorb, absorb]
      by_cases hmx : SamePlace m x
      · have hmd : ¬ SamePlace m d := fun hsame => hne (hsame.symm.trans hmx)
        have hext : ¬ SamePlace (extend m x) d := fun hsame =>
          hmd ((samePlace_extend m x).symm.trans hsame)
        rw [if_pos hmx, if_neg hmd, absorb, if_neg hext, absorb, if_pos hmx]
      · rw [if_neg hmx]
        by_cases hmd : SamePlace m d
        · have hext : ¬ SamePlace (extend m d) x := fun hsame =>
            hmx ((samePlace_extend m d).symm.trans hsame)
          rw [if_pos hmd, absorb, if_pos hmd, absorb, if_neg hext]
        · have hother : place d ≠ place m := fun heq => hmd (place_eq_iff.mp heq.symm)
          rw [List.map_cons, List.mem_cons] at hmem
          rw [if_neg hmd, absorb, if_neg hmd, absorb, if_neg hmx, ih (hmem.resolve_left hother)]

/-! ## a chunk -/

/-- A diagnostic whose place is there already may be added before or after a chunk
that does not have it. -/
theorem absorbAll_absorb_of_mem {d : Diagnostic} {es : List Diagnostic}
    (hes : ∀ e ∈ es, ¬ SamePlace d e) {ms : List Diagnostic} (hmem : place d ∈ ms.map place) :
    absorbAll (absorb d ms) es = absorb d (absorbAll ms es) := by
  induction es generalizing ms with
  | nil => rfl
  | cons e es ih =>
      obtain ⟨he, hrest⟩ := List.forall_mem_cons.mp hes
      have hkept : place d ∈ (absorb e ms).map place := mem_map_place_absorb.mpr (.inl hmem)
      rw [absorbAll_cons, absorbAll_cons, ← absorb_comm he hmem, ih hrest hkept]

/-- A diagnostic may be added to a merged chunk before the chunk is added, or to all
after it. -/
theorem absorbAll_absorb (d : Diagnostic) {es : List Diagnostic}
    (hes : es.Pairwise fun x y => ¬ SamePlace x y) (ms : List Diagnostic) :
    absorbAll ms (absorb d es) = absorb d (absorbAll ms es) := by
  induction es generalizing ms with
  | nil => rfl
  | cons e es ih =>
      obtain ⟨hfirst, hrest⟩ := List.pairwise_cons.mp hes
      rw [absorb]
      by_cases hplace : SamePlace e d
      · -- no later part of the chunk is at this place
        have hothers : ∀ x ∈ es, ¬ SamePlace d x := fun x hx hsame =>
          hfirst x hx (hplace.trans hsame)
        have hmem : place d ∈ (absorb e ms).map place :=
          mem_map_place_absorb.mpr (.inr (place_eq_iff.mpr hplace.symm))
        rw [if_pos hplace, absorbAll_cons, absorbAll_cons, ← absorb_absorb_of_samePlace hplace,
          absorbAll_absorb_of_mem hothers hmem]
      · rw [if_neg hplace, absorbAll_cons, absorbAll_cons, ih hrest]

/-- **A merged chunk is worth its diagnostics**, whatever it is added to. -/
theorem absorbAll_merge (ms ds : List Diagnostic) :
    absorbAll ms (merge ds) = absorbAll ms ds := by
  induction ds using List.reverseRecOn with
  | nil => rfl
  | append_singleton ds d ih =>
      rw [merge_concat, absorbAll_absorb d (pairwise_merge ds), ih, absorbAll_concat]

/-! ## any number of chunks -/

theorem merge_append_merge (xs ys : List Diagnostic) :
    merge (xs ++ merge ys) = merge (xs ++ ys) := by
  rw [merge_append, absorbAll_merge, merge_append]

/-- What is merged stays as it is. -/
theorem merge_merge (ds : List Diagnostic) : merge (merge ds) = merge ds :=
  merge_append_merge [] ds

theorem merge_merge_append (xs ys : List Diagnostic) :
    merge (merge xs ++ ys) = merge (xs ++ ys) := by
  rw [merge_append, merge_merge, merge_append]

theorem merge_flatten_map_merge (chunks : List (List Diagnostic)) :
    merge (chunks.map merge).flatten = merge chunks.flatten := by
  induction chunks with
  | nil => rfl
  | cons chunk chunks ih =>
      rw [List.map_cons, List.flatten_cons, List.flatten_cons, merge_merge_append,
        ← merge_append_merge, ih, merge_append_merge]

/-- **An output may be merged in chunks.**  It does not matter whether diagnostics
are merged at once, or some of them first, or all of them in two parts and these
with each other: the kinds, the spellings of the files, the messages and the order
are the same.  So merging again changes nothing, any number of chunks are merged
into one diagnostic per place of them all, and an output may be cut at any line
feed. -/
theorem merge_in_chunks :
    (∀ xs ys : List Diagnostic, merge (xs ++ ys) = merge (merge xs ++ ys) ∧
      merge (merge xs ++ ys) = merge (merge xs ++ merge ys)) ∧
    (∀ ds : List Diagnostic, merge (merge ds) = merge ds) ∧
    (∀ chunks : List (List Diagnostic),
      merge (chunks.map merge).flatten = merge chunks.flatten ∧
        IsMergeOf chunks.flatten (merge (chunks.map merge).flatten)) ∧
    ∀ a b : String, merge (parseOutput (a ++ "\n" ++ b)) =
      merge (merge (parseOutput a) ++ merge (parseOutput b)) := by
  refine ⟨fun xs ys => ⟨?_, ?_⟩, merge_merge,
    fun chunks => ⟨merge_flatten_map_merge chunks, ?_⟩, fun a b => ?_⟩
  · rw [merge_merge_append]
  · rw [merge_append_merge]
  · rw [merge_flatten_map_merge]
    exact isMergeOf_merge chunks.flatten
  · rw [parseOutput_append, merge_append_merge, merge_merge_append]

/-- The second chunk has a place of its own before the one that both have, and an
empty message there. -/
example : merge (merge [⟨"e", ⟨"/M"⟩, 1, "a"⟩, ⟨"n", ⟨"/M"⟩, 1, "b"⟩] ++
      merge [⟨"e", ⟨"/N"⟩, 1, "c"⟩, ⟨"n", ⟨"//M"⟩, 1, ""⟩, ⟨"n", ⟨"/M"⟩, 1, "d"⟩]) =
    [⟨"e", ⟨"/M"⟩, 1, "a b  d"⟩, ⟨"e", ⟨"/N"⟩, 1, "c"⟩] := by
  decide +kernel

end ChapelCheck.Diagnostic
