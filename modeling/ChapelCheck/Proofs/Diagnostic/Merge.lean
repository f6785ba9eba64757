import ChapelCheck.Diagnostic.Merge
import ChapelCheck.Text.Blank

/-!
# ChapelCheck.Proofs.Diagnostic.Merge

What merging does to the diagnostics at one place, and to all others.

Merging looks at places only, so it commutes with every selection that does
(`filter_merge`): to see what becomes of one place it is enough to merge the
diagnostics at this place alone, and these become one (`merge_of_samePlace`).
Hence

* `exists_group_of_mem_merge` — a merged diagnostic is the first one at its
  place, extended by the later ones there in order;
* `message_foldl_extend` — its message is all messages at the place, with a
  space between each two;
* `merge_perm` — how the diagnostics at different places are interleaved
  decides about the order of the merged ones, and about nothing else, since no
  two of them are at one place (`pairwise_merge`).
-/

namespace ChapelCheck.Diagnostic

open Text

/-! ## one after the other -/

/-- Adds diagnostics to merged ones, one after the other. -/
def absorbAll (merged ds : List Diagnostic) : List Diagnostic :=
  ds.foldl (fun merged d => absorb d merged) merged

theorem absorbAll_cons (ms : List Diagnostic) (d : Diagnostic) (ds : List Diagnostic) :
    absorbAll ms (d :: ds) = absorbAll (absorb d ms) ds := rfl

theorem absorbAll_concat (ms ds : List Diagnostic) (d : Diagnostic) :
    absorbAll ms (ds ++ [d]) = absorb d (absorbAll ms ds) := by
  rw [absorbAll, List.foldl_append, List.foldl_cons, List.foldl_nil, absorbAll]

theorem merge_eq_absorbAll (ds : List Diagnostic) : merge ds = absorbAll [] ds := rfl

theorem merge_append (xs ys : List Diagnostic) : merge (xs ++ ys) = absorbAll (merge xs) ys := by
  rw [merge, List.foldl_append, merge, absorbAll]

/-! ## places -/

theorem SamePlace.refl (d : Diagnostic) : SamePlace d d := ⟨rfl, rfl⟩

theorem SamePlace.symm {d e : Diagnostic} (h : SamePlace d e) : SamePlace e d :=
  ⟨h.1.symm, h.2.symm⟩

theorem SamePlace.trans {d e f : Diagnostic} (h : SamePlace d e) (h' : SamePlace e f) :
    SamePlace d f :=
  ⟨h.1.trans h'.1, h.2.trans h'.2⟩

/-- Extending a diagnostic leaves it at its place. -/
theorem samePlace_extend (first later : Diagnostic) : SamePlace (extend first later) first :=
  ⟨rfl, rfl⟩

/-- A selection that takes all diagnostics at a place, or none. -/
def PlaceWise (p : Diagnostic → Bool) : Prop := ∀ d e, SamePlace d e → p d = p e

/-- The diagnostics at one place are such a selection. -/
theorem placeWise_samePlace (d : Diagnostic) : PlaceWise fun e => decide (SamePlace d e) := by
  intro e f hef
  rw [decide_eq_decide]
  exact ⟨fun h => h.trans hef, fun h => h.trans hef.symm⟩

/-- The diagnostics in one file are such a selection. -/
theorem placeWise_file (file : Path) : PlaceWise fun d => decide (d.file.Same file) := by
  intro d e h
  rw [decide_eq_decide]
  exact ⟨fun hd => h.2.symm.trans hd, fun he => h.2.trans he⟩

/-! ## selections -/

/-- A selected diagnostic is added to what is selected. -/
theorem filter_absorb_of_pos {p : Diagnostic → Bool} (hp : PlaceWise p) {d : Diagnostic}
    (hd : p d = true) (es : List Diagnostic) :
    (absorb d es).filter p = absorb d (es.filter p) := by
  induction es with
  | nil => rw [absorb, List.filter_cons_of_pos hd, List.filter_nil, absorb]
  | cons e es ih =>
      rw [absorb]
      by_cases hplace : SamePlace e d
      · have he : p e = true := (hp e d hplace).trans hd
        have hext : p (extend e d) = true := (hp _ e (samePlace_extend e d)).trans he
        rw [if_pos hplace, List.filter_cons_of_pos hext, List.filter_cons_of_pos he, absorb,
          if_pos hplace]
      · rw [if_neg hplace]
        by_cases he : p e = true
        · rw [List.filter_cons_of_pos he, List.filter_cons_of_pos he, ih, absorb, if_neg hplace]
        · rw [List.filter_cons_of_neg he, List.filter_cons_of_neg he, ih]

/-- Any other diagnostic changes nothing that is selected. -/
theorem filter_absorb_of_neg {p : Diagnostic → Bool} (hp : PlaceWise p) {d : Diagnostic}
    (hd : p d = false) (es : List Diagnostic) : (absorb d es).filter p = es.filter p := by
  have hnot : ¬ p d = true := by rw [hd]; exact Bool.false_ne_true
  induction es with
  | nil => rw [absorb, List.filter_cons_of_neg hnot]
  | cons e es ih =>
      rw [absorb]
      by_cases hplace : SamePlace e d
      · have he : ¬ p e = true := by rw [hp e d hplace]; exact hnot
        have hext : ¬ p (extend e d) = true := by
          rw [hp _ e (samePlace_extend e d)]
          exact he
        rw [if_pos hplace, List.filter_cons_of_neg hext, List.filter_cons_of_neg he]
      · rw [if_neg hplace, List.filter_cons, List.filter_cons, ih]

theorem filter_absorbAll {p : Diagnostic → Bool} (hp : PlaceWise p) (ms ds : List Diagnostic) :
    (absorbAll ms ds).filter p = absorbAll (ms.filter p) (ds.filter p) := by
  induction ds generalizing ms with
  | nil => rfl
  | cons d ds ih =>
      rw [absorbAll_cons, ih]
      by_cases hd : p d = true
      · rw [filter_absorb_of_pos hp hd, List.filter_cons_of_pos hd, absorbAll_cons]
      · have hfalse : p d = false := Bool.eq_false_iff.mpr hd
        rw [filter_absorb_of_neg hp hfalse, List.filter_cons_of_neg hd]

/-- **Merging commutes with selecting places**: it does not matter whether
diagnostics are left out before they are merged or after. -/
theorem filter_merge {p : Diagnostic → Bool} (hp : PlaceWise p) (ds : List Diagnostic) :
    (merge ds).filter p = merge (ds.filter p) := by
  rw [merge_eq_absorbAll, filter_absorbAll hp, List.filter_nil, merge_eq_absorbAll]

/-- What becomes of a place depends on the diagnostics there alone. -/
theorem mem_merge_iff {d : Diagnostic} {ds : List Diagnostic} :
    d ∈ merge ds ↔ d ∈ merge (ds.filter fun x => decide (SamePlace d x)) := by
  rw [← filter_merge (placeWise_samePlace d), List.mem_filter]
  exact ⟨fun h => ⟨h, decide_eq_true (SamePlace.refl d)⟩, fun h => h.1⟩

/-! ## different places -/

/-- Adding a diagnostic makes no places other than its own. -/
theorem exists_samePlace_of_mem_absorb {d x : Diagnostic} {es : List Diagnostic}
    (h : x ∈ absorb d es) : SamePlace d x ∨ ∃ e ∈ es, SamePlace e x := by
  induction es with
  | nil =>
      rw [absorb, List.mem_singleton] at h
      exact .inl (h ▸ SamePlace.refl x)
  | cons e es ih =>
      rw [absorb] at h
      by_cases hplace : SamePlace e d
      · rw [if_pos hplace, List.mem_cons] at h
        cases h with
        | inl hx =>
            rw [hx]
            exact .inl (hplace.symm.trans (samePlace_extend e d).symm)
        | inr hx => exact .inr ⟨x, List.mem_cons_of_mem e hx, SamePlace.refl x⟩
      · rw [if_neg hplace, List.mem_cons] at h
        cases h with
        | inl hx => exact .inr ⟨e, List.mem_cons_self, hx ▸ SamePlace.refl x⟩
        | inr hx =>
            obtain hd | ⟨y, hy, hyx⟩ := ih hx
            · exact .inl hd
            · exact .inr ⟨y, List.mem_cons_of_mem e hy, hyx⟩

/-- Diagnostics at different places stay so when one is added. -/
theorem pairwise_absorb (d : Diagnostic) {es : List Diagnostic}
    (h : es.Pairwise fun x y => ¬ SamePlace x y) :
    (absorb d es).Pairwise fun x y => ¬ SamePlace x y := by
  induction es with
  | nil => exact List.pairwise_singleton _ d
  | cons e es ih =>
      obtain ⟨hfirst, hrest⟩ := List.pairwise_cons.mp h
      rw [absorb]
      by_cases hplace : SamePlace e d
      · rw [if_pos hplace, List.pairwise_cons]
        exact ⟨fun x hx hsame => hfirst x hx ((samePlace_extend e d).symm.trans hsame), hrest⟩
      · rw [if_neg hplace, List.pairwise_cons]
        refine ⟨fun x hx hsame => ?_, ih hrest⟩
        obtain hd | ⟨y, hy, hyx⟩ := exists_samePlace_of_mem_absorb hx
        · exact hplace (hsame.trans hd.symm)
        · exact hfirst y hy (hsame.trans hyx.symm)

theorem pairwise_absorbAll {ms : List Diagnostic} (h : ms.Pairwise fun x y => ¬ SamePlace x y)
    (ds : List Diagnostic) : (absorbAll ms ds).Pairwise fun x y => ¬ SamePlace x y := by
  induction ds generalizing ms with
  | nil => exact h
  | cons d ds ih => exact ih (pairwise_absorb d h)

/-- **Merged diagnostics are at different places.** -/
theorem pairwise_merge (ds : List Diagnostic) :
    (merge ds).Pairwise fun x y => ¬ SamePlace x y :=
  pairwise_absorbAll List.Pairwise.nil ds

theorem nodup_merge (ds : List Diagnostic) : (merge ds).Nodup := by
  refine (pairwise_merge ds).imp ?_
  intro x y hplace heq
  rw [heq] at hplace
  exact hplace (SamePlace.refl y)

/-- **Interleaving**: diagnostics that are the same at each place, in the same
order there, are merged into the same ones. -/
theorem merge_perm {ds ds' : List Diagnostic}
    (h : ∀ d, (ds.filter fun x => decide (SamePlace d x)) =
      ds'.filter fun x => decide (SamePlace d x)) : (merge ds).Perm (merge ds') := by
  rw [List.perm_ext_iff_of_nodup (nodup_merge ds) (nodup_merge ds')]
  intro d
  rw [mem_merge_iff, h d, ← mem_merge_iff]

/-! ## one place -/

/-- Diagnostics at one place extend the first of them, one after the other. -/
theorem absorbAll_of_samePlace {e : Diagnostic} {ds : List Diagnostic}
    (h : ∀ d ∈ ds, SamePlace e d) : absorbAll [e] ds = [ds.foldl extend e] := by
  induction ds generalizing e with
  | nil => rfl
  | cons d ds ih =>
      have hd : SamePlace e d := h d List.mem_cons_self
      have hrest : ∀ x ∈ ds, SamePlace (extend e d) x := fun x hx =>
        (samePlace_extend e d).trans (h x (List.mem_cons_of_mem d hx))
      rw [absorbAll_cons, List.foldl_cons, absorb, if_pos hd, ih hrest]

theorem merge_of_samePlace {e : Diagnostic} {ds : List Diagnostic}
    (h : ∀ d ∈ ds, SamePlace e d) : merge (e :: ds) = [ds.foldl extend e] := by
  rw [merge_eq_absorbAll, absorbAll_cons, absorb, absorbAll_of_samePlace h]

/-- **A merged diagnostic is made of those at its place**: of the first one,
extended by the later ones. -/
theorem exists_group_of_mem_merge {d : Diagnostic} {ds : List Diagnostic} (h : d ∈ merge ds) :
    ∃ e es, (ds.filter fun x => decide (SamePlace d x)) = e :: es ∧ d = es.foldl extend e := by
  have hmem := mem_merge_iff.mp h
  cases hgroup : ds.filter fun x => decide (SamePlace d x) with
  | nil => rw [hgroup] at hmem; exact absurd hmem List.not_mem_nil
  | cons e es =>
      have hplace : ∀ x ∈ e :: es, SamePlace d x := fun x hx => by
        rw [← hgroup] at hx
        exact of_decide_eq_true (List.mem_filter.mp hx).2
      have hsame : ∀ x ∈ es, SamePlace e x := fun x hx =>
        (hplace e List.mem_cons_self).symm.trans (hplace x (List.mem_cons_of_mem e hx))
      rw [hgroup, merge_of_samePlace hsame, List.mem_singleton] at hmem
      exact ⟨e, es, rfl, hmem⟩

/-! ## messages -/

/-- The messages are joined in order, with a space between each two, and nothing
else is changed. -/
theorem foldl_extend_eq (e : Diagnostic) (es : List Diagnostic) :
    es.foldl extend e =
      { e with message := " ".intercalate (e.message :: es.map message) } := by
  induction es generalizing e with
  | nil => rw [List.foldl_nil, List.map_nil, String.intercalate_singleton]
  | cons d es ih =>
      rw [List.foldl_cons, ih, List.map_cons, String.intercalate_cons_cons, extend,
        String.intercalate_cons_append]

theorem message_foldl_extend (e : Diagnostic) (es : List Diagnostic) :
    (es.foldl extend e).message = " ".intercalate (e.message :: es.map message) := by
  rw [foldl_extend_eq]

/-- Joined messages are blank exactly if all of them are. -/
theorem isBlankText_intercalate (m : String) (ms : List String) :
    isBlankText (" ".intercalate (m :: ms)) = (isBlankText m && ms.all isBlankText) := by
  induction ms generalizing m with
  | nil => rw [String.intercalate_singleton, List.all_nil, Bool.and_true]
  | cons n ms ih =>
      have hspace : isBlankText " " = true := rfl
      have happend : ∀ s t : String, isBlankText (s ++ t) = (isBlankText s && isBlankText t) := by
        intro s t
        rw [isBlankText, String.toList_append, List.all_append, isBlankText, isBlankText]
      rw [String.intercalate_cons_cons, happend, happend, ih, hspace, Bool.and_true, List.all_cons]

/-- Joined messages are empty exactly if there is one, and it is empty: the
spaces between them stay. -/
theorem intercalate_eq_empty_iff (m : String) (ms : List String) :
    " ".intercalate (m :: ms) = "" ↔ m = "" ∧ ms = [] := by
  cases ms with
  | nil => rw [String.intercalate_singleton]; simp
  | cons n ms => rw [String.intercalate_cons_cons]; simp

end ChapelCheck.Diagnostic
