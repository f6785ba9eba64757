import Mathlib.Data.List.Induction
import ChapelCheck.Proofs.Path.Set
import ChapelCheck.Session.Server

/-!
# ChapelCheck.Proofs.Workspace

The workspace folder that a file belongs to, if it lies in any.

The folders that hold a file are prefixes of one list of components, so they
lie in each other.  `IsInnermost` says which of them is meant without counting
components, and `innermost` finds it:

* `innermost_eq_none_iff` — there is none exactly if no folder holds the file;
* `innermost_eq_some_iff` — the folder that is found is the innermost one;
* `IsInnermost.same` — lists with the same folders in other orders and spellings
  have innermost folders that mean the same.
-/

namespace ChapelCheck

namespace Path

theorem startsWith_iff {p base : Path} :
    p.startsWith base = true ↔ base.components <+: p.components :=
  List.isPrefixOf_iff_prefix

/-- Of two directories that hold a path, the one with fewer components holds the
other. -/
theorem startsWith_of_length_le {p a b : Path} (ha : p.startsWith a = true)
    (hb : p.startsWith b = true) (h : a.components.length ≤ b.components.length) :
    b.startsWith a = true :=
  startsWith_iff.mpr
    (List.prefix_of_prefix_length_le (startsWith_iff.mp ha) (startsWith_iff.mp hb) h)

/-- All spellings of a directory hold a path, or none does. -/
theorem Same.startsWith_eq {a b : Path} (h : a.Same b) (p : Path) :
    p.startsWith a = p.startsWith b := by
  rw [startsWith, startsWith, h]

/-- Directories that hold each other mean the same. -/
theorem same_of_startsWith {a b : Path} (hab : a.startsWith b = true)
    (hba : b.startsWith a = true) : a.Same b := by
  have h := startsWith_iff.mp hab
  have h' := startsWith_iff.mp hba
  exact h'.eq_of_length (Nat.le_antisymm h'.length_le h.length_le)

end Path

namespace Server

/-- `IsInnermost folders p r`: of the folders that hold `p`, the folder `r` is
the one that lies in all of them, and of those that mean the same as `r` it is
the last. -/
def IsInnermost (folders : List Path) (p r : Path) : Prop :=
  ∃ before after, folders = before ++ r :: after ∧ p.startsWith r = true ∧
    (∀ f ∈ before, p.startsWith f = true → r.startsWith f = true) ∧
    ∀ f ∈ after, p.startsWith f = true → r.startsWith f = true ∧ ¬ r.Same f

theorem IsInnermost.mem {folders : List Path} {p r : Path} (h : IsInnermost folders p r) :
    r ∈ folders := by
  obtain ⟨before, after, hsplit, _, _, _⟩ := h
  rw [hsplit]
  exact List.mem_append_right before List.mem_cons_self

theorem IsInnermost.startsWith {folders : List Path} {p r : Path} (h : IsInnermost folders p r) :
    p.startsWith r = true := by
  obtain ⟨_, _, _, hr, _, _⟩ := h
  exact hr

/-! ## one folder more -/

theorem innermost_append_of_neg {f p : Path} (hf : p.startsWith f = false) (folders : List Path) :
    innermost (folders ++ [f]) p = innermost folders p := by
  have hnot : ¬ p.startsWith f = true := Bool.eq_false_iff.mp hf
  rw [innermost, List.filter_append, List.filter_cons_of_neg hnot, List.filter_nil,
    List.append_nil, innermost]

theorem innermost_append_of_pos {f p : Path} (hf : p.startsWith f = true) (folders : List Path) :
    innermost (folders ++ [f]) p = deeper (innermost folders p) f := by
  rw [innermost, List.filter_append, List.filter_cons_of_pos hf, List.filter_nil,
    List.foldl_append, List.foldl_cons, List.foldl_nil, innermost]

theorem deeper_ne_none (best : Option Path) (f : Path) : deeper best f ≠ none := by
  cases best with
  | none => exact Option.some_ne_none f
  | some b =>
      rw [deeper]
      split
      · exact Option.some_ne_none f
      · exact Option.some_ne_none b

/-- There is no innermost folder exactly if no folder holds the path. -/
theorem innermost_eq_none_iff {folders : List Path} {p : Path} :
    innermost folders p = none ↔ ∀ f ∈ folders, p.startsWith f = false := by
  induction folders using List.reverseRecOn with
  | nil => exact ⟨fun _ f hf => absurd hf List.not_mem_nil, fun _ => rfl⟩
  | append_singleton folders f ih =>
      rw [List.forall_mem_append, List.forall_mem_singleton]
      cases hf : p.startsWith f with
      | false => rw [innermost_append_of_neg hf, ih]; simp
      | true =>
          rw [innermost_append_of_pos hf]
          exact ⟨fun h => absurd h (deeper_ne_none _ f), fun h => absurd h.2 (by simp)⟩

/-! ## the innermost folder -/

/-- A folder that does not hold the path changes nothing. -/
theorem IsInnermost.append_of_neg {folders : List Path} {p r f : Path}
    (h : IsInnermost folders p r) (hf : p.startsWith f = false) :
    IsInnermost (folders ++ [f]) p r := by
  obtain ⟨before, after, hsplit, hr, hbefore, hafter⟩ := h
  refine ⟨before, after ++ [f], by simp [hsplit], hr, hbefore, ?_⟩
  rw [List.forall_mem_append, List.forall_mem_singleton]
  exact ⟨hafter, fun hpos => absurd (hf.symm.trans hpos) Bool.false_ne_true⟩

/-- A folder that is strictly outside of the innermost one changes nothing. -/
theorem IsInnermost.append_of_lt {folders : List Path} {p r f : Path}
    (h : IsInnermost folders p r) (hf : p.startsWith f = true)
    (hlt : f.components.length < r.components.length) : IsInnermost (folders ++ [f]) p r := by
  obtain ⟨before, after, hsplit, hr, hbefore, hafter⟩ := h
  refine ⟨before, after ++ [f], by simp [hsplit], hr, hbefore, ?_⟩
  rw [List.forall_mem_append, List.forall_mem_singleton]
  refine ⟨hafter, fun _ => ⟨Path.startsWith_of_length_le hf hr (Nat.le_of_lt hlt), fun hsame => ?_⟩⟩
  rw [Path.Same] at hsame
  rw [hsame] at hlt
  exact absurd hlt (Nat.lt_irrefl _)

/-- Every folder that holds the path holds the innermost one. -/
theorem IsInnermost.startsWith_of_mem {folders : List Path} {p r f : Path}
    (h : IsInnermost folders p r) (hmem : f ∈ folders) (hf : p.startsWith f = true) :
    r.startsWith f = true := by
  obtain ⟨before, after, hsplit, _, hbefore, hafter⟩ := h
  rw [hsplit, List.mem_append, List.mem_cons] at hmem
  rcases hmem with hmem | hmem | hmem
  · exact hbefore f hmem hf
  · rw [hmem]
    exact Path.startsWith_iff.mpr List.prefix_rfl
  · exact (hafter f hmem hf).1

/-- A folder that holds the path and lies in the innermost one takes its place. -/
theorem IsInnermost.append_of_le {folders : List Path} {p r f : Path}
    (h : IsInnermost folders p r) (hf : p.startsWith f = true)
    (hle : r.components.length ≤ f.components.length) : IsInnermost (folders ++ [f]) p f := by
  refine ⟨folders, [], rfl, hf, fun g hmem hg => ?_, fun g hmem => absurd hmem List.not_mem_nil⟩
  have hgr := Path.startsWith_iff.mp (h.startsWith_of_mem hmem hg)
  exact Path.startsWith_of_length_le hg hf (Nat.le_trans hgr.length_le hle)

theorem isInnermost_of_innermost {folders : List Path} {p r : Path}
    (h : innermost folders p = some r) : IsInnermost folders p r := by
  induction folders using List.reverseRecOn generalizing r with
  | nil => contradiction
  | append_singleton folders f ih =>
      cases hf : p.startsWith f with
      | false =>
          rw [innermost_append_of_neg hf] at h
          exact (ih h).append_of_neg hf
      | true =>
          rw [innermost_append_of_pos hf] at h
          cases hbest : innermost folders p with
          | none =>
              rw [hbest, deeper] at h
              rw [← Option.some.inj h]
              refine ⟨folders, [], rfl, hf, fun g hmem hg => ?_,
                fun g hmem => absurd hmem List.not_mem_nil⟩
              rw [innermost_eq_none_iff.mp hbest g hmem] at hg
              contradiction
          | some b =>
              rw [hbest, deeper] at h
              by_cases hle : b.components.length ≤ f.components.length
              · rw [if_pos hle] at h
                rw [← Option.some.inj h]
                exact (ih hbest).append_of_le hf hle
              · rw [if_neg hle] at h
                rw [← Option.some.inj h]
                exact (ih hbest).append_of_lt hf (Nat.lt_of_not_le hle)

/-- There is one innermost folder at most. -/
theorem IsInnermost.unique {folders : List Path} {p r r' : Path} (h : IsInnermost folders p r)
    (h' : IsInnermost folders p r') : r = r' := by
  -- of two different entries one comes later, and it would have to be strictly outside
  have hlater : ∀ {a b : Path} {before after : List Path}, IsInnermost folders p b →
      p.startsWith a = true → folders = before ++ a :: after →
      (∀ f ∈ after, p.startsWith f = true → a.startsWith f = true ∧ ¬ a.Same f) → b ∉ after := by
    intro a b before after hb ha hsplit hafter hmem
    have hmema : a ∈ folders := by
      rw [hsplit]
      exact List.mem_append_right before List.mem_cons_self
    obtain ⟨hab, hne⟩ := hafter b hmem hb.startsWith
    exact hne (Path.same_of_startsWith hab (hb.startsWith_of_mem hmema ha))
  obtain ⟨before, after, hsplit, hr, hbefore, hafter⟩ := id h
  obtain ⟨before', after', hsplit', hr', hbefore', hafter'⟩ := id h'
  rcases List.append_eq_append_iff.mp (hsplit.symm.trans hsplit') with
    ⟨mid, hmid, hrest⟩ | ⟨mid, hmid, hrest⟩
  · cases mid with
    | nil => exact (List.cons.inj hrest).1
    | cons x mid =>
        have hmem : r' ∈ after := by
          rw [(List.cons.inj hrest).2]
          simp
        exact absurd hmem (hlater h' hr hsplit hafter)
  · cases mid with
    | nil => exact (List.cons.inj hrest).1.symm
    | cons x mid =>
        have hmem : r ∈ after' := by
          rw [(List.cons.inj hrest).2]
          simp
        exact absurd hmem (hlater h hr' hsplit' hafter')

/-- **The folder that is found is the innermost one.** -/
theorem innermost_eq_some_iff {folders : List Path} {p r : Path} :
    innermost folders p = some r ↔ IsInnermost folders p r := by
  constructor
  · exact isInnermost_of_innermost
  · intro h
    cases hfound : innermost folders p with
    | none =>
        have hnone := innermost_eq_none_iff.mp hfound r h.mem
        rw [h.startsWith] at hnone
        contradiction
    | some r' => rw [(isInnermost_of_innermost hfound).unique h]

/-! ## other lists of the same folders -/

/-- Whatever means the same as a folder that holds the path holds the innermost
one. -/
theorem IsInnermost.startsWith_of_isAmong {folders : List Path} {p r f : Path}
    (h : IsInnermost folders p r) (hamong : f.IsAmong folders) (hf : p.startsWith f = true) :
    r.startsWith f = true := by
  obtain ⟨g, hmem, hsame⟩ := hamong
  rw [← hsame.startsWith_eq] at hf ⊢
  exact h.startsWith_of_mem hmem hf

/-- Innermost folders of lists that hold each other's mean the same. -/
theorem IsInnermost.same {folders folders' : List Path} {p r r' : Path}
    (h : IsInnermost folders p r) (h' : IsInnermost folders' p r') (hr : r.IsAmong folders')
    (hr' : r'.IsAmong folders) : r.Same r' :=
  Path.same_of_startsWith (h.startsWith_of_isAmong hr' h'.startsWith)
    (h'.startsWith_of_isAmong hr h.startsWith)

/-- A list has no innermost folder if it has no folder that another list without
one lacks. -/
theorem innermost_eq_none_of_isAmong {folders folders' : List Path} {p : Path}
    (h : innermost folders p = none) (hsub : ∀ f ∈ folders', f.IsAmong folders) :
    innermost folders' p = none := by
  rw [innermost_eq_none_iff] at h ⊢
  intro f hmem
  obtain ⟨g, hg, hsame⟩ := hsub f hmem
  rw [← hsame.startsWith_eq]
  exact h g hg

/-- What the innermost folder means depends on which folders there are, and not on
their order, number and spelling. -/
theorem map_components_innermost_congr {folders folders' : List Path} (p : Path)
    (h : ∀ f : Path, f.IsAmong folders' ↔ f.IsAmong folders) :
    (innermost folders' p).map Path.components = (innermost folders p).map Path.components := by
  have hsub : ∀ f ∈ folders', f.IsAmong folders := fun f hf => (h f).mp (Path.isAmong_of_mem hf)
  have hsub' : ∀ f ∈ folders, f.IsAmong folders' := fun f hf => (h f).mpr (Path.isAmong_of_mem hf)
  cases hfound : innermost folders p with
  | none => rw [innermost_eq_none_of_isAmong hfound hsub]
  | some r =>
      cases hfound' : innermost folders' p with
      | none =>
          rw [innermost_eq_none_of_isAmong hfound' hsub'] at hfound
          contradiction
      | some r' =>
          have hr := isInnermost_of_innermost hfound
          have hr' := isInnermost_of_innermost hfound'
          have hsame : r'.Same r := hr'.same hr (hsub r' hr'.mem) (hsub' r hr.mem)
          rw [Option.map_some, Option.map_some, hsame]

/-- **A file belongs to the innermost workspace folder that holds it.**  It belongs
to none exactly if no folder holds it.  Otherwise it belongs to one of the folders,
which holds it and which every folder that holds it holds, too.  Where the folders
stand in the list, how often and in which spelling makes no difference to what
this folder means. -/
theorem file_belongs_to_innermost (folders : List Path) (p : Path) :
    (innermost folders p = none ↔ ∀ f ∈ folders, ¬ f.components <+: p.components) ∧
    ((∃ f ∈ folders, f.components <+: p.components) →
      ∃ r ∈ folders, innermost folders p = some r ∧ r.components <+: p.components ∧
        ∀ f ∈ folders, f.components <+: p.components → f.components <+: r.components) ∧
    ∀ folders' : List Path, (∀ f : Path, f.IsAmong folders' ↔ f.IsAmong folders) →
      (innermost folders' p).map Path.components =
        (innermost folders p).map Path.components := by
  have hnone : innermost folders p = none ↔ ∀ f ∈ folders, ¬ f.components <+: p.components := by
    simp only [innermost_eq_none_iff, ← Path.startsWith_iff, Bool.not_eq_true]
  refine ⟨hnone, ?_, fun folders' h => map_components_innermost_congr p h⟩
  rintro ⟨f, hmem, hf⟩
  cases hfound : innermost folders p with
  | none => exact absurd hf (hnone.mp hfound f hmem)
  | some r =>
      have hr := isInnermost_of_innermost hfound
      refine ⟨r, hr.mem, rfl, Path.startsWith_iff.mp hr.startsWith, fun g hg hgp => ?_⟩
      exact Path.startsWith_iff.mp (hr.startsWith_of_mem hg (Path.startsWith_iff.mpr hgp))

/-- A project in a workspace folder, which is listed again in other spellings and in
another order: the file belongs to the project either way. -/
theorem file_belongs_to_innermost_respelled :
    (∀ f : Path, f.IsAmong [⟨"/w//p"⟩, ⟨"/x/."⟩, ⟨"/w/"⟩, ⟨"/w/p"⟩] ↔
      f.IsAmong [⟨"/w"⟩, ⟨"/w/p/"⟩, ⟨"/x"⟩]) ∧
    innermost [⟨"/w"⟩, ⟨"/w/p/"⟩, ⟨"/x"⟩] ⟨"/w/p/M.chpl"⟩ = some ⟨"/w/p/"⟩ ∧
    (innermost [⟨"/w//p"⟩, ⟨"/x/."⟩, ⟨"/w/"⟩, ⟨"/w/p"⟩] ⟨"/w/p/M.chpl"⟩).map Path.components =
      some [.root, .name "w", .name "p"] ∧
    ∃ r ∈ ([⟨"/w"⟩, ⟨"/w/p/"⟩, ⟨"/x"⟩] : List Path),
      innermost [⟨"/w"⟩, ⟨"/w/p/"⟩, ⟨"/x"⟩] ⟨"/w/p/M.chpl"⟩ = some r ∧
      (⟨"/w"⟩ : Path).components <+: r.components := by
  obtain ⟨_, hfound, hsame⟩ :=
    file_belongs_to_innermost [⟨"/w"⟩, ⟨"/w/p/"⟩, ⟨"/x"⟩] ⟨"/w/p/M.chpl"⟩
  have hamong : ∀ f : Path, f.IsAmong [⟨"/w//p"⟩, ⟨"/x/."⟩, ⟨"/w/"⟩, ⟨"/w/p"⟩] ↔
      f.IsAmong [⟨"/w"⟩, ⟨"/w/p/"⟩, ⟨"/x"⟩] := by
    have hsub : ([⟨"/w//p"⟩, ⟨"/x/."⟩, ⟨"/w/"⟩, ⟨"/w/p"⟩] : List Path).map Path.components ⊆
        ([⟨"/w"⟩, ⟨"/w/p/"⟩, ⟨"/x"⟩] : List Path).map Path.components := by decide +kernel
    have hsub' : ([⟨"/w"⟩, ⟨"/w/p/"⟩, ⟨"/x"⟩] : List Path).map Path.components ⊆
        ([⟨"/w//p"⟩, ⟨"/x/."⟩, ⟨"/w/"⟩, ⟨"/w/p"⟩] : List Path).map Path.components := by
      decide +kernel
    intro f
    rw [Path.isAmong_iff_mem_map, Path.isAmong_iff_mem_map]
    exact ⟨fun hf => hsub hf, fun hf => hsub' hf⟩
  have hproject : innermost [⟨"/w"⟩, ⟨"/w/p/"⟩, ⟨"/x"⟩] ⟨"/w/p/M.chpl"⟩ = some ⟨"/w/p/"⟩ := by
    decide +kernel
  refine ⟨hamong, hproject, ?_, ?_⟩
  · rw [hsame _ hamong, hproject]
    decide +kernel
  · obtain ⟨r, hr, hinnermost, _, houter⟩ := hfound ⟨⟨"/w"⟩, by decide +kernel, by decide +kernel⟩
    exact ⟨r, hr, hinnermost, houter ⟨"/w"⟩ (by decide +kernel) (by decide +kernel)⟩

end Server

end ChapelCheck
