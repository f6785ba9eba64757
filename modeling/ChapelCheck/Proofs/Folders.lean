import Mathlib.Tactic.Tauto
import ChapelCheck.Proofs.Path.Set
import ChapelCheck.Proofs.Remembered

/-!
# ChapelCheck.Proofs.Folders

The workspace folders after any number of changes to them.

Folders are told apart by what they mean, so the list of folders is looked at
through `Path.IsAmong` and `Path.occurrences`.  A call removes folders and then
adds some, and one lemma says what that does to each of three things; a run does
it again and again:

* `isAmong_handle`, `isAmong_run` — which folders are there;
* `occurrences_handle`, `occurrences_run` — how often;
* `prefix_handle`, `prefix_run` — in which order.
-/

namespace ChapelCheck

namespace Path

/-- How many of the paths `ps` mean the same as `p`. -/
def occurrences (p : Path) (ps : List Path) : Nat := ps.countP fun q => q.Same p

theorem occurrences_concat (p q : Path) (ps : List Path) :
    p.occurrences (ps ++ [q]) = p.occurrences ps + if q.Same p then 1 else 0 := by
  simp [occurrences, List.countP_append, List.countP_singleton]

theorem occurrences_eq_zero_iff {p : Path} {ps : List Path} :
    p.occurrences ps = 0 ↔ ¬ p.IsAmong ps := by
  simp [occurrences, IsAmong]

end Path

namespace Server

/-! ## removing folders -/

/-- Removing folders one by one is leaving out what is among them. -/
theorem foldl_removeFolder (folders ps : List Path) :
    ps.foldl removeFolder folders = folders.filter fun f => decide (¬ f.IsAmong ps) := by
  induction ps generalizing folders with
  | nil => simp [Path.isAmong_nil, List.filter_eq_self.mpr]
  | cons p ps ih =>
      rw [List.foldl_cons, ih, removeFolder, List.filter_filter]
      apply List.filter_congr
      intro f _
      have hsame : f.Same p ↔ p.Same f := ⟨.symm, .symm⟩
      simp [Path.isAmong_cons, hsame, and_comm]

theorem isAmong_foldl_removeFolder {p : Path} {folders ps : List Path} :
    p.IsAmong (ps.foldl removeFolder folders) ↔ p.IsAmong folders ∧ ¬ p.IsAmong ps := by
  rw [foldl_removeFolder]
  constructor
  · rintro ⟨f, hf, hsame⟩
    obtain ⟨hmem, hkept⟩ := List.mem_filter.mp hf
    exact ⟨⟨f, hmem, hsame⟩, fun h => of_decide_eq_true hkept ((hsame.isAmong_iff ps).mpr h)⟩
  · rintro ⟨⟨f, hmem, hsame⟩, hnot⟩
    have hkept : ¬ f.IsAmong ps := fun h => hnot ((hsame.isAmong_iff ps).mp h)
    exact ⟨f, List.mem_filter.mpr ⟨hmem, decide_eq_true hkept⟩, hsame⟩

/-! ## adding folders -/

/-- A folder is added at the end, unless it is there already. -/
theorem addFolder_eq (folders : List Path) (p : Path) :
    addFolder folders p = if p.IsAmong folders then folders else folders ++ [p] := by
  have hany : (folders.any fun f => f.Same p) = decide (p.IsAmong folders) := by
    rw [Bool.eq_iff_iff, List.any_eq_true, decide_eq_true_iff]
    simp only [decide_eq_true_iff, Path.IsAmong]
  simp only [addFolder, hany, decide_eq_true_iff]

theorem isAmong_addFolder {p q : Path} {folders : List Path} :
    p.IsAmong (addFolder folders q) ↔ p.IsAmong folders ∨ q.Same p := by
  rw [addFolder_eq]
  by_cases hq : q.IsAmong folders
  · rw [if_pos hq]
    exact ⟨.inl, fun h => h.elim id fun hsame => (hsame.isAmong_iff folders).mp hq⟩
  · rw [if_neg hq, Path.isAmong_append, Path.isAmong_cons]
    simp [Path.isAmong_nil]

theorem isAmong_foldl_addFolder {p : Path} {folders ps : List Path} :
    p.IsAmong (ps.foldl addFolder folders) ↔ p.IsAmong folders ∨ p.IsAmong ps := by
  induction ps generalizing folders with
  | nil => simp [Path.isAmong_nil]
  | cons q ps ih => rw [List.foldl_cons, ih, isAmong_addFolder, Path.isAmong_cons, or_assoc]

/-- What is there already stays where it is. -/
theorem prefix_foldl_addFolder (folders ps : List Path) :
    folders <+: ps.foldl addFolder folders := by
  induction ps generalizing folders with
  | nil => exact List.prefix_rfl
  | cons q ps ih =>
      have hstep : folders <+: addFolder folders q := by
        rw [addFolder_eq]
        split
        · exact List.prefix_rfl
        · exact List.prefix_append folders [q]
      exact hstep.trans (ih (addFolder folders q))

/-- A folder is not added a second time. -/
theorem occurrences_addFolder (p q : Path) (folders : List Path) :
    p.occurrences (addFolder folders q) ≤ max 1 (p.occurrences folders) := by
  rw [addFolder_eq]
  by_cases hq : q.IsAmong folders
  · rw [if_pos hq]
    exact Nat.le_max_right ..
  · rw [if_neg hq, Path.occurrences_concat]
    by_cases hsame : q.Same p
    · have hnone : p.occurrences folders = 0 :=
        Path.occurrences_eq_zero_iff.mpr fun h => hq ((hsame.isAmong_iff folders).mpr h)
      rw [if_pos hsame, hnone]
      omega
    · rw [if_neg hsame]
      omega

theorem occurrences_foldl_addFolder (p : Path) (folders ps : List Path) :
    p.occurrences (ps.foldl addFolder folders) ≤ max 1 (p.occurrences folders) := by
  induction ps generalizing folders with
  | nil => exact Nat.le_max_right ..
  | cons q ps ih =>
      have hstep := occurrences_addFolder p q folders
      have hrest := ih (addFolder folders q)
      rw [List.foldl_cons]
      omega

/-! ## one call -/

section

variable {call : Call} (hcall : call.begins = false) (h : Host) (s : Server)
include hcall

/-- After a call a folder is there if the call adds it, or if it was there before
and is not removed. -/
theorem isAmong_handle {p : Path} :
    p.IsAmong (s.handle h call).value.1.folders ↔
      p.IsAmong call.added ∨ (p.IsAmong s.folders ∧ ¬ p.IsAmong call.removed) := by
  rw [folders_handle hcall, isAmong_foldl_addFolder, isAmong_foldl_removeFolder, or_comm]

/-- The folders that a call does not remove come first, in their order. -/
theorem prefix_handle :
    (s.folders.filter fun f => decide (¬ f.IsAmong call.removed)) <+:
      (s.handle h call).value.1.folders := by
  rw [folders_handle hcall, ← foldl_removeFolder]
  exact prefix_foldl_addFolder _ _

/-- A call does not add a folder a second time. -/
theorem occurrences_handle (p : Path) :
    p.occurrences (s.handle h call).value.1.folders ≤ max 1 (p.occurrences s.folders) := by
  have hremoved : p.occurrences (call.removed.foldl removeFolder s.folders) ≤
      p.occurrences s.folders := by
    rw [foldl_removeFolder]
    exact List.filter_sublist.countP_le
  have hadded :=
    occurrences_foldl_addFolder p (call.removed.foldl removeFolder s.folders) call.added
  rw [folders_handle hcall]
  omega

end

end Server

/-! ## any number of calls -/

/-- Whether a call adds a folder or removes it. -/
def Call.Names (call : Call) (p : Path) : Prop := p.IsAmong call.added ∨ p.IsAmong call.removed

instance (call : Call) (p : Path) : Decidable (call.Names p) :=
  inferInstanceAs (Decidable (_ ∨ _))

/-- `LastAdded p calls`: the last of the calls that names `p` adds it, whether it
also removes it or not. -/
def LastAdded (p : Path) (calls : List Call) : Prop :=
  ∃ before call later, calls = before ++ call :: later ∧ p.IsAmong call.added ∧
    ∀ c ∈ later, ¬ c.Names p

theorem lastAdded_cons {p : Path} {call : Call} {calls : List Call} :
    LastAdded p (call :: calls) ↔
      LastAdded p calls ∨ (p.IsAmong call.added ∧ ∀ c ∈ calls, ¬ c.Names p) := by
  constructor
  · rintro ⟨before, call', later, hsplit, hadded, hlater⟩
    cases before with
    | nil =>
        obtain ⟨rfl, rfl⟩ := List.cons.inj hsplit
        exact .inr ⟨hadded, hlater⟩
    | cons first before =>
        exact .inl ⟨before, call', later, (List.cons.inj hsplit).2, hadded, hlater⟩
  · rintro (⟨before, call', later, rfl, hadded, hlater⟩ | ⟨hadded, hlater⟩)
    · exact ⟨call :: before, call', later, rfl, hadded, hlater⟩
    · exact ⟨[], call, calls, rfl, hadded, hlater⟩

namespace Server

section

variable {steps : List (Host × Call)} (hsteps : ∀ step ∈ steps, step.2.begins = false)
include hsteps

/-- The last call that names a folder decides whether it is there. -/
theorem isAmong_run (s : Server) (p : Path) :
    p.IsAmong (s.run steps).folders ↔
      LastAdded p (steps.map Prod.snd) ∨
        ((∀ call ∈ steps.map Prod.snd, ¬ call.Names p) ∧ p.IsAmong s.folders) := by
  induction steps generalizing s with
  | nil => simp [LastAdded]
  | cons step steps ih =>
      obtain ⟨h, call⟩ := step
      have hcall : call.begins = false := hsteps _ List.mem_cons_self
      have hrest := (List.forall_mem_cons.mp hsteps).2
      -- the first call has a say only if no later one names the folder
      rw [run_cons, ih hrest, isAmong_handle hcall, List.map_cons, lastAdded_cons,
        List.forall_mem_cons, Call.Names]
      tauto

/-- What no call removes stays where it is. -/
theorem prefix_run (s : Server) :
    (s.folders.filter fun f =>
        decide (∀ call ∈ steps.map Prod.snd, ¬ f.IsAmong call.removed)) <+:
      (s.run steps).folders := by
  induction steps generalizing s with
  | nil => simp [List.filter_eq_self.mpr]
  | cons step steps ih =>
      obtain ⟨h, call⟩ := step
      have hcall : call.begins = false := hsteps _ List.mem_cons_self
      have hrest := (List.forall_mem_cons.mp hsteps).2
      have hsplit : (s.folders.filter fun f =>
            decide (∀ c ∈ ((h, call) :: steps).map Prod.snd, ¬ f.IsAmong c.removed)) =
          (s.folders.filter fun f => decide (¬ f.IsAmong call.removed)).filter fun f =>
            decide (∀ c ∈ steps.map Prod.snd, ¬ f.IsAmong c.removed) := by
        rw [List.filter_filter]
        apply List.filter_congr
        intro f _
        rw [Bool.eq_iff_iff, Bool.and_eq_true, decide_eq_true_iff, decide_eq_true_iff,
          decide_eq_true_iff, List.map_cons, List.forall_mem_cons, and_comm]
      rw [hsplit, run_cons]
      exact (List.IsPrefix.filter _ (prefix_handle hcall h s)).trans (ih hrest _)

/-- Only the first folders may hold a folder more than once. -/
theorem occurrences_run (s : Server) (p : Path) :
    p.occurrences (s.run steps).folders ≤ max 1 (p.occurrences s.folders) := by
  induction steps generalizing s with
  | nil => exact Nat.le_max_right ..
  | cons step steps ih =>
      obtain ⟨h, call⟩ := step
      have hcall : call.begins = false := hsteps _ List.mem_cons_self
      have hrest := (List.forall_mem_cons.mp hsteps).2
      have hfirst := occurrences_handle hcall h s p
      have hlater := ih hrest (s.handle h call).value.1
      rw [run_cons]
      omega

end

/-- **The last change that names a folder decides whether it is there.**  A session
begins with the folders of the workspace, or else with the root.  After any calls
a folder is there exactly if the last change that names it adds it, or if no
change names it and it was there at the beginning; a change that removes it and
adds it leaves it there.  No folder is there more than once, or more often than at
the beginning.  What is not removed from some moment on stays in its order, and
before all that is added later. -/
theorem last_change_decides_folders {steps : List (Host × Call)}
    (hsteps : ∀ step ∈ steps, step.2.begins = false) (s : Server) (h : Host)
    (options : Option Json) (given : Option (List Url)) (root : Option Url) :
    (initialFolders given root =
      match given with
      | some urls => urls.filterMap Url.filePath?
      | none => root.toList.filterMap Url.filePath?) ∧
    (∀ p : Path, p.IsAmong (s.run ((h, .began options given root) :: steps)).folders ↔
      LastAdded p (steps.map Prod.snd) ∨
        ((∀ call ∈ steps.map Prod.snd, ¬ call.Names p) ∧ p.IsAmong (initialFolders given root))) ∧
    (∀ (host : Host) (added removed : List Url) (p : Path),
      p.IsAmong (added.filterMap Url.filePath?) →
      p.IsAmong ((s.run ((h, .began options given root) :: steps)).handle host
        (.foldersChanged added removed)).value.1.folders) ∧
    (∀ p : Path, p.occurrences (s.run ((h, .began options given root) :: steps)).folders ≤
      max 1 (p.occurrences (initialFolders given root))) ∧
    ∀ earlier later : List (Host × Call), steps = earlier ++ later →
      ((s.run ((h, .began options given root) :: earlier)).folders.filter fun f =>
          decide (∀ call ∈ later.map Prod.snd, ¬ f.IsAmong call.removed)) <+:
        (s.run ((h, .began options given root) :: steps)).folders := by
  have hbegan := folders_began h s options given root
  refine ⟨by cases given <;> rfl, fun p => ?_, fun host added removed p hadded => ?_, fun p => ?_,
    ?_⟩
  · rw [run_cons, isAmong_run hsteps, hbegan]
  · exact (isAmong_handle rfl host _).mpr (.inl hadded)
  · rw [run_cons, ← hbegan]
    exact occurrences_run hsteps _ p
  · rintro earlier later rfl
    have hlater : ∀ step ∈ later, step.2.begins = false := fun step hstep =>
      hsteps step (List.mem_append_right earlier hstep)
    rw [← List.cons_append, run_append]
    exact prefix_run hlater _

/-- A folder is added, a document is saved, and a folder is removed and added in one
change. -/
def threeSteps : List (Host × Call) :=
  [(.bare, .foldersChanged [.ofNames ["b"]] []), (.bare, .saved (.ofNames ["b", "M"])),
    (.bare, .foldersChanged [.ofNames ["a"]] [.ofNames ["a", ""]])]

/-- The folder `/a`, which is there twice at the beginning, is there after its
removal, since it is added again; `/c` is not named and stays, before `/b`. -/
theorem last_change_decides_folders_threeSteps :
    (∀ step ∈ threeSteps, step.2.begins = false) ∧
      (⟨"/a"⟩ : Path).IsAmong ((ofSettings .default).run ((.bare, .began none
        (some [.ofNames ["a"], .ofNames ["c"], .ofNames ["a", ""]]) none) ::
          threeSteps)).folders ∧
      (⟨"/c/"⟩ : Path).IsAmong ((ofSettings .default).run ((.bare, .began none
        (some [.ofNames ["a"], .ofNames ["c"], .ofNames ["a", ""]]) none) ::
          threeSteps)).folders ∧
      [⟨"/c"⟩, ⟨"/b"⟩] <+: ((ofSettings .default).run ((.bare, .began none
        (some [.ofNames ["a"], .ofNames ["c"], .ofNames ["a", ""]]) none) ::
          threeSteps)).folders := by
  have hsteps : ∀ step ∈ threeSteps, step.2.begins = false := by decide +kernel
  obtain ⟨_, hmem, _, _, horder⟩ := last_change_decides_folders hsteps (.ofSettings .default)
    .bare none (some [.ofNames ["a"], .ofNames ["c"], .ofNames ["a", ""]]) none
  refine ⟨hsteps, (hmem _).mpr (.inl ?_), (hmem _).mpr (.inr ?_), ?_⟩
  · exact ⟨[_, _], _, [], rfl, by decide +kernel, fun c hc => absurd hc List.not_mem_nil⟩
  · decide +kernel
  · have hkept := horder (threeSteps.take 2) (threeSteps.drop 2) rfl
    have hlist : ((ofSettings .default).run ((.bare, .began none
        (some [.ofNames ["a"], .ofNames ["c"], .ofNames ["a", ""]]) none) ::
          threeSteps.take 2)).folders.filter (fun f =>
            decide (∀ call ∈ (threeSteps.drop 2).map Prod.snd, ¬ f.IsAmong call.removed)) =
        [⟨"/c"⟩, ⟨"/b"⟩] := by decide +kernel
    rwa [hlist] at hkept

end Server

end ChapelCheck
