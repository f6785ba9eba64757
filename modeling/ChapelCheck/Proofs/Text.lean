import ChapelCheck.Text.Blank
import ChapelCheck.Text.Split

/-!
# ChapelCheck.Proofs.Text

The laws of the text operations that readers of compiler output are built on:

* `trim_margins` — blanks around a text say nothing to `trim`, and
  `trimmed_trim`, `trim_eq_self` — what `trim` leaves is what has no blank at
  its ends;
* `cut_append` — a text is cut at its first separator;
* `pieces_append_cons` — the pieces of a text with a separator in it are those
  before it and those after it, and `joinPieces_pieces`, `pieces_joinPieces` —
  a text can be taken to pieces and put together;
* `filterMap_lines_trim` — a reader that is blind to blanks around a line reads
  the same in the lines of the trimmed text and in the pieces between the line
  feeds of the whole one, and `filterMap_pieces_withReturns` — it does not see
  whether lines end in a carriage return.
-/

namespace ChapelCheck.Text

/-! ## blanks -/

/-- A text of blanks only. -/
def AllBlank (cs : List Char) : Prop := ∀ c ∈ cs, isBlank c = true

/-- A text without a blank at either end. -/
def Trimmed (cs : List Char) : Prop :=
  (∀ c, cs.head? = some c → isBlank c = false) ∧
    ∀ c, cs.getLast? = some c → isBlank c = false

theorem allBlank_nil : AllBlank [] := fun _ h => absurd h List.not_mem_nil

theorem AllBlank.reverse {cs : List Char} (h : AllBlank cs) : AllBlank cs.reverse :=
  fun c hc => h c (List.mem_reverse.mp hc)

/-- A character that is no blank does not occur among blanks. -/
theorem AllBlank.not_mem {cs : List Char} (h : AllBlank cs) {c : Char} (hc : isBlank c = false) :
    c ∉ cs := by
  intro hmem
  rw [h c hmem] at hc
  contradiction

theorem allBlank_of_isBlankText {s : String} (h : isBlankText s = true) : AllBlank s.toList :=
  List.all_eq_true.mp h

/-- What precedes the trimmed start of a text is blank. -/
theorem allBlank_takeWhile (cs : List Char) : AllBlank (cs.takeWhile isBlank) :=
  List.all_eq_true.mp List.all_takeWhile

/-! ## trimming -/

/-- Blanks before a text say nothing to `trimStart`. -/
theorem trimStart_append {w : List Char} (hw : AllBlank w) (cs : List Char) :
    trimStart (w ++ cs) = trimStart cs :=
  List.dropWhile_append_of_pos hw

theorem trimStart_of_allBlank {w : List Char} (hw : AllBlank w) : trimStart w = [] := by
  have h := trimStart_append hw []
  rw [List.append_nil] at h
  exact h

/-- A text that starts with no blank has nothing to trim there. -/
theorem trimStart_eq_self {cs : List Char} (h : ∀ c, cs.head? = some c → isBlank c = false) :
    trimStart cs = cs := by
  cases cs with
  | nil => rfl
  | cons c cs =>
      have hc : isBlank c = false := h c rfl
      rw [trimStart, List.dropWhile_cons_of_neg (by simp [hc])]

/-- What is left by `trimStart` starts with no blank. -/
theorem head?_trimStart {cs : List Char} {c : Char} (h : (trimStart cs).head? = some c) :
    isBlank c = false := by
  have hnot := List.head?_dropWhile_not isBlank cs
  rw [trimStart] at h
  rw [h] at hnot
  exact hnot

/-- Blanks behind a text say nothing to `trimEnd`. -/
theorem trimEnd_append {v : List Char} (hv : AllBlank v) (cs : List Char) :
    trimEnd (cs ++ v) = trimEnd cs := by
  rw [trimEnd, List.reverse_append, trimStart_append hv.reverse, trimEnd]

theorem trimEnd_eq_self {cs : List Char} (h : ∀ c, cs.getLast? = some c → isBlank c = false) :
    trimEnd cs = cs := by
  have hrev : trimStart cs.reverse = cs.reverse := by
    apply trimStart_eq_self
    intro c hc
    rw [List.head?_reverse] at hc
    exact h c hc
  rw [trimEnd, hrev, List.reverse_reverse]

/-- A text is what `trimEnd` leaves, with blanks behind it. -/
theorem exists_trimEnd (cs : List Char) : ∃ v, AllBlank v ∧ cs = trimEnd cs ++ v := by
  refine ⟨(cs.reverse.takeWhile isBlank).reverse, (allBlank_takeWhile _).reverse, ?_⟩
  rw [trimEnd, trimStart, ← List.reverse_append, List.takeWhile_append_dropWhile,
    List.reverse_reverse]

/-- Blanks around a text say nothing to `trim`. -/
theorem trim_margins {w v : List Char} (hw : AllBlank w) (hv : AllBlank v) (cs : List Char) :
    trim (w ++ cs ++ v) = trim cs := by
  rw [trim, List.append_assoc, trimStart_append hw]
  by_cases hcs : trimStart cs = []
  · -- only blanks are left, and the blanks behind them go the same way
    have hall : trimStart (cs ++ v) = trimStart v := by
      rw [trimStart, List.dropWhile_append]
      rw [trimStart] at hcs
      simp [hcs, trimStart]
    rw [hall, trimStart_of_allBlank hv, trim, hcs]
  · have hkeep : trimStart (cs ++ v) = trimStart cs ++ v := by
      rw [trimStart, List.dropWhile_append]
      rw [trimStart] at hcs
      simp [hcs, trimStart]
    rw [hkeep, trimEnd_append hv, trim]

/-- A text is what `trim` leaves, with blanks around it. -/
theorem exists_margins (cs : List Char) :
    ∃ w v, AllBlank w ∧ AllBlank v ∧ cs = w ++ trim cs ++ v := by
  obtain ⟨v, hv, hend⟩ := exists_trimEnd (trimStart cs)
  refine ⟨cs.takeWhile isBlank, v, allBlank_takeWhile cs, hv, ?_⟩
  rw [trim, List.append_assoc, ← hend, trimStart, List.takeWhile_append_dropWhile]

/-- What `trim` leaves has no blank at its ends. -/
theorem trimmed_trim (cs : List Char) : Trimmed (trim cs) := by
  constructor
  · intro c hc
    obtain ⟨v, _, hend⟩ := exists_trimEnd (trimStart cs)
    have hstart : (trimStart cs).head? = some c := by
      rw [trim] at hc
      rw [hend, List.head?_append, hc, Option.some_or]
    exact head?_trimStart hstart
  · intro c hc
    rw [trim, trimEnd, List.getLast?_reverse] at hc
    exact head?_trimStart hc

/-- Only texts with a blank at an end are changed by `trim`. -/
theorem trim_eq_self {cs : List Char} (h : Trimmed cs) : trim cs = cs := by
  rw [trim, trimStart_eq_self h.1, trimEnd_eq_self h.2]

/-- A text has no blank at its ends exactly if there is nothing to trim. -/
theorem trimmed_iff {cs : List Char} : Trimmed cs ↔ trim cs = cs :=
  ⟨trim_eq_self, fun h => h ▸ trimmed_trim cs⟩

instance (cs : List Char) : Decidable (Trimmed cs) := decidable_of_iff _ trimmed_iff.symm

/-- A text without blanks at its ends is read out of any blanks around it. -/
theorem trim_margins_of_trimmed {w v cs : List Char} (hw : AllBlank w) (hv : AllBlank v)
    (h : Trimmed cs) : trim (w ++ cs ++ v) = cs := by
  rw [trim_margins hw hv, trim_eq_self h]

/-- Of blanks without a blank at their ends there are none. -/
theorem Trimmed.eq_nil_of_allBlank {cs : List Char} (h : Trimmed cs) (hblank : AllBlank cs) :
    cs = [] := by
  rw [← trim_eq_self h, trim, trimStart_of_allBlank hblank]
  rfl

/-- Texts without blanks at their ends can be put together. -/
theorem Trimmed.append {a b : List Char} (ha : Trimmed a) (hb : Trimmed b) : Trimmed (a ++ b) := by
  constructor
  · intro c hc
    rw [List.head?_append, Option.or_eq_some_iff] at hc
    exact hc.elim (ha.1 c) fun h => hb.1 c h.2
  · intro c hc
    rw [List.getLast?_append, Option.or_eq_some_iff] at hc
    exact hc.elim (hb.2 c) fun h => ha.2 c h.2

/-- Nothing is in a trimmed text that was not there before. -/
theorem mem_of_mem_trim {cs : List Char} {c : Char} (h : c ∈ trim cs) : c ∈ cs := by
  obtain ⟨w, v, _, _, hcs⟩ := exists_margins cs
  rw [hcs]
  exact List.mem_append_left v (List.mem_append_right w h)

/-- Nothing is left of a text by trimming exactly if it is all blanks. -/
theorem trimmed_eq_empty_iff {s : String} : trimmed s = "" ↔ isBlankText s = true := by
  have hempty : trimmed s = "" ↔ trim s.toList = [] := by
    rw [← String.toList_inj, toList_trimmed]
    rfl
  rw [hempty]
  constructor
  · intro h
    obtain ⟨w, v, hw, hv, hs⟩ := exists_margins s.toList
    rw [h, List.append_nil] at hs
    rw [isBlankText, hs, List.all_append, List.all_eq_true.mpr hw, List.all_eq_true.mpr hv,
      Bool.and_self]
  · intro h
    rw [trim, trimStart_of_allBlank (allBlank_of_isBlankText h)]
    rfl

/-- A character that is no blank ends the blanks before it. -/
theorem trimStart_append_cons {c : Char} (hc : isBlank c = false) (a b : List Char) :
    trimStart (a ++ c :: b) = trimStart a ++ c :: b := by
  rw [trimStart, List.dropWhile_append, trimStart]
  split
  · next h => rw [List.isEmpty_iff.mp h, List.dropWhile_cons_of_neg (by simp [hc]), List.nil_append]
  · rfl

theorem trimEnd_append_cons {c : Char} (hc : isBlank c = false) (a b : List Char) :
    trimEnd (a ++ c :: b) = a ++ c :: trimEnd b := by
  have hreverse : (a ++ c :: b).reverse = b.reverse ++ c :: a.reverse := by simp
  rw [trimEnd, hreverse, trimStart_append_cons hc, trimEnd]
  simp

/-- What stands around a character that is no blank is trimmed on its outer side. -/
theorem trim_append_cons {c : Char} (hc : isBlank c = false) (a b : List Char) :
    trim (a ++ c :: b) = trimStart a ++ c :: trimEnd b := by
  rw [trim, trimStart_append_cons hc, trimEnd_append_cons hc]

/-! ## cutting -/

/-- A text without the separator is not cut. -/
theorem cut_of_not_mem {sep : Char} {a : List Char} (h : sep ∉ a) : cut sep a = (a, none) := by
  induction a with
  | nil => rfl
  | cons c cs ih =>
      have hc : c ≠ sep := fun hc => h (hc ▸ List.mem_cons_self)
      have hcs : sep ∉ cs := fun hmem => h (List.mem_cons_of_mem c hmem)
      rw [cut_cons_of_ne hc, ih hcs]

/-- A text is cut at its first separator. -/
theorem cut_append {sep : Char} {a : List Char} (h : sep ∉ a) (b : List Char) :
    cut sep (a ++ sep :: b) = (a, some b) := by
  induction a with
  | nil => exact cut_cons_self sep b
  | cons c cs ih =>
      have hc : c ≠ sep := fun hc => h (hc ▸ List.mem_cons_self)
      have hcs : sep ∉ cs := fun hmem => h (List.mem_cons_of_mem c hmem)
      rw [List.cons_append, cut_cons_of_ne hc, ih hcs]

/-! ## pieces -/

/-- The pieces are those of the library's splitting. -/
theorem pieces_eq_splitOn (sep : Char) (cs : List Char) : pieces sep cs = cs.splitOn sep := by
  induction cs with
  | nil => rfl
  | cons c cs ih =>
      rw [List.splitOn_cons_eq_if_modifyHead, ← ih]
      by_cases hc : c = sep
      · rw [hc, pieces_cons_self, if_pos BEq.rfl]
      · rw [pieces_cons_of_ne hc, if_neg (by simp [hc])]
        cases hps : pieces sep cs with
        | nil => exact absurd (ih.symm.trans hps) (List.splitOn_ne_nil sep cs)
        | cons p ps => rfl

/-- The pieces of a text with a separator in it are those before it and those
after it. -/
theorem pieces_append_cons (sep : Char) (a b : List Char) :
    pieces sep (a ++ sep :: b) = pieces sep a ++ pieces sep b := by
  simp only [pieces_eq_splitOn, List.splitOn_append_cons_self]

/-- A text without the separator is one piece. -/
theorem pieces_of_not_mem {sep : Char} {a : List Char} (h : sep ∉ a) : pieces sep a = [a] := by
  rw [pieces_eq_splitOn, List.splitOn_eq_singleton h]

/-- Text before the first separator belongs to the first piece. -/
theorem exists_pieces_append_left {sep : Char} {w : List Char} (hw : sep ∉ w) (cs : List Char) :
    ∃ p ps, pieces sep cs = p :: ps ∧ pieces sep (w ++ cs) = (w ++ p) :: ps := by
  by_cases h : sep ∈ cs
  · obtain ⟨a, b, hcs, ha⟩ := List.eq_append_cons_of_mem h
    refine ⟨a, pieces sep b, ?_, ?_⟩
    · rw [hcs, pieces_append_cons, pieces_of_not_mem ha, List.singleton_append]
    · have hwa : sep ∉ w ++ a := by simp [hw, ha]
      rw [hcs, ← List.append_assoc, pieces_append_cons, pieces_of_not_mem hwa,
        List.singleton_append]
  · have hwcs : sep ∉ w ++ cs := by simp [hw, h]
    exact ⟨cs, [], pieces_of_not_mem h, pieces_of_not_mem hwcs⟩

/-- Text behind the last separator belongs to the last piece. -/
theorem exists_pieces_append_right {sep : Char} {v : List Char} (hv : sep ∉ v) (cs : List Char) :
    ∃ ps p, pieces sep cs = ps ++ [p] ∧ pieces sep (cs ++ v) = ps ++ [p ++ v] := by
  induction cs with
  | nil => exact ⟨[], [], rfl, pieces_of_not_mem hv⟩
  | cons c cs ih =>
      obtain ⟨ps, p, hcs, hcsv⟩ := ih
      by_cases hc : c = sep
      · refine ⟨[] :: ps, p, ?_, ?_⟩
        · rw [hc, pieces_cons_self, hcs, List.cons_append]
        · rw [hc, List.cons_append, pieces_cons_self, hcsv, List.cons_append]
      · rw [List.cons_append, pieces_cons_of_ne hc, pieces_cons_of_ne hc, hcs, hcsv]
        cases ps with
        | nil => exact ⟨[], c :: p, rfl, rfl⟩
        | cons q qs => exact ⟨(c :: q) :: qs, p, rfl, rfl⟩

/-- A text has a piece, even if it is empty. -/
theorem pieces_ne_nil (sep : Char) (cs : List Char) : pieces sep cs ≠ [] := by
  rw [pieces_eq_splitOn]
  exact List.splitOn_ne_nil sep cs

/-- Pieces are put together as the library does it. -/
theorem joinPieces_eq_intercalate (sep : Char) (ps : List (List Char)) :
    joinPieces sep ps = [sep].intercalate ps := by
  induction ps using joinPieces.induct with
  | case1 => rfl
  | case2 p => simp [joinPieces]
  | case3 p q ps ih => rw [joinPieces, ih, List.intercalate_cons_cons, List.append_cons]

/-- The pieces of a text put together are the text. -/
theorem joinPieces_pieces (sep : Char) (cs : List Char) : joinPieces sep (pieces sep cs) = cs := by
  rw [joinPieces_eq_intercalate, pieces_eq_splitOn, List.intercalate_splitOn]

/-- Pieces without the separator are found again in what they are put together to. -/
theorem pieces_joinPieces {sep : Char} {ps : List (List Char)} (hne : ps ≠ [])
    (hps : ∀ p ∈ ps, sep ∉ p) : pieces sep (joinPieces sep ps) = ps := by
  rw [joinPieces_eq_intercalate, pieces_eq_splitOn, List.splitOn_intercalate sep hps hne]

theorem joinPieces_append (sep : Char) {ps qs : List (List Char)} (hps : ps ≠ []) (hqs : qs ≠ []) :
    joinPieces sep (ps ++ qs) = joinPieces sep ps ++ sep :: joinPieces sep qs := by
  induction ps using joinPieces.induct with
  | case1 => contradiction
  | case2 p =>
      cases qs with
      | nil => contradiction
      | cons q qs => rfl
  | case3 p q ps ih =>
      have hrest := ih (List.cons_ne_nil q ps)
      rw [List.cons_append, List.cons_append, joinPieces, ← List.cons_append, hrest, joinPieces,
        List.append_assoc, List.cons_append]

/-- No piece holds a separator. -/
theorem not_mem_of_mem_pieces {sep : Char} {cs p : List Char} (h : p ∈ pieces sep cs) :
    sep ∉ p := by
  induction cs generalizing p with
  | nil => rw [List.mem_singleton.mp h]; exact List.not_mem_nil
  | cons c cs ih =>
      by_cases hc : c = sep
      · rw [hc, pieces_cons_self, List.mem_cons] at h
        cases h with
        | inl h => rw [h]; exact List.not_mem_nil
        | inr h => exact ih h
      · rw [pieces_cons_of_ne hc] at h
        cases hps : pieces sep cs with
        | nil => exact absurd hps (pieces_ne_nil sep cs)
        | cons q qs =>
            rw [hps, consPiece, List.mem_cons] at h
            cases h with
            | inl h =>
                have hq : sep ∉ q := ih (by rw [hps]; exact List.mem_cons_self)
                rw [h, List.mem_cons]
                exact fun hor => hor.elim (fun heq => hc heq.symm) hq
            | inr h => exact ih (by rw [hps]; exact List.mem_cons_of_mem q h)

/-! ## lines -/

/-- At most a carriage return is dropped from the end of a line. -/
theorem dropReturn_cases (l : List Char) : dropReturn l = l ∨ l = dropReturn l ++ ['\r'] := by
  induction l using dropReturn.induct with
  | case1 => exact .inl rfl
  | case2 => exact .inr rfl
  | case3 c cs hne ih =>
      rw [dropReturn]
      · cases ih with
        | inl h => exact .inl (by rw [h])
        | inr h => exact .inr (by rw [List.cons_append, ← h])
      · exact hne

/-- A text with a carriage return before each of its line feeds. -/
def withReturns (cs : List Char) : List Char :=
  cs.flatMap fun c => if c = '\n' then ['\r', '\n'] else [c]

theorem withReturns_cons_feed (cs : List Char) :
    withReturns ('\n' :: cs) = '\r' :: '\n' :: withReturns cs := rfl

theorem withReturns_cons_of_ne {c : Char} (h : c ≠ '\n') (cs : List Char) :
    withReturns (c :: cs) = c :: withReturns cs := by
  rw [withReturns, List.flatMap_cons, if_neg h, List.singleton_append, withReturns]

theorem allBlank_return : AllBlank ['\r'] := by
  intro c hc
  rw [List.mem_singleton.mp hc]
  rfl

/-- A reader of lines to which the blanks around a line say nothing, and which
finds nothing in an empty line. -/
structure BlankBlind {β : Type} (read : List Char → Option β) : Prop where
  margins : ∀ {w v : List Char}, AllBlank w → AllBlank v → ∀ l, read (w ++ l ++ v) = read l
  nil : read [] = none

namespace BlankBlind

variable {β : Type} {read : List Char → Option β}

theorem append (h : BlankBlind read) {v : List Char} (hv : AllBlank v) (l : List Char) :
    read (l ++ v) = read l := by
  simpa using h.margins allBlank_nil hv l

theorem dropReturn (h : BlankBlind read) (l : List Char) : read (dropReturn l) = read l := by
  cases dropReturn_cases l with
  | inl hl => rw [hl]
  | inr hl =>
      have hread := h.append allBlank_return (Text.dropReturn l)
      rw [← hl] at hread
      exact hread.symm

/-- Line ends say nothing to a reader that is blind to blanks. -/
theorem filterMap_endedLines (h : BlankBlind read) (ps : List (List Char)) :
    (endedLines ps).filterMap read = ps.filterMap read := by
  induction ps using endedLines.induct with
  | case1 => rfl
  | case2 p hp =>
      have hnil : p = [] := List.isEmpty_iff.mp hp
      rw [endedLines, if_pos hp, hnil, List.filterMap_cons_none h.nil]
  | case3 p hp => rw [endedLines, if_neg hp]
  | case4 p q ps ih => rw [endedLines, List.filterMap_cons, List.filterMap_cons, ih, h.dropReturn]

/-- Blanks before a text, which may hold line feeds, say nothing. -/
theorem filterMap_pieces_prepend (h : BlankBlind read) {w : List Char} (hw : AllBlank w)
    (cs : List Char) :
    (pieces '\n' (w ++ cs)).filterMap read = (pieces '\n' cs).filterMap read := by
  induction w with
  | nil => rfl
  | cons c w ih =>
      have hrest := ih fun d hd => hw d (List.mem_cons_of_mem c hd)
      rw [List.cons_append]
      by_cases hc : c = '\n'
      · rw [hc, pieces_cons_self, List.filterMap_cons_none h.nil, hrest]
      · have hnew : '\n' ∉ [c] := fun hmem => hc (List.mem_singleton.mp hmem).symm
        have hblank : AllBlank [c] := by
          intro d hd
          rw [List.mem_singleton.mp hd]
          exact hw c List.mem_cons_self
        obtain ⟨p, ps, htail, hwhole⟩ := exists_pieces_append_left hnew (w ++ cs)
        have hp : read ([c] ++ p) = read p := by
          simpa using h.margins hblank allBlank_nil p
        rw [← hrest, htail, ← List.singleton_append, hwhole, List.filterMap_cons,
          List.filterMap_cons, hp]

/-- Blanks behind a text, which may hold line feeds, say nothing. -/
theorem filterMap_pieces_append (h : BlankBlind read) {v : List Char} (hv : AllBlank v)
    (cs : List Char) :
    (pieces '\n' (cs ++ v)).filterMap read = (pieces '\n' cs).filterMap read := by
  have hlast : ∀ {a : List Char}, '\n' ∉ a → AllBlank a →
      (pieces '\n' (cs ++ a)).filterMap read = (pieces '\n' cs).filterMap read := by
    intro a ha hblank
    obtain ⟨ps, p, hcs, hcsa⟩ := exists_pieces_append_right ha cs
    have hp := h.append hblank p
    rw [hcs, hcsa, List.filterMap_append, List.filterMap_append, List.filterMap_cons,
      List.filterMap_cons, hp]
  by_cases hmem : '\n' ∈ v
  · obtain ⟨a, b, hab, ha⟩ := List.eq_append_cons_of_mem hmem
    have hblank : AllBlank a := fun c hc => hv c (by rw [hab]; exact List.mem_append_left _ hc)
    have hbblank : AllBlank b := fun c hc => hv c (by rw [hab]; simp [hc])
    have hb : (pieces '\n' b).filterMap read = [] := by
      have hempty := h.filterMap_pieces_prepend hbblank []
      rw [List.append_nil] at hempty
      rw [hempty, pieces_nil, List.filterMap_cons_none h.nil, List.filterMap_nil]
    rw [hab, ← List.append_assoc, pieces_append_cons, List.filterMap_append, hb, List.append_nil,
      hlast ha hblank]
  · exact hlast hmem hv

/-- **Lines of a trimmed text**: to a reader that is blind to blanks they are
the pieces between the line feeds of the whole text. -/
theorem filterMap_lines_trim (h : BlankBlind read) (cs : List Char) :
    (lines (trim cs)).filterMap read = (pieces '\n' cs).filterMap read := by
  obtain ⟨w, v, hw, hv, hcs⟩ := exists_margins cs
  have hpieces : (pieces '\n' cs).filterMap read = (pieces '\n' (trim cs)).filterMap read := by
    have hmargins := h.filterMap_pieces_append hv (w ++ trim cs)
    rw [← hcs] at hmargins
    rw [hmargins, h.filterMap_pieces_prepend hw]
  rw [lines, h.filterMap_endedLines, hpieces]

/-- Carriage returns before line feeds say nothing behind the start of a line. -/
theorem filterMap_pieces_append_withReturns (h : BlankBlind read) {start : List Char}
    (hstart : '\n' ∉ start) (cs : List Char) :
    (pieces '\n' (start ++ withReturns cs)).filterMap read =
      (pieces '\n' (start ++ cs)).filterMap read := by
  -- a character that ends no line moves to the start of the line
  induction cs generalizing start with
  | nil => rfl
  | cons c cs ih =>
      by_cases hc : c = '\n'
      · have hreturn : '\n' ∉ start ++ ['\r'] := by simp [hstart]
        have hnil : '\n' ∉ ([] : List Char) := List.not_mem_nil
        have hrest := ih hnil
        rw [List.nil_append, List.nil_append] at hrest
        rw [hc, withReturns_cons_feed, List.append_cons, pieces_append_cons, pieces_append_cons,
          pieces_of_not_mem hreturn, pieces_of_not_mem hstart, List.filterMap_append,
          List.filterMap_append, hrest, List.filterMap_cons, List.filterMap_cons,
          h.append allBlank_return]
      · have hlonger : '\n' ∉ start ++ [c] := by simp [hstart, Ne.symm hc]
        rw [withReturns_cons_of_ne hc, List.append_cons, ih hlonger, ← List.append_cons]

/-- **Line ends**: a reader that is blind to blanks does not see whether lines
end in a carriage return. -/
theorem filterMap_pieces_withReturns (h : BlankBlind read) (cs : List Char) :
    (pieces '\n' (withReturns cs)).filterMap read = (pieces '\n' cs).filterMap read := by
  have hnil : '\n' ∉ ([] : List Char) := List.not_mem_nil
  exact h.filterMap_pieces_append_withReturns hnil cs

end BlankBlind

end ChapelCheck.Text
