import Mathlib.Logic.Relation
import ChapelCheck.Diagnostic.Output
import ChapelCheck.Proofs.Diagnostic.Line

/-!
# ChapelCheck.Proofs.Diagnostic.Output

Whole outputs, line by line.

An output is trimmed before it is split, and line ends have rules of their own;
none of this can be seen in what is read:

* `parseOutput_eq_pieces` — the diagnostics of an output are those of the
  pieces between its line feeds, in order;
* `verdicts_append`, `verdicts_withReturns` — what the lines of an output amount
  to, errors included, is independent of the lines around them and of how lines
  end;
* `filter_parseOutput_of_addLines` — lines put into an output at line
  boundaries (`AddLines`) change no selection of its diagnostics that says
  nothing about these lines.
-/

namespace ChapelCheck.Diagnostic

open Text

/-! ## the verdicts on the lines -/

/-- What a reading says, without the spelling of its line. -/
def Reading.verdict : Reading → Except LineError Diagnostic
  | .diagnostic d => .ok d
  | .unnumbered _ cause => .error cause

/-- The verdicts on an output, line by line. -/
def verdicts (output : String) : List (Except LineError Diagnostic) :=
  (readOutput output).map Reading.verdict

/-- The verdict on one line, unless it has too few fields for one. -/
def verdict? (line : List Char) : Option (Except LineError Diagnostic) :=
  match parseChars line with
  | .error .tooFewFields => none
  | answer => some answer

/-- The verdict of a line's reading is the line's. -/
theorem map_readLine (line : List Char) : (readLine line).map Reading.verdict = verdict? line := by
  rw [readLine, verdict?]
  cases parseChars line with
  | ok d => rfl
  | error e => cases e <;> rfl

/-- Blanks around a line say nothing about the verdict on it. -/
theorem blankBlind_verdict? : BlankBlind verdict? where
  margins hw hv l := by rw [verdict?, parseChars_margins hw hv, verdict?]
  nil := rfl

/-- The verdicts on an output are those on the pieces between its line feeds. -/
theorem verdicts_eq_pieces (output : String) :
    verdicts output = (pieces '\n' output.toList).filterMap verdict? := by
  rw [verdicts, readOutput, List.map_filterMap]
  simp only [map_readLine]
  exact blankBlind_verdict?.filterMap_lines_trim output.toList

/-- **Outputs put together**: the verdicts on two outputs with a line feed
between them are those on the one and then those on the other. -/
theorem verdicts_append (a b : String) : verdicts (a ++ "\n" ++ b) = verdicts a ++ verdicts b := by
  have hfeed : (a ++ "\n" ++ b).toList = a.toList ++ '\n' :: b.toList := by simp
  rw [verdicts_eq_pieces, hfeed, pieces_append_cons, List.filterMap_append, ← verdicts_eq_pieces,
    ← verdicts_eq_pieces]

/-- Carriage returns at the ends of lines change no verdict. -/
theorem verdicts_withReturns (output : String) :
    verdicts (String.ofList (withReturns output.toList)) = verdicts output := by
  rw [verdicts_eq_pieces, String.toList_ofList, blankBlind_verdict?.filterMap_pieces_withReturns,
    ← verdicts_eq_pieces]

/-! ## the diagnostics of the lines -/

/-- The diagnostic that a line stands for, if it stands for one. -/
def ofLine? (line : List Char) : Option Diagnostic := (parseChars line).toOption

/-- A line stands for a diagnostic if that is the verdict on it. -/
theorem bind_verdict? (line : List Char) : (verdict? line).bind Except.toOption = ofLine? line := by
  rw [verdict?, ofLine?]
  cases parseChars line with
  | ok d => rfl
  | error e => cases e <;> rfl

/-- The diagnostics of an output are among the verdicts on it. -/
theorem parseOutput_eq_verdicts (output : String) :
    parseOutput output = (verdicts output).filterMap Except.toOption := by
  rw [parseOutput, verdicts, List.filterMap_map]
  congr 1
  funext r
  cases r <;> rfl

theorem parseOutput_append (a b : String) :
    parseOutput (a ++ "\n" ++ b) = parseOutput a ++ parseOutput b := by
  simp only [parseOutput_eq_verdicts, verdicts_append, List.filterMap_append]

/-- **Outputs line by line**: the diagnostics of an output are those of the
pieces between its line feeds. -/
theorem parseOutput_eq_pieces (output : String) :
    parseOutput output = (pieces '\n' output.toList).filterMap ofLine? := by
  rw [parseOutput_eq_verdicts, verdicts_eq_pieces, List.filterMap_filterMap]
  simp only [bind_verdict?]

/-- Every diagnostic of an output is one that a line can stand for. -/
theorem renderable_of_mem_parseOutput {output : String} {d : Diagnostic}
    (h : d ∈ parseOutput output) : d.Renderable := by
  rw [parseOutput_eq_pieces, List.mem_filterMap] at h
  obtain ⟨line, _, hline⟩ := h
  rw [ofLine?] at hline
  cases hread : parseChars line with
  | error e => rw [hread] at hline; contradiction
  | ok e =>
      rw [hread] at hline
      have hparse : parse (String.ofList line) = .ok d := by
        rw [parse, String.toList_ofList, hread, Option.some.inj hline]
      exact renderable_of_parse hparse

/-- The message of a diagnostic of an output is blank only if it is empty. -/
theorem isBlankText_message_iff {output : String} {d : Diagnostic} (h : d ∈ parseOutput output) :
    isBlankText d.message = true ↔ d.message = "" := by
  constructor
  · intro hblank
    have hnil : d.message.toList = [] :=
      (renderable_of_mem_parseOutput h).trimmed_message.eq_nil_of_allBlank
        (allBlank_of_isBlankText hblank)
    exact String.toList_eq_nil_iff.mp hnil
  · intro hempty
    rw [hempty]
    rfl

/-! ## lines put into an output -/

/-- A text at whose end a line begins. -/
def AtLineStart (text : List Char) : Prop := text = [] ∨ ∃ before, text = before ++ ['\n']

/-- `AddLine P text text'`: a line with the property `P` is put into `text` at
a line boundary.  It stands before a line, or it is the last line and has no
line end, behind lines that may or may not have one. -/
inductive AddLine (P : List Char → Prop) : List Char → List Char → Prop where
  | before {start : List Char} (rest : List Char) {line : List Char} (hstart : AtLineStart start)
      (hline : '\n' ∉ line) (h : P line) :
      AddLine P (start ++ rest) (start ++ (line ++ '\n' :: rest))
  | last {start line : List Char} (hstart : AtLineStart start) (hline : '\n' ∉ line) (h : P line) :
      AddLine P start (start ++ line)
  | behind (text : List Char) {line : List Char} (hline : '\n' ∉ line) (h : P line) :
      AddLine P text (text ++ '\n' :: line)

/-- Any number of lines with the property `P` are put into an output. -/
def AddLines (P : List Char → Prop) (output output' : String) : Prop :=
  Relation.ReflTransGen (AddLine P) output.toList output'.toList

/-- What a reader finds before and after the start of a line is independent. -/
theorem filterMap_pieces_of_atLineStart {β : Type} {read : List Char → Option β}
    (hnil : read [] = none) {start : List Char} (hstart : AtLineStart start) (rest : List Char) :
    (pieces '\n' (start ++ rest)).filterMap read =
      (pieces '\n' start).filterMap read ++ (pieces '\n' rest).filterMap read := by
  cases hstart with
  | inl hempty =>
      rw [hempty, List.nil_append, pieces_nil, List.filterMap_cons_none hnil, List.filterMap_nil,
        List.nil_append]
  | inr hended =>
      obtain ⟨before, hbefore⟩ := hended
      rw [hbefore, List.append_assoc, List.singleton_append, pieces_append_cons,
        pieces_append_cons, List.filterMap_append, List.filterMap_append, pieces_nil,
        List.filterMap_cons_none hnil, List.filterMap_nil, List.append_nil]

/-- One line that a reader finds nothing in changes nothing for it. -/
theorem filterMap_pieces_of_addLine {β : Type} {read : List Char → Option β} (hnil : read [] = none)
    {P : List Char → Prop} (hP : ∀ line, P line → read line = none) {text text' : List Char}
    (h : AddLine P text text') :
    (pieces '\n' text').filterMap read = (pieces '\n' text).filterMap read := by
  have hnothing : ∀ {line}, '\n' ∉ line → P line → (pieces '\n' line).filterMap read = [] := by
    intro line hline hp
    rw [pieces_of_not_mem hline, List.filterMap_cons_none (hP line hp), List.filterMap_nil]
  cases h with
  | before rest hstart hline hp =>
      rw [filterMap_pieces_of_atLineStart hnil hstart, filterMap_pieces_of_atLineStart hnil hstart,
        pieces_append_cons, List.filterMap_append, hnothing hline hp, List.nil_append]
  | last hstart hline hp =>
      rw [filterMap_pieces_of_atLineStart hnil hstart, hnothing hline hp, List.append_nil]
  | behind text hline hp =>
      rw [pieces_append_cons, List.filterMap_append, hnothing hline hp, List.append_nil]

/-- Any number of such lines change nothing for a reader. -/
theorem filterMap_pieces_of_addLines {β : Type} {read : List Char → Option β}
    (hnil : read [] = none) {P : List Char → Prop} (hP : ∀ line, P line → read line = none)
    {text text' : List Char} (h : Relation.ReflTransGen (AddLine P) text text') :
    (pieces '\n' text').filterMap read = (pieces '\n' text).filterMap read := by
  induction h with
  | refl => rfl
  | tail _ hstep ih => rw [filterMap_pieces_of_addLine hnil hP hstep, ih]

/-- **Lines that a selection leaves out** can be put into an output anywhere:
the selected diagnostics stay the same. -/
theorem filter_parseOutput_of_addLines {p : Diagnostic → Bool} {P : List Char → Prop}
    (hP : ∀ line d, P line → parseChars line = .ok d → p d = false) {output output' : String}
    (h : AddLines P output output') :
    (parseOutput output').filter p = (parseOutput output).filter p := by
  have hread : ∀ line, P line → (ofLine? line).filter p = none := by
    intro line hline
    rw [ofLine?]
    cases hd : parseChars line with
    | error e => rfl
    | ok d => simp [Except.toOption, hP line d hline hd]
  simp only [parseOutput_eq_pieces, List.filter_filterMap]
  exact filterMap_pieces_of_addLines rfl hread h

end ChapelCheck.Diagnostic
