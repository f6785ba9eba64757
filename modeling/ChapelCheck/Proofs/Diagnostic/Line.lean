import ChapelCheck.Diagnostic.Line
import ChapelCheck.Proofs.Decimal

/-!
# ChapelCheck.Proofs.Diagnostic.Line

Lines of compiler output and the diagnostics they stand for.

A line has fewer than two colons, or it has fields (`HasFields`): a file, a
number and a kind without colons, and a message with any number of them.  What
`parseChars` answers follows from the fields alone, and there from what `trim`
leaves of them, so

* `parseChars_margins` — blanks around a line never change the answer;
* `renderable_of_parse` — what is read has no colon in its file and its kind,
  and no blank at the ends of its texts;
* `parse_renderWith` — every such diagnostic is read back from its fields,
  whatever blanks stand around each of them.
-/

namespace ChapelCheck.Diagnostic

open Text

/-! ## the fields of a line -/

/-- `HasFields line file number kind message`: the line is made of these
fields.  A missing message is empty, with or without its colon. -/
inductive HasFields : List Char → List Char → List Char → List Char → List Char → Prop where
  | three {file number kind : List Char} (hfile : ':' ∉ file) (hnumber : ':' ∉ number)
      (hkind : ':' ∉ kind) :
      HasFields (file ++ ':' :: (number ++ ':' :: kind)) file number kind []
  | four {file number kind : List Char} (message : List Char) (hfile : ':' ∉ file)
      (hnumber : ':' ∉ number) (hkind : ':' ∉ kind) :
      HasFields (file ++ ':' :: (number ++ ':' :: (kind ++ ':' :: message)))
        file number kind message

/-- A line with two colons or more has fields. -/
theorem exists_hasFields {line : List Char} (h : 2 ≤ line.count ':') :
    ∃ file number kind message, HasFields line file number kind message := by
  have hfirst : ':' ∈ line := List.count_pos_iff.mp (by omega)
  obtain ⟨file, rest, hline, hfile⟩ := List.eq_append_cons_of_mem hfirst
  have hcount : 1 ≤ rest.count ':' := by
    rw [hline, List.count_append, List.count_eq_zero.mpr hfile, List.count_cons_self] at h
    omega
  have hsecond : ':' ∈ rest := List.count_pos_iff.mp hcount
  obtain ⟨number, rest', hrest, hnumber⟩ := List.eq_append_cons_of_mem hsecond
  rw [hline, hrest]
  by_cases hthird : ':' ∈ rest'
  · obtain ⟨kind, message, hrest', hkind⟩ := List.eq_append_cons_of_mem hthird
    rw [hrest']
    exact ⟨file, number, kind, message, .four message hfile hnumber hkind⟩
  · exact ⟨file, number, rest', [], .three hfile hnumber hthird⟩

/-- A line with fewer than two colons is refused. -/
theorem parseChars_of_count_lt {line : List Char} (h : line.count ':' < 2) :
    parseChars line = .error .tooFewFields := by
  by_cases hfirst : ':' ∈ line
  · obtain ⟨file, rest, hline, hfile⟩ := List.eq_append_cons_of_mem hfirst
    have hrest : ':' ∉ rest := by
      rw [hline, List.count_append, List.count_eq_zero.mpr hfile, List.count_cons_self] at h
      exact List.count_eq_zero.mp (by omega)
    rw [hline, parseChars, cut_append hfile]
    simp only [cut_of_not_mem hrest]
  · rw [parseChars, cut_of_not_mem hfirst]

/-- What is read from a line is what is read from its fields. -/
theorem HasFields.parseChars_eq {line file number kind message : List Char}
    (h : HasFields line file number kind message) :
    parseChars line = ofFields file number kind message := by
  cases h with
  | three hfile hnumber hkind =>
      rw [parseChars, cut_append hfile]
      simp only [cut_append hnumber, cut_of_not_mem hkind, Option.getD_none]
  | four message hfile hnumber hkind =>
      rw [parseChars, cut_append hfile]
      simp only [cut_append hnumber, cut_append hkind, Option.getD_some]

theorem HasFields.colon_not_mem_file {line file number kind message : List Char}
    (h : HasFields line file number kind message) : ':' ∉ file := by
  cases h with
  | three hfile _ _ => exact hfile
  | four _ hfile _ _ => exact hfile

theorem HasFields.colon_not_mem_kind {line file number kind message : List Char}
    (h : HasFields line file number kind message) : ':' ∉ kind := by
  cases h with
  | three _ _ hkind => exact hkind
  | four _ _ _ hkind => exact hkind

/-! ## blanks around a line -/

/-- No blank is a colon. -/
theorem colon_not_mem_of_allBlank {w : List Char} (hw : AllBlank w) : ':' ∉ w :=
  hw.not_mem rfl

/-- Blanks around a line belong to its outermost fields. -/
theorem HasFields.margins {line file number kind message w v : List Char} (hw : AllBlank w)
    (hv : AllBlank v) (h : HasFields line file number kind message) :
    ∃ kind' message', HasFields (w ++ line ++ v) (w ++ file) number kind' message' ∧
      trim kind' = trim kind ∧ trim message' = trim message := by
  have hbehind : ∀ cs, trim (cs ++ v) = trim cs := fun cs => by
    simpa using trim_margins allBlank_nil hv cs
  have hcolon : ':' ∉ v := colon_not_mem_of_allBlank hv
  cases h with
  | three hfile hnumber hkind =>
      have hfile' : ':' ∉ w ++ file := by simp [colon_not_mem_of_allBlank hw, hfile]
      have hkind' : ':' ∉ kind ++ v := by simp [hcolon, hkind]
      refine ⟨kind ++ v, [], ?_, hbehind kind, rfl⟩
      have hshape := HasFields.three hfile' hnumber hkind'
      simpa using hshape
  | four message hfile hnumber hkind =>
      have hfile' : ':' ∉ w ++ file := by simp [colon_not_mem_of_allBlank hw, hfile]
      refine ⟨kind, message ++ v, ?_, rfl, hbehind message⟩
      have hshape := HasFields.four (message ++ v) hfile' hnumber hkind
      simpa using hshape

/-- Only what `trim` leaves of the fields is read. -/
theorem ofFields_congr {file file' number kind kind' message message' : List Char}
    (hfile : trim file' = trim file) (hkind : trim kind' = trim kind)
    (hmessage : trim message' = trim message) :
    ofFields file' number kind' message' = ofFields file number kind message := by
  rw [ofFields, ofFields, hfile, hkind, hmessage]

/-- **Blanks around a line never change what is read from it**, errors
included. -/
theorem parseChars_margins {w v : List Char} (hw : AllBlank w) (hv : AllBlank v)
    (line : List Char) : parseChars (w ++ line ++ v) = parseChars line := by
  by_cases hcount : 2 ≤ line.count ':'
  · obtain ⟨file, number, kind, message, h⟩ := exists_hasFields hcount
    obtain ⟨kind', message', h', hkind, hmessage⟩ := h.margins hw hv
    have hfile : trim (w ++ file) = trim file := by
      simpa using trim_margins hw allBlank_nil file
    rw [h.parseChars_eq, h'.parseChars_eq, ofFields_congr hfile hkind hmessage]
  · have hsame : (w ++ line ++ v).count ':' = line.count ':' := by
      simp only [List.count_append, List.count_eq_zero.mpr (colon_not_mem_of_allBlank hw),
        List.count_eq_zero.mpr (colon_not_mem_of_allBlank hv), Nat.zero_add, Nat.add_zero]
    rw [parseChars_of_count_lt (by omega), parseChars_of_count_lt (by omega)]

/-! ## what is read -/

/-- What a line stands for is made of what `trim` leaves of its fields. -/
theorem exists_fields_of_parse {line : String} {d : Diagnostic} (h : parse line = .ok d) :
    ∃ file number kind message, HasFields line.toList file number kind message ∧
      d = ⟨String.ofList (trim kind), ⟨String.ofList (trim file)⟩, d.line,
        String.ofList (trim message)⟩ := by
  rw [parse] at h
  by_cases hcount : 2 ≤ line.toList.count ':'
  · obtain ⟨file, number, kind, message, hfields⟩ := exists_hasFields hcount
    refine ⟨file, number, kind, message, hfields, ?_⟩
    rw [hfields.parseChars_eq, ofFields] at h
    split at h
    · contradiction
    · rw [← Except.ok.inj h]
  · rw [parseChars_of_count_lt (by omega)] at h
    contradiction

/-- The diagnostics that a line can stand for: no colon in the file and in the
kind, and no blank at the ends of the three texts. -/
structure Renderable (d : Diagnostic) : Prop where
  colon_not_mem_file : ':' ∉ d.file.text.toList
  colon_not_mem_kind : ':' ∉ d.kind.toList
  trimmed_file : Trimmed d.file.text.toList
  trimmed_kind : Trimmed d.kind.toList
  trimmed_message : Trimmed d.message.toList

/-- **Soundness of reading**: only renderable diagnostics are read. -/
theorem renderable_of_parse {line : String} {d : Diagnostic} (h : parse line = .ok d) :
    d.Renderable := by
  obtain ⟨file, number, kind, message, hfields, hd⟩ := exists_fields_of_parse h
  rw [hd]
  constructor
  · rw [String.toList_ofList]
    exact fun hmem => hfields.colon_not_mem_file (mem_of_mem_trim hmem)
  · rw [String.toList_ofList]
    exact fun hmem => hfields.colon_not_mem_kind (mem_of_mem_trim hmem)
  · rw [String.toList_ofList]
    exact trimmed_trim file
  · rw [String.toList_ofList]
    exact trimmed_trim kind
  · rw [String.toList_ofList]
    exact trimmed_trim message

/-! ## what is written -/

/-- Blanks before and after a field. -/
structure Margin where
  before : String
  after : String
  before_blank : isBlankText before = true
  after_blank : isBlankText after = true

/-- A field with its blanks. -/
def Margin.around (m : Margin) (field : String) : String := m.before ++ field ++ m.after

/-- No blanks. -/
def Margin.none : Margin := ⟨"", "", rfl, rfl⟩

/-- Blanks around each of the four fields. -/
structure Margins where
  file : Margin
  number : Margin
  kind : Margin
  message : Margin

/-- The line that stands for a diagnostic, with blanks around its fields. -/
def renderWith (ms : Margins) (d : Diagnostic) : String :=
  ms.file.around d.file.text ++ ":" ++ ms.number.around (Decimal.text d.line.toNat) ++ ":" ++
    ms.kind.around d.kind ++ ":" ++ ms.message.around d.message

/-- `render` puts no blanks around the fields. -/
theorem renderWith_none (d : Diagnostic) :
    renderWith ⟨.none, .none, .none, .none⟩ d = render d := by
  simp [renderWith, Margin.around, Margin.none, render]

/-- A field is read out of its blanks. -/
theorem Margin.trim_around (m : Margin) {field : String} (h : Trimmed field.toList) :
    trim (m.around field).toList = field.toList := by
  rw [Margin.around, String.toList_append, String.toList_append]
  exact trim_margins_of_trimmed (allBlank_of_isBlankText m.before_blank)
    (allBlank_of_isBlankText m.after_blank) h

/-- Blanks bring no colon into a field. -/
theorem Margin.colon_not_mem_around (m : Margin) {field : String} (h : ':' ∉ field.toList) :
    ':' ∉ (m.around field).toList := by
  have hbefore := colon_not_mem_of_allBlank (allBlank_of_isBlankText m.before_blank)
  have hafter := colon_not_mem_of_allBlank (allBlank_of_isBlankText m.after_blank)
  simp [Margin.around, hbefore, hafter, h]

/-- A line number is read back from its digits. -/
theorem lineNumber?_write (n : UInt32) : lineNumber? (Decimal.write n.toNat) = some n := by
  have hsize : n.toNat < UInt32.size := n.toNat_lt_size
  rw [lineNumber?, Decimal.read?_write, Option.bind_some, if_pos hsize, UInt32.ofNat_toNat]

/-- Digits hold no colon. -/
theorem colon_not_mem_text (n : Nat) : ':' ∉ (Decimal.text n).toList := by
  rw [Decimal.text, String.toList_ofList]
  intro hmem
  have hdigit := Decimal.isDigit_of_mem_write hmem
  contradiction

/-- A line with blanks around its fields has these fields. -/
theorem hasFields_renderWith {d : Diagnostic} (hd : d.Renderable) (ms : Margins) :
    HasFields (renderWith ms d).toList (ms.file.around d.file.text).toList
      (ms.number.around (Decimal.text d.line.toNat)).toList (ms.kind.around d.kind).toList
      (ms.message.around d.message).toList := by
  have hfile := ms.file.colon_not_mem_around hd.colon_not_mem_file
  have hnumber := ms.number.colon_not_mem_around (colon_not_mem_text d.line.toNat)
  have hkind := ms.kind.colon_not_mem_around hd.colon_not_mem_kind
  have hshape := HasFields.four (ms.message.around d.message).toList hfile hnumber hkind
  simpa [renderWith] using hshape

/-- **Completeness of reading**: a renderable diagnostic is read back from its
line, whatever blanks stand around the fields. -/
theorem parse_renderWith {d : Diagnostic} (hd : d.Renderable) (ms : Margins) :
    parse (renderWith ms d) = .ok d := by
  have hdigits : Trimmed (Decimal.text d.line.toNat).toList := by
    rw [Decimal.text, String.toList_ofList]
    exact Decimal.trimmed_write d.line.toNat
  have hnumber : lineNumber? (Decimal.text d.line.toNat).toList = some d.line := by
    rw [Decimal.text, String.toList_ofList]
    exact lineNumber?_write d.line
  rw [parse, (hasFields_renderWith hd ms).parseChars_eq, ofFields,
    ms.file.trim_around hd.trimmed_file, ms.number.trim_around hdigits,
    ms.kind.trim_around hd.trimmed_kind, ms.message.trim_around hd.trimmed_message, hnumber]
  simp only [String.ofList_toList]

/-! ## the round trip -/

/-- **Reading undoes writing, and reads exactly what can be written**: what is
read is renderable; a renderable diagnostic is read back from its line with any
blanks around the fields; so what was read once is read again from the line
that is written for it. -/
theorem parse_undoes_render :
    (∀ (line : String) (d : Diagnostic), parse line = .ok d → d.Renderable) ∧
      (∀ d : Diagnostic, d.Renderable → ∀ ms : Margins, parse (renderWith ms d) = .ok d) ∧
      ∀ (line : String) (d : Diagnostic), parse line = .ok d → parse (render d) = .ok d := by
  refine ⟨fun line d h => renderable_of_parse h, fun d hd ms => parse_renderWith hd ms, ?_⟩
  intro line d h
  rw [← renderWith_none]
  exact parse_renderWith (renderable_of_parse h) _

/-- A line with a plus sign, blanks and colons in its message: it is read, and
its diagnostic is read back from lines with and without other blanks. -/
theorem parse_undoes_render_signature :
    ∃ d : Diagnostic, parse " /p/M.chpl:+7:\tnote :a::b: c " = .ok d ∧ d.Renderable ∧
      parse (renderWith ⟨.none, ⟨" ", "\u3000", rfl, rfl⟩, .none, ⟨"", "\r", rfl, rfl⟩⟩ d) = .ok d ∧
      parse (render d) = .ok d := by
  have hparse : parse " /p/M.chpl:+7:\tnote :a::b: c " =
      .ok ⟨"note", ⟨"/p/M.chpl"⟩, 7, "a::b: c"⟩ := rfl
  obtain ⟨hsound, hcomplete, hagain⟩ := parse_undoes_render
  have hrenderable := hsound _ _ hparse
  exact ⟨_, hparse, hrenderable, hcomplete _ hrenderable _, hagain _ _ hparse⟩

end ChapelCheck.Diagnostic
