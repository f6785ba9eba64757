import ChapelCheck.Proofs.Diagnostic.Line

/-!
# ChapelCheck.Proofs.Diagnostic.Number

The line number of a line of compiler output, and the three things that can come
of a line.

A line with two colons or more has a field between the first two of them
(`numberField`).  Which texts stand for which numbers is said by
`Decimal.Numeral`, without any reader:

* `lineNumber?_eq_some_iff`, `lineNumber?_eq_none_iff` — line numbers are the
  numbers of 32 bits, however many digits they are written with;
* `HasFields.parse_eq_ok_iff`, `HasFields.parse_eq_invalid_iff` — what comes of a
  line with fields is told by its number field;
* `parse_eq_tooFewFields_iff` — which lines have no fields.
-/

namespace ChapelCheck.Diagnostic

open Text

/-! ## line numbers -/

theorem lineNumber?_eq_some_iff {field : List Char} {n : UInt32} :
    lineNumber? field = some n ↔ Decimal.Numeral field n.toNat := by
  rw [lineNumber?, Option.bind_eq_some_iff]
  constructor
  · rintro ⟨m, hread, hm⟩
    rw [Option.ite_none_right_eq_some, Option.some.injEq] at hm
    obtain ⟨hlt, rfl⟩ := hm
    rw [UInt32.toNat_ofNat_of_lt' hlt]
    exact Decimal.read?_eq_some_iff.mp hread
  · intro h
    refine ⟨n.toNat, Decimal.read?_eq_some_iff.mpr h, ?_⟩
    rw [if_pos n.toNat_lt_size, UInt32.ofNat_toNat]

/-- A number of more than 32 bits is no line number; it does not wrap around. -/
theorem lineNumber?_eq_none_iff {field : List Char} :
    lineNumber? field = none ↔ ¬ ∃ n ≤ 4294967295, Decimal.Numeral field n := by
  rw [Option.eq_none_iff_forall_ne_some]
  constructor
  · rintro h ⟨n, hn, hnumeral⟩
    have hlt : n < UInt32.size := Nat.lt_succ_of_le hn
    refine h (UInt32.ofNat n) (lineNumber?_eq_some_iff.mpr ?_)
    rwa [UInt32.toNat_ofNat_of_lt' hlt]
  · intro h n hn
    exact h ⟨n.toNat, Nat.le_of_lt_succ n.toNat_lt_size, lineNumber?_eq_some_iff.mp hn⟩

/-! ## what comes of a line -/

/-- What stands between the first two colons of a line, without the blanks around
it. -/
def numberField (line : String) : String :=
  trimmed (String.ofList ((line.toList.splitOn ':').getD 1 []))

theorem HasFields.colon_not_mem_number {line file number kind message : List Char}
    (h : HasFields line file number kind message) : ':' ∉ number := by
  cases h with
  | three _ hnumber _ => exact hnumber
  | four _ _ hnumber _ => exact hnumber

/-- The field between the first two colons is the second one. -/
theorem HasFields.splitOn_getD {line file number kind message : List Char}
    (h : HasFields line file number kind message) : (line.splitOn ':').getD 1 [] = number := by
  have hfile := List.splitOn_eq_singleton h.colon_not_mem_file
  have hnumber := List.splitOn_eq_singleton h.colon_not_mem_number
  cases h with
  | three _ _ _ => simp [List.splitOn_append_cons_self, hfile, hnumber]
  | four _ _ _ _ => simp [List.splitOn_append_cons_self, hfile, hnumber]

section

variable {line : String} {file number kind message : List Char}
  (h : HasFields line.toList file number kind message)
include h

theorem HasFields.numberField_eq : numberField line = String.ofList (trim number) := by
  rw [numberField, h.splitOn_getD, trimmed, String.toList_ofList]

/-- What is read from a line's fields hangs on the number alone. -/
theorem HasFields.parse_eq :
    parse line = (lineNumber? (numberField line).toList).elim
      (.error (.invalidLineNumber (numberField line)))
      fun n => .ok ⟨String.ofList (trim kind), ⟨String.ofList (trim file)⟩, n,
        String.ofList (trim message)⟩ := by
  rw [parse, h.parseChars_eq, ofFields, h.numberField_eq, String.toList_ofList]
  cases lineNumber? (trim number) with
  | none => rfl
  | some n => rfl

theorem HasFields.parse_eq_ok_iff {n : UInt32} :
    (∃ d, parse line = .ok d ∧ d.line = n) ↔
      Decimal.Numeral (numberField line).toList n.toNat := by
  rw [← lineNumber?_eq_some_iff, h.parse_eq]
  cases lineNumber? (numberField line).toList with
  | none => simp
  | some m => simp

theorem HasFields.parse_eq_invalid_iff :
    parse line = .error (.invalidLineNumber (numberField line)) ↔
      ¬ ∃ n ≤ 4294967295, Decimal.Numeral (numberField line).toList n := by
  rw [← lineNumber?_eq_none_iff, h.parse_eq]
  cases lineNumber? (numberField line).toList with
  | none => simp
  | some m => simp

theorem HasFields.parse_ne_tooFewFields : parse line ≠ .error .tooFewFields := by
  rw [h.parse_eq]
  cases lineNumber? (numberField line).toList with
  | none => simp
  | some m => simp

end

theorem parse_eq_tooFewFields_iff {line : String} :
    parse line = .error .tooFewFields ↔ line.toList.count ':' < 2 := by
  constructor
  · intro h
    refine Nat.lt_of_not_le fun hcount => ?_
    obtain ⟨file, number, kind, message, hfields⟩ := exists_hasFields hcount
    exact hfields.parse_ne_tooFewFields h
  · exact parseChars_of_count_lt

/-- **Three things can come of a line.**  It has too few fields exactly if it has
fewer than two colons.  Otherwise what stands between the first two of them,
without blanks, decides: if it is digits of a value of at most 32 bits, after at
most one plus sign, then the line stands for a diagnostic at the line of this
value; and if it is anything else, then that is what the error quotes.  Blanks
around the line change nothing of this. -/
theorem parse_has_three_outcomes (line : String) :
    (parse line = .error .tooFewFields ↔ line.toList.count ':' < 2) ∧
    (2 ≤ line.toList.count ':' →
      ((∃ d, parse line = .ok d) ↔
        ∃ n ≤ 4294967295, Decimal.Numeral (numberField line).toList n) ∧
      (∀ d n, parse line = .ok d → Decimal.Numeral (numberField line).toList n →
        d.line.toNat = n) ∧
      (parse line = .error (.invalidLineNumber (numberField line)) ↔
        ¬ ∃ n ≤ 4294967295, Decimal.Numeral (numberField line).toList n)) ∧
    ∀ before after : String, isBlankText before = true → isBlankText after = true →
      parse (before ++ line ++ after) = parse line := by
  refine ⟨parse_eq_tooFewFields_iff, fun hcount => ?_, fun before after hbefore hafter => ?_⟩
  · obtain ⟨file, number, kind, message, h⟩ := exists_hasFields hcount
    have hline : ∀ d, parse line = .ok d →
        Decimal.Numeral (numberField line).toList d.line.toNat := fun d hd =>
      h.parse_eq_ok_iff.mp ⟨d, hd, rfl⟩
    refine ⟨⟨?_, ?_⟩, fun d n hd hn => (hline d hd).unique hn, h.parse_eq_invalid_iff⟩
    · rintro ⟨d, hd⟩
      exact ⟨d.line.toNat, Nat.le_of_lt_succ d.line.toNat_lt_size, hline d hd⟩
    · rintro ⟨n, hn, hnumeral⟩
      have hsize : (UInt32.ofNat n).toNat = n := UInt32.toNat_ofNat_of_lt' (Nat.lt_succ_of_le hn)
      obtain ⟨d, hd, _⟩ := h.parse_eq_ok_iff.mpr (hsize ▸ hnumeral)
      exact ⟨d, hd⟩
  · rw [parse, String.toList_append, String.toList_append]
    exact parseChars_margins (allBlank_of_isBlankText hbefore) (allBlank_of_isBlankText hafter) _

/-- A number with a sign, zeros and blanks is a line number, one of 33 bits is none,
and blanks around the line do not help. -/
theorem parse_has_three_outcomes_signed :
    (2 ≤ "f: +0042 :e".toList.count ':' ∧ ∃ d, parse "f: +0042 :e" = .ok d ∧ d.line.toNat = 42) ∧
    (2 ≤ "f:4294967296:e:m".toList.count ':' ∧
      parse "f:4294967296:e:m" = .error (.invalidLineNumber "4294967296")) ∧
    isBlankText "\u3000" = true ∧ isBlankText "\r" = true ∧
    parse ("\u3000" ++ "f:4294967296:e:m" ++ "\r") = .error (.invalidLineNumber "4294967296") := by
  obtain ⟨_, hsigned, _⟩ := parse_has_three_outcomes "f: +0042 :e"
  obtain ⟨_, hlarge, hblank⟩ := parse_has_three_outcomes "f:4294967296:e:m"
  have hcount : 2 ≤ "f: +0042 :e".toList.count ':' := by decide +kernel
  have hcount' : 2 ≤ "f:4294967296:e:m".toList.count ':' := by decide +kernel
  have hfortytwo : Decimal.Numeral (numberField "f: +0042 :e").toList 42 := by decide +kernel
  have hfield : numberField "f:4294967296:e:m" = "4294967296" := by decide +kernel
  have hnone : ¬ ∃ n ≤ 4294967295, Decimal.Numeral "4294967296".toList n := by
    rintro ⟨n, hn, hnumeral⟩
    have hvalue : Decimal.Numeral "4294967296".toList 4294967296 := by decide +kernel
    have heq := hnumeral.unique hvalue
    omega
  have hinvalid : parse "f:4294967296:e:m" = .error (.invalidLineNumber "4294967296") := by
    have h := (hlarge hcount').2.2
    rw [hfield] at h
    exact h.mpr hnone
  obtain ⟨hok, hline, _⟩ := hsigned hcount
  obtain ⟨d, hd⟩ := hok.mpr ⟨42, by decide, hfortytwo⟩
  refine ⟨⟨hcount, d, hd, hline d 42 hd hfortytwo⟩, ⟨hcount', hinvalid⟩, by decide +kernel,
    by decide +kernel, ?_⟩
  rw [hblank "\u3000" "\r" (by decide +kernel) (by decide +kernel)]
  exact hinvalid

end ChapelCheck.Diagnostic
