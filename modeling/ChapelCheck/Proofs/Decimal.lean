import ChapelCheck.Proofs.Text
import ChapelCheck.Text.Decimal

/-!
# ChapelCheck.Proofs.Decimal

Numbers in decimal and their texts.

`Numeral cs n` says which texts stand for which numbers, and nothing about how
they are read.  Each reader, from a digit on, answers exactly that:

* `read?_eq_some_iff` — a text is read as a number exactly if it stands for it;
* `numeral_write`, `read?_write` — a number is read back from its digits.
-/

namespace ChapelCheck.Text.Decimal

/-! ## reading -/

/-- `Numeral cs n`: the text `cs` is one or more ASCII digits of the value `n`,
after at most one plus sign. -/
inductive Numeral : List Char → Nat → Prop where
  | plain {ds : List Char} (hne : ds ≠ []) (hdigits : ∀ c ∈ ds, c.isDigit = true) :
      Numeral ds (Nat.ofDigitChars 10 ds 0)
  | signed {ds : List Char} (hne : ds ≠ []) (hdigits : ∀ c ∈ ds, c.isDigit = true) :
      Numeral ('+' :: ds) (Nat.ofDigitChars 10 ds 0)

theorem digit?_eq_some_iff {c : Char} {d : Nat} :
    digit? c = some d ↔ c.isDigit = true ∧ c.toNat - '0'.toNat = d := by
  rw [digit?, Char.isDigit_iff_toNat, Option.ite_none_right_eq_some, Option.some.injEq]

/-- Digits are read onto a number exactly as their value is defined. -/
theorem readOnto_eq_some_iff {n m : Nat} {cs : List Char} :
    readOnto n cs = some m ↔
      (∀ c ∈ cs, c.isDigit = true) ∧ Nat.ofDigitChars 10 cs n = m := by
  induction cs generalizing n with
  | nil => simp [readOnto]
  | cons c cs ih =>
      rw [readOnto, Option.bind_eq_some_iff, List.forall_mem_cons, Nat.ofDigitChars_cons]
      simp only [digit?_eq_some_iff, ih]
      constructor
      · rintro ⟨d, ⟨hc, rfl⟩, hcs, hm⟩
        exact ⟨⟨hc, hcs⟩, hm⟩
      · rintro ⟨⟨hc, hcs⟩, hm⟩
        exact ⟨_, ⟨hc, rfl⟩, hcs, hm⟩

theorem readDigits?_eq_some_iff {cs : List Char} {n : Nat} :
    readDigits? cs = some n ↔
      cs ≠ [] ∧ (∀ c ∈ cs, c.isDigit = true) ∧ Nat.ofDigitChars 10 cs 0 = n := by
  cases cs with
  | nil => simp [readDigits?]
  | cons c cs => simp only [readDigits?, readOnto_eq_some_iff, ne_eq, reduceCtorEq,
      not_false_eq_true, true_and]

/-- Digits start with no plus sign, so it is not mistaken for one of them. -/
theorem read?_of_digits {cs : List Char} (h : ∀ c ∈ cs, c.isDigit = true) :
    read? cs = readDigits? cs := by
  cases cs with
  | nil => rfl
  | cons c cs =>
      have hplus : c ≠ '+' := by
        intro hc
        have hdigit := h c List.mem_cons_self
        rw [hc] at hdigit
        contradiction
      rw [read?]
      exact fun rest hrest => hplus (List.cons.inj hrest).1

/-- **A text is read as a number exactly if it stands for it.** -/
theorem read?_eq_some_iff {cs : List Char} {n : Nat} : read? cs = some n ↔ Numeral cs n := by
  constructor
  · fun_cases read? cs with
    | case1 ds =>
        intro h
        obtain ⟨hne, hdigits, rfl⟩ := readDigits?_eq_some_iff.mp h
        exact .signed hne hdigits
    | case2 =>
        intro h
        obtain ⟨hne, hdigits, rfl⟩ := readDigits?_eq_some_iff.mp h
        exact .plain hne hdigits
  · intro h
    cases h with
    | plain hne hdigits =>
        rw [read?_of_digits hdigits]
        exact readDigits?_eq_some_iff.mpr ⟨hne, hdigits, rfl⟩
    | signed hne hdigits => exact readDigits?_eq_some_iff.mpr ⟨hne, hdigits, rfl⟩

instance (cs : List Char) (n : Nat) : Decidable (Numeral cs n) :=
  decidable_of_iff _ read?_eq_some_iff

/-- A text stands for one number at most. -/
theorem Numeral.unique {cs : List Char} {n m : Nat} (hn : Numeral cs n) (hm : Numeral cs m) :
    n = m :=
  Option.some.inj ((read?_eq_some_iff.mpr hn).symm.trans (read?_eq_some_iff.mpr hm))

/-! ## writing -/

theorem isDigit_of_mem_write {n : Nat} {c : Char} (h : c ∈ write n) : c.isDigit = true :=
  Nat.isDigit_of_mem_toDigits (by decide) (by decide) h

/-- The digits of a number stand for it. -/
theorem numeral_write (n : Nat) : Numeral (write n) n := by
  have hplain : Numeral (write n) (Nat.ofDigitChars 10 (write n) 0) :=
    .plain Nat.toDigits_ne_nil fun _ => isDigit_of_mem_write
  rwa [write, Nat.ofDigitChars_ten_toDigits] at hplain

/-- A number is read back from its digits. -/
theorem read?_write (n : Nat) : read? (write n) = some n :=
  read?_eq_some_iff.mpr (numeral_write n)

/-- A digit is no blank. -/
theorem isBlank_of_isDigit {c : Char} (h : c.isDigit = true) : isBlank c = false := by
  have hrange : 48 ≤ c.toNat ∧ c.toNat ≤ 57 := Char.isDigit_iff_toNat.mp h
  simp only [isBlank, Bool.or_eq_false_iff, Bool.and_eq_false_iff, decide_eq_false_iff_not,
    beq_eq_false_iff_ne]
  omega

/-- There are no blanks around the digits of a number. -/
theorem trimmed_write (n : Nat) : Trimmed (write n) := by
  constructor
  · intro c hc
    exact isBlank_of_isDigit (isDigit_of_mem_write (List.mem_of_head? hc))
  · intro c hc
    exact isBlank_of_isDigit (isDigit_of_mem_write (List.mem_of_getLast? hc))

end ChapelCheck.Text.Decimal
