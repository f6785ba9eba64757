import Mathlib.Data.List.Induction
import ChapelCheck.Proofs.Except
import ChapelCheck.Proofs.Remembered
import ChapelCheck.Proofs.Text

/-!
# ChapelCheck.Proofs.Settings

The settings after everything that an editor has sent.

Values are accepted as a whole or not at all.  `Override.isAccepted` says which
ones are, without reading them, and `read_eq_ok_iff` that these are the ones
that can be read.  Each field then holds what the last accepted value has to say
about it (`compiler_settingsAfter`, `home_settingsAfter`), where a blank compiler
says nothing.
-/

namespace ChapelCheck

namespace Override

/-! ## accepted values -/

/-- Whether a value is a text, or null in place of one. -/
def isTextOrNull : Json → Bool
  | .null => true
  | .string _ => true
  | _ => false

/-- Whether a value is accepted as settings: its section is an object that has
nothing but texts and nulls for its two fields, or an array of at most two texts
and nulls. -/
def isAccepted (v : Json) : Bool :=
  match sectionOf v with
  | .object members =>
    (Json.lookup "compiler" members).all isTextOrNull &&
      (Json.lookup "chplHome" members).all isTextOrNull
  | .array items => decide (items.length ≤ 2) && items.all isTextOrNull
  | _ => false

/-- The text of a field that may be missing, if it has one. -/
def textOf? : Option Json → Option String
  | some (.string s) => some s
  | _ => none

/-- The compiler in a value. -/
def compilerOf? (v : Json) : Option String :=
  match sectionOf v with
  | .object members => textOf? (Json.lookup "compiler" members)
  | .array items => textOf? items[0]?
  | _ => none

/-- The installation directory in a value. -/
def homeOf? (v : Json) : Option Path :=
  match sectionOf v with
  | .object members => (textOf? (Json.lookup "chplHome" members)).map Path.mk
  | .array items => (textOf? items[1]?).map Path.mk
  | _ => none

/-! ## reading -/

/-- A field that is made of a text is read if it is one, null or missing. -/
theorem field_optional_eq_ok_iff {α : Type} {wanted : String} {make : String → α}
    {v : Option Json} {a : Option α} :
    field (Json.optional fun v => (Json.readText wanted v).map make) v = .ok a ↔
      v.all isTextOrNull = true ∧ a = (textOf? v).map make := by
  rcases v with _ | v
  · simp [field, textOf?, eq_comm]
  · cases v <;> simp [field, Json.optional, Json.readText, isTextOrNull, textOf?, Except.map,
      eq_comm]

theorem field_readCompiler_eq_ok_iff {v : Option Json} {compiler : Option String} :
    field readCompiler v = .ok compiler ↔ v.all isTextOrNull = true ∧ compiler = textOf? v := by
  have hread : readCompiler = Json.optional fun v => (Json.readText "a string" v).map id := by
    funext v
    cases v <;> rfl
  rw [hread, field_optional_eq_ok_iff, Option.map_id_fun, id]

theorem field_readHome_eq_ok_iff {v : Option Json} {home : Option Path} :
    field readHome v = .ok home ↔ v.all isTextOrNull = true ∧ home = (textOf? v).map Path.mk :=
  field_optional_eq_ok_iff

/-- The items of a short array are the two that may stand for fields. -/
theorem all_of_length_le_two {items : List Json} (h : items.length ≤ 2) (p : Json → Bool) :
    items.all p = (items[0]?.all p && items[1]?.all p) := by
  match items, h with
  | [], _ => rfl
  | [a], _ => simp
  | [a, b], _ => simp

/-- **Values are read exactly if they are accepted**, and then field by field. -/
theorem read_eq_ok_iff {v : Json} {o : Override} :
    read v = .ok o ↔ isAccepted v = true ∧ o = ⟨compilerOf? v, homeOf? v⟩ := by
  rw [read, isAccepted, compilerOf?, homeOf?]
  cases sectionOf v with
  | object members =>
      simp only [readSection, Except.bind_eq_ok_iff, field_readCompiler_eq_ok_iff,
        field_readHome_eq_ok_iff, Bool.and_eq_true]
      constructor
      · rintro ⟨_, ⟨hhome, rfl⟩, _, ⟨hcompiler, rfl⟩, ho⟩
        exact ⟨⟨hcompiler, hhome⟩, (Except.ok.inj ho).symm⟩
      · rintro ⟨⟨hcompiler, hhome⟩, rfl⟩
        exact ⟨_, ⟨hhome, rfl⟩, _, ⟨hcompiler, rfl⟩, rfl⟩
  | array items =>
      simp only [readSection, Except.bind_eq_ok_iff, field_readCompiler_eq_ok_iff,
        field_readHome_eq_ok_iff, Bool.and_eq_true, decide_eq_true_iff]
      constructor
      · rintro ⟨_, ⟨hcompiler, rfl⟩, _, ⟨hhome, rfl⟩, ho⟩
        by_cases hlength : items.length > 2
        · rw [if_pos hlength] at ho
          contradiction
        · rw [if_neg hlength] at ho
          have hshort : items.length ≤ 2 := Nat.le_of_not_lt hlength
          refine ⟨⟨hshort, ?_⟩, (Except.ok.inj ho).symm⟩
          rw [all_of_length_le_two hshort, hcompiler, hhome, Bool.and_self]
      · rintro ⟨⟨hshort, hitems⟩, rfl⟩
        rw [all_of_length_le_two hshort, Bool.and_eq_true] at hitems
        refine ⟨_, ⟨hitems.1, rfl⟩, _, ⟨hitems.2, rfl⟩, ?_⟩
        rw [if_neg (Nat.not_lt.mpr hshort)]
        rfl
  | _ => simp [readSection]

end Override

namespace Server

open Override

/-! ## one value -/

/-- An accepted value is applied, and any other one changes nothing. -/
theorem value_applySettings (s : Settings) (v : Json) :
    (applySettings s v).value =
      if isAccepted v then s.apply ⟨compilerOf? v, homeOf? v⟩ else s := by
  rw [applySettings]
  cases hread : Override.read v with
  | ok o =>
      obtain ⟨haccepted, rfl⟩ := read_eq_ok_iff.mp hread
      rw [if_pos haccepted]
      rfl
  | error cause =>
      have hrefused : ¬ isAccepted v = true := fun haccepted => by
        rw [read_eq_ok_iff.mpr ⟨haccepted, rfl⟩] at hread
        contradiction
      rw [if_neg hrefused]
      rfl

/-- The compilers that accepted values have, less those that are blank. -/
def compilersIn (values : List Json) : List String :=
  ((values.filter isAccepted).filterMap compilerOf?).filter fun c => Text.trimmed c ≠ ""

/-- The installation directories that accepted values have. -/
def homesIn (values : List Json) : List Path := (values.filter isAccepted).filterMap homeOf?

theorem compiler_applySettings (s : Settings) (v : Json) :
    (applySettings s v).value.compiler = (compilersIn [v]).getLast?.getD s.compiler := by
  rw [value_applySettings]
  by_cases haccepted : isAccepted v = true
  · rw [if_pos haccepted, Settings.apply]
    cases hcompiler : compilerOf? v with
    | none => simp [compilersIn, haccepted, hcompiler]
    | some c =>
        cases hblank : Text.isBlankText c <;>
          simp [compilersIn, haccepted, hcompiler, Text.trimmed_eq_empty_iff, Option.filter, hblank]
  · simp [compilersIn, haccepted]

theorem home_applySettings (s : Settings) (v : Json) :
    (applySettings s v).value.home = (homesIn [v]).getLast?.or s.home := by
  rw [value_applySettings]
  by_cases haccepted : isAccepted v = true
  · rw [if_pos haccepted, Settings.apply]
    cases hhome : homeOf? v with
    | none => simp [homesIn, haccepted, hhome]
    | some home => simp [homesIn, haccepted, hhome]
  · simp [homesIn, haccepted]

/-! ## any number of values -/

/-- The settings after some values that the editor has sent. -/
def settingsAfter (s : Settings) (values : List Json) : Settings :=
  values.foldl (fun s value => (applySettings s value).value) s

theorem settingsAfter_concat (s : Settings) (values : List Json) (v : Json) :
    settingsAfter s (values ++ [v]) = (applySettings (settingsAfter s values) v).value := by
  rw [settingsAfter, List.foldl_append]
  rfl

/-- The compiler is the last one that is not blank. -/
theorem compiler_settingsAfter (s : Settings) (values : List Json) :
    (settingsAfter s values).compiler = (compilersIn values).getLast?.getD s.compiler := by
  induction values using List.reverseRecOn with
  | nil => rfl
  | append_singleton values v ih =>
      have hconcat : compilersIn (values ++ [v]) = compilersIn values ++ compilersIn [v] := by
        simp [compilersIn]
      rw [settingsAfter_concat, compiler_applySettings, ih, hconcat, List.getLast?_append,
        Option.getD_or]

/-- The installation directory is the last one. -/
theorem home_settingsAfter (s : Settings) (values : List Json) :
    (settingsAfter s values).home = (homesIn values).getLast?.or s.home := by
  induction values using List.reverseRecOn with
  | nil => rfl
  | append_singleton values v ih =>
      have hconcat : homesIn (values ++ [v]) = homesIn values ++ homesIn [v] := by
        simp [homesIn]
      rw [settingsAfter_concat, home_applySettings, ih, hconcat, List.getLast?_append,
        Option.or_assoc]

/-- Of all calls, those that bring settings decide about them. -/
theorem settings_run (s : Server) (steps : List (Host × Call)) :
    (s.run steps).settings =
      settingsAfter s.settings (steps.filterMap fun step => step.2.settings?) := by
  induction steps generalizing s with
  | nil => rfl
  | cons step steps ih =>
      obtain ⟨h, call⟩ := step
      rw [run_cons, ih, settings_handle]
      cases hvalue : call.settings? with
      | none => simp only [List.filterMap_cons, hvalue, Option.elim_none]
      | some value =>
          simp only [List.filterMap_cons, hvalue, Option.elim_some]
          rfl

/-- **The last word counts, field by field.**  After any values that an editor
has sent, the compiler is the last one in an accepted value that is more than
blanks, as it was sent, and the installation directory is the last one in an
accepted value; where there is none, the first settings stay.  Just the accepted
values can be read, and any other one changes nothing.  Of a session, the values
are those that its beginning and the changes of its configuration bring. -/
theorem last_accepted_value_decides :
    (∀ (s : Settings) (values : List Json),
      (settingsAfter s values).compiler = (compilersIn values).getLast?.getD s.compiler ∧
        (settingsAfter s values).home = (homesIn values).getLast?.or s.home) ∧
    (∀ v : Json, isAccepted v = true ↔ ∃ o, Override.read v = .ok o) ∧
    (∀ (s : Settings) (v : Json), isAccepted v = false → (applySettings s v).value = s) ∧
    ∀ (s : Server) (steps : List (Host × Call)),
      (s.run steps).settings =
        settingsAfter s.settings (steps.filterMap fun step => step.2.settings?) := by
  refine ⟨fun s values => ⟨compiler_settingsAfter s values, home_settingsAfter s values⟩,
    fun v => ⟨fun haccepted => ⟨_, read_eq_ok_iff.mpr ⟨haccepted, rfl⟩⟩, ?_⟩,
    fun s v hrefused => ?_, settings_run⟩
  · rintro ⟨o, hread⟩
    exact (read_eq_ok_iff.mp hread).1
  · rw [value_applySettings, hrefused]
    rfl

/-- A value whose compiler could be read, but whose installation directory is a
number. -/
def halfValue : Json := .object [("chplHome", .number (.whole 5)), ("compiler", .string "x")]

/-- Settings in a section, settings in an array with a blank compiler, and
settings that are refused. -/
def threeValues : List Json :=
  [.object [("chapel", .object [("chplHome", .string "/o"), ("compiler", .string " sh ")])],
    .array [.string "  ", .string "/p"], halfValue]

/-- The compiler comes from the first value and the directory from the second, and
the value that is refused changes neither. -/
theorem last_accepted_value_decides_halfValue :
    isAccepted halfValue = false ∧
      (applySettings ⟨" sh ", some ⟨"/p"⟩⟩ halfValue).value = ⟨" sh ", some ⟨"/p"⟩⟩ ∧
      (settingsAfter .default threeValues).compiler = " sh " ∧
      (settingsAfter .default threeValues).home = some ⟨"/p"⟩ := by
  obtain ⟨hlast, _, hrefused, _⟩ := last_accepted_value_decides
  have hhalf : isAccepted halfValue = false := by decide +kernel
  obtain ⟨hcompiler, hhome⟩ := hlast .default threeValues
  refine ⟨hhalf, hrefused _ _ hhalf, ?_, ?_⟩
  · rw [hcompiler]
    decide +kernel
  · rw [hhome]
    decide +kernel

end Server

end ChapelCheck
