import Mathlib.Data.List.Basic
import SceneFormula.CommandLine.Options

set_option autoImplicit false

namespace SceneFormula

def OptionName.TakesValue : OptionName → Prop
  | help => False
  | setVariable | object => True

namespace Options

variable {entries : List (OptionName × Text)} {options : Options}

/-- An option as one argument, with its value after an equals sign. -/
def argumentOf (one : OptionName × Text) : Text := one.1.shown ++ '=' :: one.2

/-- An option with its value, as it is read. -/
def readOption (one : OptionName × Text) : Text × ArgumentRole :=
  (argumentOf one, .option one.1 one.1.shown (some one.2))

/-- The separator and the plain arguments after it, as they are read. -/
def readPlains (plains : List Text) : List (Text × ArgumentRole) :=
  (['-', '-'], .separator) :: plains.map fun plain => (plain, .plain)

/-- The variables and objects as options. -/
def given (options : Options) : List (OptionName × Text) :=
  options.vars.map (OptionName.setVariable, ·) ++ options.objects.map (OptionName.object, ·)

def written (options : Options) : List Text :=
  options.given.map argumentOf ++ ['-', '-'] :: options.expressions

theorem roleOf_argumentOf {one : OptionName × Text} (takes : one.1.TakesValue) :
    argumentOf one ≠ ['-', '-'] ∧
      roleOf (argumentOf one) = .ok (.option one.1 one.1.shown (some one.2)) := by
  obtain ⟨name, value⟩ := one
  cases name with
  | help => exact takes.elim
  | setVariable | object =>
    simp [argumentOf, roleOf, cutValue?, OptionName.shown, OptionName.spelled?,
      OptionName.spellings, Text.lit]

theorem roles_written (takes : ∀ one ∈ entries, one.1.TakesValue) (plains : List Text) :
    roles (entries.map argumentOf ++ ['-', '-'] :: plains) =
      .ok (entries.map readOption ++ readPlains plains) := by
  induction entries with
  | nil => rfl
  | cons one rest ih =>
    obtain ⟨different, known⟩ := roleOf_argumentOf (takes one List.mem_cons_self)
    rw [List.map_cons, List.cons_append, roles, if_neg different, known,
      ih fun other member => takes other (List.mem_cons_of_mem one member)]
    rfl

theorem readFrom_written (takes : ∀ one ∈ entries, one.1.TakesValue) (plains : List Text)
    (reading : Reading) :
    readFrom reading [] (entries.map readOption ++ readPlains plains) =
      .ok ((entries.foldl (fun reading one => reading.addOption one.1 one.2) reading).finish
        (readPlains plains)) := by
  induction entries generalizing reading with
  | nil => rfl
  | cons one rest ih =>
    have others := ih (fun other member => takes other (List.mem_cons_of_mem one member))
      (reading.addOption one.1 one.2)
    have own := takes one List.mem_cons_self
    obtain ⟨name, value⟩ := one
    cases name with
    | help => exact own.elim
    | setVariable | object => exact others

def valuesOf (name : OptionName) (entries : List (OptionName × Text)) : List Text :=
  (entries.filter fun one => one.1 = name).map (·.2)

theorem foldl_addOption (entries : List (OptionName × Text)) (reading : Reading) :
    entries.foldl (fun reading one => reading.addOption one.1 one.2) reading =
      { reading with
        vars := reading.vars ++ valuesOf .setVariable entries
        objects := reading.objects ++ valuesOf .object entries } := by
  induction entries generalizing reading with
  | nil => simp [valuesOf]
  | cons one rest ih =>
    obtain ⟨name, value⟩ := one
    rw [List.foldl_cons, ih]
    cases name <;> simp [Reading.addOption, valuesOf]

theorem valuesOf_given (options : Options) :
    valuesOf .setVariable options.given = options.vars ∧
      valuesOf .object options.given = options.objects := by
  simp [valuesOf, given, List.filter_map, Function.comp_def, List.filter_true, List.filter_false]

theorem finish_readPlains {reading : Reading} (first : reading.expressions? = none)
    {plains : List Text} (asked : plains ≠ []) :
    reading.finish (readPlains plains) = { reading with expressions? := some plains } := by
  unfold Reading.finish readPlains
  dsimp only
  rw [List.filter_cons_of_neg Bool.false_ne_true, List.filter_map, List.map_map]
  simp [first, asked, Function.comp_def]

/-- Options with an expression at least are read back as they are written. -/
theorem ofArguments_written (asked : options.expressions ≠ []) :
    ofArguments options.written = .ok options := by
  have takes : ∀ one ∈ options.given, one.1.TakesValue := by
    intro one member
    rcases List.mem_append.mp member with var | object
    · obtain ⟨_, _, rfl⟩ := List.mem_map.mp var
      trivial
    · obtain ⟨_, _, rfl⟩ := List.mem_map.mp object
      trivial
  obtain ⟨vars, objects⟩ := options.valuesOf_given
  rw [written, ofArguments, roles_written takes]
  dsimp only
  rw [readFrom_written takes, foldl_addOption, vars, objects, finish_readPlains rfl asked]
  rfl

end Options

end SceneFormula
