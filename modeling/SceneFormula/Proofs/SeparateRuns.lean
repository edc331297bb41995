import SceneFormula.CommandLine.Transcript
import SceneFormula.Proofs.Isolation
import SceneFormula.Proofs.WrittenOptions

set_option autoImplicit false

namespace SceneFormula

namespace Expression

variable {functions : Registry} {engine : FormulaEngine} {plain : Text}

/-- Where an expression keeps what it finds has no part in how it is prepared. -/
theorem prepare_ofText_eq (functions : Registry) (engine : FormulaEngine) (here there : Place)
    (plain : Text) :
    ((ofText here plain).prepare functions engine).1 =
        ((ofText there plain).prepare functions engine).1 ∧
      ((ofText here plain).prepare functions engine).2.1 =
        { ((ofText there plain).prepare functions engine).2.1 with place := here } := by
  unfold prepare ofText
  dsimp only
  split
  · exact ⟨rfl, rfl⟩
  · exact ⟨rfl, rfl⟩
  · split <;> exact ⟨rfl, rfl⟩

/-- With the functions of the library, an expression that does not call the one that draws numbers
is steady. -/
theorem steady_of_prepare (standard : functions.IsLibrary) {place : Place}
    (quiet : LibraryFunction.random.declared ∉
      ((ofText place plain).prepare functions engine).2.1.functions) :
    ((ofText place plain).prepare functions engine).2.1.Steady := by
  intro function own
  suffices ∃ library : LibraryFunction, library.declared = function by
    obtain ⟨library, rfl⟩ := this
    rintro rfl
    exact quiet own
  obtain ⟨plan?, failureReported, same, from_⟩ :=
    (ofText place plain).exists_prepare_eq functions engine
  rw [same] at own
  rcases List.mem_append.mp own with called | added
  · cases plan? with
    | none => cases called
    | some plan =>
      obtain ⟨call, within, rfl⟩ := Plan.mem_functions_iff_within.mp called
      rcases from_ with kept | ⟨_, each⟩
      · cases kept
      · obtain ⟨kind, success⟩ := each plan rfl
        obtain ⟨_, _, _, _, binds⟩ := Plan.exists_binds_of_within success within
        exact standard.exists_declared binds.resolved
  · cases added

end Expression

namespace Scene

variable {base scene : Scene} {index : Nat}

/-- Whether expressions from an index on are evaluated in a scene as if nothing had been evaluated
in it: it resembles the scene at the start, and nothing is kept inside of these expressions. -/
structure Ready (base : Scene) (index : Nat) (scene : Scene) : Prop where
  resembles : base.Resembles scene
  regular : scene.Regular
  fresh : ∀ other, index ≤ other → scene.Fresh [other]

theorem Ready.report (ready : base.Ready index scene) (events : List Event) :
    base.Ready index { scene with events } where
  resembles := { ready.resembles with }
  regular := ⟨ready.regular.named.congr rfl rfl, ready.regular.picks⟩
  fresh := ready.fresh

theorem Ready.next (ready : base.Ready index scene) {inside : Place → Prop} {after : Scene}
    (learns : scene.Learns inside after)
    (own : ∀ place, inside place → ∃ path, place = path ++ [index]) :
    base.Ready (index + 1) after where
  resembles := ready.resembles.trans learns.resembles
  regular := ready.regular.of_learns learns
  fresh other later path := by
    rw [learns.foundAt?_of_not, ready.fresh other (by omega) path]
    intro within
    obtain ⟨inner, same⟩ := own _ within
    have last := List.singleton_inj.mp (List.append_inj_right' same rfl)
    omega

theorem Ready.skip (ready : base.Ready index scene) : base.Ready (index + 1) scene :=
  ⟨ready.resembles, ready.regular, fun other later => ready.fresh other (by omega)⟩

theorem Ready.parallel (ready : base.Ready index scene) {second : Nat} {other : Scene}
    (also : base.Ready second other) : Parallel [index] [second] scene other :=
  parallel_of_fresh (ready.resembles.symm.trans also.resembles) ready.regular also.regular
    (ready.fresh index (Nat.le_refl index)) (also.fresh second (Nat.le_refl second))

theorem Ready.exists_prepare_eq (ready : base.Ready index scene) (plain : Text) :
    ∃ events, (Expression.ofText [index] plain).prepare scene.functions scene.engine =
      (((Expression.ofText [0] plain).prepare base.functions base.engine).1,
        { ((Expression.ofText [0] plain).prepare base.functions base.engine).2.1 with
          place := [index] }, events) := by
  obtain ⟨outcome, expression⟩ :=
    Expression.prepare_ofText_eq base.functions base.engine [index] [0] plain
  rw [ready.resembles.functions, ready.resembles.engine, ← outcome, ← expression]
  exact ⟨_, rfl⟩

end Scene

def Output.result? : Output → Option Text
  | result line => some line
  | complaint _ | log _ => none

namespace Transcript

open Evaluation Scene

variable {base s t : Scene} {index : Nat} {plain : Text}

def linesOf (outputs : List Output) : List Text := outputs.filterMap Output.result?

theorem linesOf_append (first rest : List Output) :
    linesOf (first ++ rest) = linesOf first ++ linesOf rest :=
  List.filterMap_append

theorem linesOf_logged (level : Level) (scene : Scene) : linesOf (logged level scene) = [] := by
  rw [linesOf, logged, List.filterMap_map]
  exact List.filterMap_eq_nil_iff.mpr fun _ _ => rfl

theorem compares_resultOf {P : Relation} (composes : Composes P) {first second : Expression}
    (kind : first.kind? = second.kind?) (plain : first.plain = second.plain)
    (number : P _ (first.number ⟨none, none⟩) (second.number ⟨none, none⟩))
    (content : P _ (first.content ⟨none, none⟩) (second.content ⟨none, none⟩)) :
    P _ (resultOf first) (resultOf second) := by
  unfold resultOf
  rw [kind, plain]
  split
  · exact composes.bind content fun _ => composes.pure _
  · exact composes.bind number fun _ => composes.pure _

/-- The result line of an expression is the same at two places in parallel scenes. -/
theorem agrees_resultOf {expression : Expression} (steady : expression.Steady)
    (noneAdded : expression.added = []) {plan : Plan} (held : expression.plan? = some plan)
    (here there : Place) :
    (resultOf { expression with place := here }).Agrees (Parallel here there)
      (resultOf { expression with place := there }) := by
  have compares := (steady.of_plan held).compares (readsAt_parallel here there) []
    expression.plain
  have number (place : Place) :
      { expression with place := place }.number ⟨none, none⟩ =
        plan.number ⟨none, none⟩ place expression.plain :=
    @Expression.number_eq_of_added_eq_nil { expression with place } plan noneAdded held _
  have content (place : Place) :
      { expression with place := place }.content ⟨none, none⟩ =
        plan.content ⟨none, none⟩ place expression.plain := by
    rw [Expression.content, held]
  refine compares_resultOf composes_agrees rfl rfl ?_ ?_
  · rw [number, number]
    exact compares.1
  · rw [content, content]
    exact compares.2

theorem settles_resultOf {expression : Expression} (steady : expression.Steady) :
    (resultOf expression).Settles expression.Inside := by
  obtain ⟨number, content⟩ := steady.settles ⟨none, none⟩
  exact (compares_resultOf composes_settling rfl rfl ⟨rfl, number⟩ ⟨rfl, content⟩).2

/-- What is printed for an expression, and whether it is fit or what stops the run at it. -/
def verdict (level : Level) (scene : Scene) (index : Nat) (plain : Text) :
    List Text × Except RunStop Bool :=
  (linesOf (runOne level scene index plain).1, (runOne level scene index plain).2.1)

section RunOne

variable {expression : Expression} {events : List Event} (level : Level)

theorem runOne_of_failed {formulaFault textFault : SyntaxFault}
    (prepared : (Expression.ofText [index] plain).prepare s.functions s.engine =
      (.failed formulaFault textFault, expression, events)) :
    verdict level s index plain = ([], .ok false) ∧
      (runOne level s index plain).2.2 = { s with events } := by
  unfold verdict runOne
  rw [prepared]
  dsimp only
  rw [linesOf_append, linesOf_logged]
  exact ⟨rfl, rfl⟩

theorem runOne_of_raised {name : Text}
    (prepared : (Expression.ofText [index] plain).prepare s.functions s.engine =
      (.raised name, expression, events)) :
    verdict level s index plain = ([], .error (.breakdown name)) ∧
      (runOne level s index plain).2.2 = { s with events } := by
  unfold verdict runOne
  rw [prepared]
  dsimp only
  rw [linesOf_logged]
  exact ⟨rfl, rfl⟩

theorem runOne_of_fit {kind : ValueKind} {formulaFault? : Option SyntaxFault}
    (prepared : (Expression.ofText [index] plain).prepare s.functions s.engine =
      (.prepared kind formulaFault?, expression, events)) :
    let run := (resultOf expression).runIn { s with events }
    verdict level s index plain =
        (run.1.toOption.toList, (run.1.map fun _ => true).mapError .evaluation) ∧
      (runOne level s index plain).2.2 = run.2 := by
  unfold verdict runOne
  rw [prepared]
  dsimp only
  generalize (resultOf expression).runIn { s with events } = run
  obtain ⟨result, after⟩ := run
  cases result with
  | ok line =>
    dsimp only
    rw [linesOf_append, linesOf_logged]
    exact ⟨rfl, rfl⟩
  | error fault =>
    dsimp only
    rw [linesOf_logged]
    exact ⟨rfl, rfl⟩

end RunOne

/-- An expression that draws no numbers has the same result in every scene that is ready for it, and
leaves the scene ready for those after it. -/
theorem verdict_eq_of_ready (level : Level) (ready : base.Ready index s) {other : Nat}
    (also : base.Ready other t) (standard : base.functions.IsLibrary)
    (quiet : LibraryFunction.random.declared ∉
      ((Expression.ofText [0] plain).prepare base.functions base.engine).2.1.functions) :
    verdict level s index plain = verdict level t other plain ∧
      base.Ready (index + 1) (runOne level s index plain).2.2 := by
  have steady := Expression.steady_of_prepare standard quiet
  obtain ⟨events, prepared⟩ := ready.exists_prepare_eq plain
  obtain ⟨others, again⟩ := also.exists_prepare_eq plain
  -- an unfit expression is not evaluated at all; a fit one keeps identifiers inside of itself only
  cases known : ((Expression.ofText [0] plain).prepare base.functions base.engine).1 with
  | failed formulaFault textFault =>
    rw [known] at prepared again
    obtain ⟨result, after⟩ := runOne_of_failed level prepared
    obtain ⟨same, _⟩ := runOne_of_failed level again
    rw [result, same, after]
    exact ⟨rfl, (ready.report events).skip⟩
  | raised name =>
    rw [known] at prepared again
    obtain ⟨result, after⟩ := runOne_of_raised level prepared
    obtain ⟨same, _⟩ := runOne_of_raised level again
    rw [result, same, after]
    exact ⟨rfl, (ready.report events).skip⟩
  | prepared kind formulaFault? =>
    obtain ⟨plan, _, expression⟩ :=
      Expression.prepare_of_kind rfl ((congrArg Outcome.kind? known).trans rfl)
    rw [known, expression] at prepared again
    rw [expression] at steady
    obtain ⟨result, after⟩ := runOne_of_fit level prepared
    obtain ⟨same, _⟩ := runOne_of_fit level again
    have agrees := agrees_resultOf steady rfl rfl [index] [other] _ _
      ((ready.report events).parallel (also.report others))
    have own : { Expression.ofText [index] plain with plan? := some plan }.Steady := steady
    have settles := settles_resultOf own
    rw [result, same, after, agrees.1]
    refine ⟨rfl, (ready.report events).next (settles _).1 ?_⟩
    rintro place (within | ⟨_, added, _⟩)
    · exact within
    · cases added

/-- What verdicts come to in a row: all lines up to the first stop, and whether all are fit. -/
def inRow : List (List Text × Except RunStop Bool) → List Text × Except RunStop Bool
  | [] => ([], .ok true)
  | (lines, .error stop) :: _ => (lines, .error stop)
  | (lines, .ok fit) :: rest => (lines ++ (inRow rest).1, (inRow rest).2.map (fit && ·))

section InRow

variable {verdicts : List (List Text × Except RunStop Bool)} {fit : Bool}

/-- A row stops where the first of its verdicts does, with the lines up to there. -/
theorem inRow_of_error {front back : List (List Text × Except RunStop Bool)} {lines : List Text}
    {stop : RunStop} (each : ∀ one ∈ front, ∃ own, one.2 = .ok own) :
    inRow (front ++ (lines, .error stop) :: back) =
      (front.flatMap (·.1) ++ lines, .error stop) := by
  induction front with
  | nil => rfl
  | cons one rest ih =>
    obtain ⟨⟨own, outcome⟩, others⟩ := List.forall_mem_cons.mp each
    obtain ⟨ahead, verdict⟩ := one
    cases outcome
    rw [List.cons_append, inRow, ih others, List.flatMap_cons, List.append_assoc]
    rfl

/-- A row of verdicts without a stop has none, and any other one has a first. -/
theorem ok_or_exists_error (verdicts : List (List Text × Except RunStop Bool)) :
    (∀ one ∈ verdicts, ∃ own, one.2 = .ok own) ∨
      ∃ front lines stop back, verdicts = front ++ (lines, .error stop) :: back ∧
        ∀ one ∈ front, ∃ own, one.2 = .ok own := by
  induction verdicts with
  | nil => exact .inl nofun
  | cons one rest ih =>
    obtain ⟨lines, outcome⟩ := one
    cases outcome with
    | error stop => exact .inr ⟨[], lines, stop, rest, rfl, nofun⟩
    | ok own =>
      have first : ∃ fit, ((lines, .ok own) : List Text × Except RunStop Bool).2 = .ok fit :=
        ⟨own, rfl⟩
      rcases ih with all | ⟨front, more, stop, back, rfl, each⟩
      · exact .inl (List.forall_mem_cons.mpr ⟨first, all⟩)
      · exact .inr ⟨_ :: front, more, stop, back, rfl, List.forall_mem_cons.mpr ⟨first, each⟩⟩

/-- Without a stop all lines are in the row, and one verdict that is not fit is enough for the row
not to be. -/
theorem inRow_of_ok (each : ∀ one ∈ verdicts, ∃ own, one.2 = .ok own) :
    (inRow verdicts).1 = verdicts.flatMap (·.1) ∧
      ∃ fit, (inRow verdicts).2 = .ok fit ∧
        (fit = false ↔ ∃ one ∈ verdicts, one.2 = .ok false) := by
  induction verdicts with
  | nil => exact ⟨rfl, true, rfl, by simp⟩
  | cons one rest ih =>
    obtain ⟨own, outcome⟩ := each one List.mem_cons_self
    obtain ⟨lines, final, others, unfit⟩ := ih fun other member =>
      each other (List.mem_cons_of_mem one member)
    obtain ⟨front, verdict⟩ := one
    cases outcome
    rw [inRow, lines, others, List.flatMap_cons]
    refine ⟨rfl, own && final, rfl, ?_⟩
    rw [Bool.and_eq_false_iff, unfit]
    simp

theorem inRow_eq_ok_iff :
    (∃ fit, (inRow verdicts).2 = .ok fit) ↔ ∀ one ∈ verdicts, ∃ own, one.2 = .ok own := by
  constructor
  · rintro ⟨fit, done⟩
    rcases ok_or_exists_error verdicts with all | ⟨front, lines, stop, back, rfl, each⟩
    · exact all
    · rw [inRow_of_error each] at done
      cases done
  · intro each
    obtain ⟨-, fit, done, -⟩ := inRow_of_ok each
    exact ⟨fit, done⟩

end InRow

/-- Expressions that draw no numbers are evaluated one after another as each of them is at the
start. -/
theorem runAll_eq_inRow (level : Level) (start : base.Ready 0 base)
    (standard : base.functions.IsLibrary) (plains : List Text)
    (quiet : ∀ plain ∈ plains, LibraryFunction.random.declared ∉
      ((Expression.ofText [0] plain).prepare base.functions base.engine).2.1.functions)
    (ready : base.Ready index s) :
    (linesOf (runAll level s index plains).1, (runAll level s index plains).2) =
      inRow (plains.map (verdict level base 0)) := by
  -- the invariant is that the scene is ready for the expression of the next index
  induction plains generalizing index s with
  | nil => rfl
  | cons plain rest ih =>
    obtain ⟨same, next⟩ := verdict_eq_of_ready level ready start standard
      (quiet plain List.mem_cons_self)
    have others := ih (fun other member => quiet other (List.mem_cons_of_mem plain member)) next
    rw [List.map_cons, ← same, verdict, runAll]
    generalize runOne level s index plain = one at others ⊢
    obtain ⟨outputs, outcome, after⟩ := one
    cases outcome with
    | error fault => rfl
    | ok fit =>
      dsimp only at others ⊢
      rw [inRow, ← others, linesOf_append]

end Transcript

namespace Scene

variable {backends : Text → FormulaEngine} {settings : Settings} {base scene : Scene}

/-- Whether a scene is set up by settings with the functions of the library, and nothing has been
evaluated in it. -/
structure Unused (backends : Text → FormulaEngine) (settings : Settings) (scene : Scene) :
    Prop where
  functions : scene.functions = Registry.empty.insertLibrary
  engine : scene.engine = backends settings.backend
  named : scene.Named
  picks : scene.picks = []
  found : scene.found = []

theorem Unused.create (unused : Unused backends settings scene) (name : Text) (x y : HeldNumber)
    (vars : List (Text × HeldValue)) : Unused backends settings (scene.create name x y vars).2 :=
  ⟨unused.functions, unused.engine, unused.named.create name x y vars, unused.picks,
    unused.found⟩

theorem unused_registerLibrary (backends : Text → FormulaEngine) (name : Text)
    (settings : Settings) (entropy : Int) :
    Unused backends settings (ofSettings backends name settings entropy).registerLibrary := by
  obtain ⟨events, same⟩ := (ofSettings backends name settings entropy).exists_registerLibrary_eq
  rw [same]
  refine ⟨rfl, rfl, ?_, rfl, rfl⟩
  cases auto : settings.autoAssign with
  | true => exact .own ⟨auto, Identifiers.paired_empty _ _⟩ nofun
  | false => exact .none ⟨auto, fun _ => rfl⟩ nofun

/-- Where nothing has been evaluated, any expression can be evaluated as if it were the first. -/
theorem Unused.ready (unused : Unused backends settings scene) (resembles : base.Resembles scene) :
    base.Ready 0 scene where
  resembles := resembles
  regular := by
    refine ⟨unused.named, fun oid labels known => ?_⟩
    rw [picked?, unused.picks] at known
    cases known
  fresh other _ path := by
    rw [foundAt?, unused.found]
    rfl

def withGenerator (scene : Scene) (generator : Generator) : Scene := { scene with generator }

theorem exists_ofSettings_eq (backends : Text → FormulaEngine) (name : Text) (settings : Settings)
    (entropy other : Int) :
    ∃ generator, ofSettings backends name settings entropy =
      (ofSettings backends name settings other).withGenerator generator :=
  ⟨_, rfl⟩

theorem vars_withGenerator (scene : Scene) (generator : Generator) :
    (scene.withGenerator generator).vars = scene.vars := rfl

theorem create_withGenerator (scene : Scene) (generator : Generator) (name : Text)
    (x y : HeldNumber) (vars : List (Text × HeldValue)) :
    ((scene.withGenerator generator).create name x y vars).2 =
      (scene.create name x y vars).2.withGenerator generator := rfl

theorem registerLibrary_withGenerator (scene : Scene) (generator : Generator) :
    (scene.withGenerator generator).registerLibrary =
      scene.registerLibrary.withGenerator generator := by
  have each (functions : List SceneFunction) :
      functions.foldl register (scene.withGenerator generator) =
        (functions.foldl register scene).withGenerator generator := by
    induction functions generalizing scene with
    | nil => rfl
    | cons function rest ih => exact ih (scene.register function)
  unfold registerLibrary
  rw [each]
  rfl

end Scene

namespace Transcript

theorem createAll_fst (scene : Scene) (items : List Text) :
    (createAll scene items).1 = items.all fun item => (placed? item).isSome := by
  induction items generalizing scene with
  | nil => rfl
  | cons item rest ih =>
    rw [createAll, List.all_cons]
    cases placed? item with
    | none => rfl
    | some place => exact ih _

theorem of_createAll {holds : Scene → Prop}
    (each : ∀ scene name x y, holds scene → holds (scene.create name x y []).2) {scene : Scene}
    (start : holds scene) (items : List Text) : holds (createAll scene items).2 := by
  induction items generalizing scene with
  | nil => exact start
  | cons item rest ih =>
    rw [createAll]
    cases placed? item with
    | none => exact start
    | some place => exact ih (each _ _ _ _ start)

theorem createAll_of_eq_withGenerator {s t : Scene} {generator : Generator}
    (same : t = s.withGenerator generator) (items : List Text) :
    (createAll t items).2 = (createAll s items).2.withGenerator generator := by
  subst same
  induction items generalizing s with
  | nil => rfl
  | cons item rest ih =>
    rw [createAll, createAll]
    cases placed? item with
    | none => rfl
    | some place =>
      dsimp only
      rw [Scene.create_withGenerator, ih]
      rfl

/-- The scene that options describe is set up, and nothing has been evaluated in it. -/
theorem unused_setting (backends : Text → FormulaEngine) (settings : Settings) (options : Options)
    (entropy : Int) :
    Scene.Unused backends settings (setting backends settings options entropy).2 := by
  have start := Scene.unused_registerLibrary backends (Text.lit "cli") settings entropy
  refine of_createAll (fun _ name x y unused => unused.create name x y []) ?_ options.objects
  exact ⟨start.functions, start.engine, start.named.congr rfl rfl, start.picks, start.found⟩

theorem exists_setting_eq (backends : Text → FormulaEngine) (settings : Settings)
    (options : Options) (entropy other : Int) :
    ∃ generator, (setting backends settings options entropy).2 =
      (setting backends settings options other).2.withGenerator generator := by
  obtain ⟨generator, start⟩ :=
    Scene.exists_ofSettings_eq backends (Text.lit "cli") settings entropy other
  refine ⟨generator, ?_⟩
  unfold setting
  rw [start, Scene.registerLibrary_withGenerator]
  generalize (Scene.ofSettings backends (Text.lit "cli") settings other).registerLibrary = scene
  refine createAll_of_eq_withGenerator ?_ options.objects
  -- without this step the variables of both sides would be worked out to compare them
  rw [Scene.vars_withGenerator]
  rfl

/-- The expressions have no part in what a scene is set up as. -/
theorem setting_setExpressions (backends : Text → FormulaEngine) (settings : Settings)
    (options : Options) (expressions : List Text) (entropy : Int) :
    setting backends settings { options with expressions } entropy =
      setting backends settings options entropy := rfl

/-- The scenes that options describe in several runs have nothing but random numbers of their own.
-/
theorem ready_setting (backends : Text → FormulaEngine) (settings : Settings) (options : Options)
    (entropy other : Int) : (setting backends settings options other).2.Ready 0
      (setting backends settings options entropy).2 := by
  refine (unused_setting backends settings options entropy).ready ?_
  obtain ⟨generator, same⟩ := exists_setting_eq backends settings options entropy other
  rw [same]
  exact ⟨rfl, rfl, rfl, rfl, rfl, rfl, rfl, rfl⟩

def results (transcript : Transcript) : List Text := linesOf transcript.outputs

/-- Whether a run comes to its end, with an exit code. -/
def Returns (transcript : Transcript) : Prop := ∃ n, transcript.ending = .code n

instance (transcript : Transcript) : Decidable transcript.Returns :=
  match ended : transcript.ending with
  | .code n => .isTrue ⟨n, ended⟩
  | .stopped _ => .isFalse fun ⟨_, other⟩ => nomatch ended.symm.trans other

/-- Whether a transcript is that of a run of the program in an environment, for arguments that stand
for options. -/
def IsRun (backends : Text → FormulaEngine) (environment : List (Text × Text)) (options : Options)
    (transcript : Transcript) : Prop :=
  ∃ arguments entropy, Options.ofArguments arguments = .ok options ∧
    transcript = ofArguments backends arguments environment entropy

theorem isRun_written (backends : Text → FormulaEngine) (environment : List (Text × Text))
    (entropy : Int) {options : Options} (asked : options.expressions ≠ []) :
    IsRun backends environment options
      (ofArguments backends options.written environment entropy) :=
  ⟨options.written, entropy, Options.ofArguments_written asked, rfl⟩

def endingOf : Except RunStop Bool → Ending
  | .ok fit => .code (if fit then 0 else 1)
  | .error stop => .stopped stop

theorem endingOf_eq_code_one_iff {outcome : Except RunStop Bool} :
    endingOf outcome = .code 1 ↔ outcome = .ok false := by
  cases outcome with
  | ok fit => cases fit <;> simp [endingOf]
  | error fault => simp [endingOf]

theorem exists_endingOf_eq_code_iff {outcome : Except RunStop Bool} :
    (∃ n, endingOf outcome = .code n) ↔ ∃ fit, outcome = .ok fit := by
  cases outcome <;> simp [endingOf]

end Transcript

/-- What a run of the program makes of a text. -/
def Settings.attempt (backends : Text → FormulaEngine) (settings : Settings) (plain : Text) :
    Outcome × Expression × List Event :=
  (Expression.ofText [0] plain).prepare Registry.empty.insertLibrary (backends settings.backend)

namespace Transcript

/-- An expression that is not prepared prints nothing, and is not fit or stops the run. -/
theorem verdict_of_unprepared (backends : Text → FormulaEngine) (settings : Settings)
    (plain : Text) (options : Options) :
    let one := verdict settings.logLevel (setting backends settings options 0).2 0 plain
    ((settings.attempt backends plain).1.isFailed = true → one = ([], .ok false)) ∧
      ∀ name, (settings.attempt backends plain).1 = .raised name →
        one = ([], .error (.breakdown name)) := by
  intro one
  have unused := unused_setting backends settings options 0
  obtain ⟨events, prepared⟩ :=
    (ready_setting backends settings options 0 0).exists_prepare_eq plain
  rw [Settings.attempt, ← unused.functions, ← unused.engine]
  generalize ((Expression.ofText [0] plain).prepare _ _).1 = outcome at prepared ⊢
  cases outcome with
  | prepared kind formulaFault? => exact ⟨nofun, nofun⟩
  | failed formulaFault textFault =>
    exact ⟨fun _ => (runOne_of_failed settings.logLevel prepared).1, nofun⟩
  | raised name =>
    refine ⟨nofun, ?_⟩
    rintro _ ⟨⟩
    exact (runOne_of_raised settings.logLevel prepared).1

/-- Whether a run is one of several expressions in a row, and others are runs on each of them. -/
structure IsRow (together : Transcript) (alone : Text → Transcript) (plains : List Text)
    (one : Text → List Text × Except RunStop Bool) : Prop where
  results : together.results = (inRow (plains.map one)).1
  ending : together.ending = endingOf (inRow (plains.map one)).2
  single : ∀ plain ∈ plains,
    (alone plain).results = (one plain).1 ∧ (alone plain).ending = endingOf (one plain).2

namespace IsRow

variable {together : Transcript} {alone : Text → Transcript} {plains : List Text}
  {one : Text → List Text × Except RunStop Bool} (row : together.IsRow alone plains one)
include row

theorem returns_single_iff {plain : Text} (member : plain ∈ plains) :
    (alone plain).Returns ↔ ∃ own, (one plain).2 = .ok own := by
  rw [Returns, (row.single plain member).2, exists_endingOf_eq_code_iff]

theorem returns_iff : together.Returns ↔ ∀ plain ∈ plains, (alone plain).Returns := by
  rw [Returns, row.ending, exists_endingOf_eq_code_iff, inRow_eq_ok_iff, List.forall_mem_map]
  exact forall₂_congr fun plain member => (row.returns_single_iff member).symm

theorem of_returns (done : together.Returns) :
    together.results = plains.flatMap (fun plain => (alone plain).results) ∧
      (together.ending = .code 0 ∨ together.ending = .code 1) ∧
      (together.ending = .code 1 ↔ ∃ plain ∈ plains, (alone plain).ending = .code 1) := by
  have each : ∀ verdict ∈ plains.map one, ∃ own, verdict.2 = .ok own :=
    List.forall_mem_map.mpr fun plain member =>
      (row.returns_single_iff member).mp (row.returns_iff.mp done plain member)
  obtain ⟨lines, fit, last, unfit⟩ := inRow_of_ok each
  rw [row.results, lines, row.ending, last]
  refine ⟨?_, ?_, ?_⟩
  · rw [List.flatMap_map]
    exact List.flatMap_congr fun plain member => (row.single plain member).1.symm
  · cases fit with
    | false => exact .inr rfl
    | true => exact .inl rfl
  · rw [endingOf_eq_code_one_iff, Except.ok.injEq, unfit]
    simp only [List.mem_map, exists_exists_and_eq_and]
    exact exists_congr fun plain => and_congr_right fun member => by
      rw [(row.single plain member).2, endingOf_eq_code_one_iff]

/-- No verdict behind the first that stops a run is reached. -/
theorem of_stop {front back : List Text} {plain : Text} (split : plains = front ++ plain :: back)
    (before : ∀ earlier ∈ front, (alone earlier).Returns) (stops : ¬ (alone plain).Returns) :
    together.results =
        front.flatMap (fun earlier => (alone earlier).results) ++ (alone plain).results ∧
      together.ending = (alone plain).ending := by
  have member : plain ∈ plains := split ▸ List.mem_append_right _ List.mem_cons_self
  have among : ∀ earlier ∈ front, earlier ∈ plains := fun earlier first =>
    split ▸ List.mem_append_left _ first
  have ahead : ∀ verdict ∈ front.map one, ∃ own, verdict.2 = .ok own :=
    List.forall_mem_map.mpr fun earlier first =>
      (row.returns_single_iff (among earlier first)).mp (before earlier first)
  rw [row.returns_single_iff member] at stops
  rw [(row.single plain member).1, (row.single plain member).2, row.results, row.ending, split,
    List.map_append, List.map_cons]
  generalize one plain = own at stops
  obtain ⟨lines, outcome⟩ := own
  cases outcome with
  | ok fit => exact absurd ⟨fit, rfl⟩ stops
  | error stop =>
    rw [inRow_of_error ahead, List.flatMap_map]
    refine ⟨congrArg (· ++ lines) ?_, rfl⟩
    exact List.flatMap_congr fun earlier first =>
      (row.single earlier (among earlier first)).1.symm

end IsRow

section Runs

variable {backends : Text → FormulaEngine} {environment : List (Text × Text)}
  {settings : Settings} {options : Options}
  (valid : Settings.read environment [] = .ok settings)
  (placed : ∀ item ∈ options.objects, (placed? item).isSome = true)
include valid placed

theorem ofArguments_eq {arguments : List Text} (entropy : Int)
    (understood : Options.ofArguments arguments = .ok options) :
    let scene := (setting backends settings options entropy).2
    let run := runAll settings.logLevel scene 0 options.expressions
    ofArguments backends arguments environment entropy =
      ⟨logged settings.logLevel scene ++ run.1, endingOf run.2, settings.logFormat⟩ := by
  have complete : (setting backends settings options entropy).1 = true :=
    (createAll_fst _ options.objects).trans (List.all_eq_true.mpr placed)
  unfold ofArguments
  rw [valid]
  dsimp only
  rw [understood]
  dsimp only
  rw [complete, Bool.not_true, if_neg Bool.false_ne_true]
  generalize runAll settings.logLevel _ 0 options.expressions = run
  obtain ⟨outputs, outcome⟩ := run
  cases outcome <;> rfl

theorem IsRun.eq_inRow {transcript : Transcript}
    (run : transcript.IsRun backends environment options)
    (quiet : ∀ plain ∈ options.expressions,
      LibraryFunction.random.declared ∉ (settings.attempt backends plain).2.1.functions) :
    let scene := (setting backends settings options 0).2
    let row := inRow (options.expressions.map (verdict settings.logLevel scene 0))
    transcript.results = row.1 ∧ transcript.ending = endingOf row.2 := by
  obtain ⟨arguments, entropy, understood, rfl⟩ := run
  have unused := unused_setting backends settings options 0
  have standard : Registry.empty.insertLibrary.IsLibrary := fun _ => rfl
  have row := runAll_eq_inRow settings.logLevel (ready_setting backends settings options 0 0)
    (unused.functions ▸ standard) options.expressions
    (by rw [unused.functions, unused.engine]; exact quiet)
    (ready_setting backends settings options entropy 0)
  rw [ofArguments_eq valid placed entropy understood, results, linesOf_append, linesOf_logged]
  exact ⟨congrArg Prod.fst row, congrArg (fun pair => endingOf pair.2) row⟩

theorem IsRun.eq_verdict {transcript : Transcript} {plain : Text}
    (run : transcript.IsRun backends environment { options with expressions := [plain] })
    (quiet : LibraryFunction.random.declared ∉
      (settings.attempt backends plain).2.1.functions) :
    let one := verdict settings.logLevel (setting backends settings options 0).2 0 plain
    transcript.results = one.1 ∧ transcript.ending = endingOf one.2 := by
  have row := @IsRun.eq_inRow backends environment settings
    { options with expressions := [plain] } valid placed transcript run
    (List.forall_mem_singleton.mpr quiet)
  rw [setting_setExpressions] at row
  dsimp only at row ⊢
  rw [List.map_singleton] at row
  generalize verdict settings.logLevel (setting backends settings options 0).2 0 plain = one
    at row ⊢
  obtain ⟨lines, outcome⟩ := one
  cases outcome with
  | error stop => exact row
  | ok fit =>
    rw [inRow, inRow, List.append_nil] at row
    cases fit <;> exact row

/-- The expressions of a command line do not influence each other. Whenever the settings can be read
and the objects have places, and no expression draws a number, a run comes to its end exactly if a
run on each of the expressions alone, with the same options, does. Then it prints what they print,
in order, and its exit code is one if theirs is for any of them, and otherwise zero. Otherwise it
stops as the first of them that stops. An expression that cannot be prepared prints nothing, and
nothing else becomes of it unless the engine breaks down over it. -/
theorem together_eq_alone {together : Transcript} {alone : Text → Transcript}
    (quiet : ∀ plain ∈ options.expressions,
      LibraryFunction.random.declared ∉ (settings.attempt backends plain).2.1.functions)
    (run : together.IsRun backends environment options)
    (runs : ∀ plain ∈ options.expressions,
      (alone plain).IsRun backends environment { options with expressions := [plain] }) :
    (together.Returns ↔ ∀ plain ∈ options.expressions, (alone plain).Returns) ∧
      (∀ plain ∈ options.expressions,
        ((settings.attempt backends plain).1.isFailed = true →
          (alone plain).results = [] ∧ (alone plain).ending = .code 1) ∧
        ∀ name, (settings.attempt backends plain).1 = .raised name →
          (alone plain).results = [] ∧ (alone plain).ending = .stopped (.breakdown name)) ∧
      (together.Returns →
        together.results = options.expressions.flatMap (fun plain => (alone plain).results) ∧
          (together.ending = .code 0 ∨ together.ending = .code 1) ∧
          (together.ending = .code 1 ↔
            ∃ plain ∈ options.expressions, (alone plain).ending = .code 1)) ∧
      ∀ front plain back, options.expressions = front ++ plain :: back →
        (∀ earlier ∈ front, (alone earlier).Returns) → ¬ (alone plain).Returns →
          together.results =
              front.flatMap (fun earlier => (alone earlier).results) ++ (alone plain).results ∧
            together.ending = (alone plain).ending := by
  let one := verdict settings.logLevel (setting backends settings options 0).2 0
  obtain ⟨printed, ended⟩ := run.eq_inRow valid placed quiet
  have row : together.IsRow alone options.expressions one :=
    ⟨printed, ended, fun plain member =>
      (runs plain member).eq_verdict valid placed (quiet plain member)⟩
  refine ⟨row.returns_iff, fun plain member => ?_, row.of_returns, fun front plain back split =>
    row.of_stop split⟩
  obtain ⟨failed, raised⟩ := verdict_of_unprepared backends settings plain options
  rw [(row.single plain member).1, (row.single plain member).2]
  refine ⟨fun unfit => ?_, fun name broken => ?_⟩
  · have known : one plain = ([], .ok false) := failed unfit
    rw [known]
    exact ⟨rfl, rfl⟩
  · have known : one plain = ([], .error (.breakdown name)) := raised name broken
    rw [known]
    exact ⟨rfl, rfl⟩

end Runs

/-- Names and variables as texts, a formula that breaks off, and one over which the engine breaks
down. -/
theorem together_eq_alone_hero :
    let options : Options :=
      ⟨[Text.lit "Hero.Name() + VariableString(mood)", Text.lit "1 +", Text.lit "Ghost.Name()"],
        [Text.lit "mood= glad"], [Text.lit "Hero:1:2", Text.lit "Hero"]⟩
    let broken : Options :=
      ⟨[Text.lit "1", Text.lit "abs(2^asin(2))", Text.lit "2"], [], []⟩
    let run (options : Options) := ofArguments .ofModules options.written [] 0
    let alone (plain : Text) := run { options with expressions := [plain] }
    (run options).results = [Text.lit "Hero.Name() + VariableString(mood) = 'Hero glad'",
        Text.lit "Ghost.Name() = ''"] ∧
      (run options).results = options.expressions.flatMap (fun plain => (alone plain).results) ∧
      (run options).ending = .code 1 ∧
      (run broken).results = [Text.lit "1 = 1"] ∧
      ∃ name, (run broken).ending = .stopped (.breakdown name) := by
  intro options broken run alone
  let settings : Settings := ⟨Text.lit "math", true, 1, none, .info, .console, Int.le_refl 1⟩
  have valid : Settings.read [] [] = .ok settings := rfl
  have placed : ∀ item ∈ options.objects, (placed? item).isSome = true := by decide +kernel
  have steady : ∀ plain ∈ options.expressions,
      (settings.attempt .ofModules plain).2.1.Steady := by decide +kernel
  have quiet : ∀ plain ∈ options.expressions,
      LibraryFunction.random.declared ∉ (settings.attempt .ofModules plain).2.1.functions :=
    fun plain member called => steady plain member _ called rfl
  have returns : (run options).Returns := by decide +kernel
  have unfit : (settings.attempt .ofModules (Text.lit "1 +")).1.isFailed = true := by
    decide +kernel
  obtain ⟨-, failed, same, -⟩ := together_eq_alone valid placed quiet
    (isRun_written .ofModules [] 0 (List.cons_ne_nil _ _))
    fun plain _ => isRun_written .ofModules [] 0 (List.cons_ne_nil plain [])
  obtain ⟨printed, -, code⟩ := same returns
  have second : Text.lit "1 +" ∈ options.expressions := .tail _ (.head _)
  refine ⟨by decide +kernel, printed, code.mpr ⟨_, second, ((failed _ second).1 unfit).2⟩, ?_⟩
  let single (plain : Text) := run { broken with expressions := [plain] }
  have calm : ∀ plain ∈ broken.expressions,
      (settings.attempt .ofModules plain).2.1.Steady := by decide +kernel
  obtain ⟨-, unprepared, -, stops⟩ := together_eq_alone valid (List.forall_mem_nil _)
    (fun plain member called => calm plain member _ called rfl)
    (isRun_written .ofModules [] 0 (List.cons_ne_nil _ _))
    fun plain _ => isRun_written .ofModules [] 0 (List.cons_ne_nil plain [])
  have first : ∀ earlier ∈ [Text.lit "1"], (single earlier).Returns := by decide +kernel
  have breaks : ¬ (single (Text.lit "abs(2^asin(2))")).Returns := by decide +kernel
  have one : (single (Text.lit "1")).results = [Text.lit "1 = 1"] := by decide +kernel
  obtain ⟨name, raised⟩ : ∃ name,
      (settings.attempt .ofModules (Text.lit "abs(2^asin(2))")).1 = .raised name := by
    have unfit : (settings.attempt .ofModules (Text.lit "abs(2^asin(2))")).1.kind? = none ∧
        (settings.attempt .ofModules (Text.lit "abs(2^asin(2))")).1.isFailed = false := by
      decide +kernel
    cases known : (settings.attempt .ofModules (Text.lit "abs(2^asin(2))")).1 with
    | prepared kind formulaFault? => cases (congrArg Outcome.kind? known).symm.trans unfit.1
    | failed formulaFault textFault =>
      cases (congrArg Outcome.isFailed known).symm.trans unfit.2
    | raised name => exact ⟨name, rfl⟩
  obtain ⟨lines, ending⟩ := stops _ _ _ rfl first breaks
  obtain ⟨silent, ended⟩ := (unprepared _ (.tail _ (.head _))).2 name raised
  rw [silent, List.append_nil, List.flatMap_singleton] at lines
  exact ⟨lines.trans one, name, ending.trans ended⟩

end Transcript

end SceneFormula
