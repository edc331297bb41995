import SceneFormula.Proofs.Traversal

set_option autoImplicit false

namespace SceneFormula

namespace Evaluation

variable {α β : Type} {related : Scene → Scene → Prop}

/-- Whether two evaluations have the same outcome in related scenes, and leave them related. -/
def Agrees (related : Scene → Scene → Prop) (first second : Evaluation α) : Prop :=
  ∀ s t, related s t → (first.runIn s).1 = (second.runIn t).1 ∧
    related (first.runIn s).2 (second.runIn t).2

theorem agrees_pure (value : α) : Agrees related (pure value) (pure value) :=
  fun _ _ alike => ⟨rfl, alike⟩

theorem agrees_throw (fault : EvaluationFault) :
    Agrees related (throw fault : Evaluation α) (throw fault) :=
  fun _ _ alike => ⟨rfl, alike⟩

theorem agrees_ask {question : Scene → α} (same : ∀ s t, related s t → question s = question t) :
    Agrees related (ask question) (ask question) :=
  fun s t alike => ⟨congrArg Except.ok (same s t alike), alike⟩

theorem agrees_step {first second : Scene → α × Scene}
    (same : ∀ s t, related s t → (first s).1 = (second t).1 ∧ related (first s).2 (second t).2) :
    Agrees related (step first) (step second) :=
  fun s t alike => ⟨congrArg Except.ok (same s t alike).1, (same s t alike).2⟩

/-- Steps in a row agree if the first do and, whatever value they give, the others do. -/
theorem Agrees.bind {first second : Evaluation α} {next after : α → Evaluation β}
    (start : first.Agrees related second)
    (others : ∀ value, (next value).Agrees related (after value)) :
    (first >>= next).Agrees related (second >>= after) := by
  intro s t alike
  obtain ⟨same, between⟩ := start s t alike
  rw [runIn_bind, runIn_bind]
  generalize first.runIn s = one at same between ⊢
  generalize second.runIn t = other at same between ⊢
  obtain ⟨outcome, s'⟩ := one
  obtain ⟨final, t'⟩ := other
  change outcome = final at same
  subst same
  cases outcome with
  | error fault => exact ⟨rfl, between⟩
  | ok value => exact others value s' t' between

theorem composes_agrees : Composes fun _ => Agrees related :=
  ⟨agrees_pure, agrees_throw, fun start others => start.bind others⟩

theorem Agrees.observe {first second : Evaluation α} (same : first.Agrees related second) :
    first.observe.Agrees related second.observe := by
  intro s t alike
  rw [runIn_observe, runIn_observe]
  exact ⟨congrArg Except.ok (same s t alike).1, (same s t alike).2⟩

end Evaluation

def Scene.Identifies (related : Scene → Scene → Prop) (here there : Place) (name : Text) : Prop :=
  Evaluation.Agrees related (.step (·.identifyAt here name)) (.step (·.identifyAt there name))

/-- Relations between scenes that functions cannot tell apart, but for the identifiers at places. -/
structure Scene.Alike (related : Scene → Scene → Prop) : Prop where
  objects : ∀ s t, related s t → s.objects = t.objects
  vars : ∀ s t, related s t → s.vars = t.vars
  timeDelta : ∀ s t, related s t → s.timeDelta = t.timeDelta
  elapsedTime : ∀ s t, related s t → s.elapsedTime = t.elapsedTime
  generator : ∀ s t, related s t → s.generator = t.generator ∧
    ∀ generator, related { s with generator } { t with generator }
  pick : ∀ oid, Evaluation.Agrees related (.step (·.pick oid)) (.step (·.pick oid))
  count : ∀ registration, Evaluation.Agrees related (.step (·.count registration))
    (.step (·.count registration))
  completed : ∀ s t, related s t → s.completed = t.completed ∧
    ∀ completed, related { s with completed } { t with completed }

/-- Properties of scenes that last whatever functions do, but for the identifiers at places. -/
structure Scene.Lasting (holds : Scene → Prop) : Prop where
  generator : ∀ scene generator, holds scene → holds { scene with generator }
  pick : ∀ scene oid, holds scene → holds (scene.pick oid).2
  count : ∀ scene registration, holds scene → holds (scene.count registration).2
  completed : ∀ scene completed, holds scene → holds { scene with completed }

section Lasting

variable {holds : Scene → Prop}

theorem Scene.Lasting.alike (lasting : Lasting holds) : Alike fun s t => s = t ∧ holds s where
  objects := by
    rintro s _ ⟨rfl, -⟩
    rfl
  vars := by
    rintro s _ ⟨rfl, -⟩
    rfl
  timeDelta := by
    rintro s _ ⟨rfl, -⟩
    rfl
  elapsedTime := by
    rintro s _ ⟨rfl, -⟩
    rfl
  generator := by
    rintro s _ ⟨rfl, held⟩
    exact ⟨rfl, fun _ => ⟨rfl, lasting.generator s _ held⟩⟩
  pick oid := by
    refine Evaluation.agrees_step ?_
    rintro s _ ⟨rfl, held⟩
    exact ⟨rfl, rfl, lasting.pick s oid held⟩
  count registration := by
    refine Evaluation.agrees_step ?_
    rintro s _ ⟨rfl, held⟩
    exact ⟨rfl, rfl, lasting.count s registration held⟩
  completed := by
    rintro s _ ⟨rfl, held⟩
    exact ⟨rfl, fun _ => ⟨rfl, lasting.completed s _ held⟩⟩

theorem Scene.identifies_of_lasting {place : Place} {name : Text}
    (keeps : ∀ scene, holds scene → holds (scene.identifyAt place name).2) :
    Identifies (fun s t => s = t ∧ holds s) place place name := by
  refine Evaluation.agrees_step ?_
  rintro s _ ⟨rfl, held⟩
  exact ⟨rfl, rfl, keeps s held⟩

end Lasting

/-- Whether two arguments are the same to a function. -/
structure Access.Agrees (related : Scene → Scene → Prop) (first second : Access) : Prop where
  plain : first.plain = second.plain
  identifies : Scene.Identifies related first.place second.place first.plain
  number : first.number.Agrees related second.number
  text : first.text.Agrees related second.text

/-- Whether two calls are the same to their function. -/
structure CallSite.Agrees (related : Scene → Scene → Prop) (first second : CallSite) : Prop where
  source : first.source = second.source
  object : first.object? = second.object?
  participants : first.participants = second.participants
  identifies : ∀ name, first.object? = some name →
    Scene.Identifies related (0 :: first.place) (0 :: second.place) name
  arguments : List.Forall₂ (Access.Agrees related) first.arguments second.arguments

namespace CallSite

open Evaluation

variable {related : Scene → Scene → Prop} {first second : CallSite}

variable (agrees : first.Agrees related second)
include agrees

theorem Agrees.argumentId (index : Nat) :
    (first.argumentId index).Agrees related (second.argumentId index) :=
  compares_argument composes_agrees agrees.arguments index fun _ _ same =>
    same.plain ▸ same.identifies

theorem Agrees.ofObject {α : Type} {read other : Text → Evaluation α}
    (each : ∀ name, first.object? = some name → (read name).Agrees related (other name)) :
    (first.object >>= read).Agrees related (second.object >>= other) := by
  rw [CallSite.object, CallSite.object, ← agrees.object]
  cases known : first.object? with
  | none => exact agrees_throw .noObject
  | some name => exact each name known

theorem Agrees.answersObject : first.object.Agrees related second.object := by
  have same : (first.object >>= pure).Agrees related (second.object >>= pure) :=
    agrees.ofObject fun name _ => agrees_pure name
  simpa using same

theorem Agrees.objectId : first.objectId.Agrees related second.objectId :=
  agrees.ofObject agrees.identifies

theorem Agrees.compares (alike : Scene.Alike related) :
    first.Compares (fun _ => Evaluation.Agrees related) second where
  target := by
    refine agrees.objectId.bind fun oid => (agrees_ask alike.objects).bind fun objects => ?_
    rw [← agrees.participants]
    dsimp only
    split
    · exact agrees_pure _
    · exact (alike.pick oid).bind fun labels => agrees_pure _
  arguments := by
    refine agrees.arguments.imp fun x y same => ⟨same.plain, ?_, same.number, same.text⟩
    rw [← same.plain]
    exact Evaluation.Agrees.bind same.identifies alike.pick

theorem Agrees.answer (alike : Scene.Alike related) (question : Question) :
    (first.answer question).Agrees related (second.answer question) := by
  have compares := agrees.compares alike
  cases question with
  | number index => exact compares.number composes_agrees index
  | text index => exact compares.text composes_agrees index
  | identifier index => exact compares.identifier composes_agrees index
  | argumentId index => exact agrees.argumentId index
  | source =>
    rw [CallSite.answer, CallSite.answer, agrees.source]
    exact agrees_pure _
  | object => exact agrees.answersObject
  | objectId => exact agrees.objectId

end CallSite

section Bodies

open Evaluation

variable {related : Scene → Scene → Prop} {first second : CallSite}

theorem LibraryFunction.agrees_run (alike : Scene.Alike related)
    (agrees : first.Agrees related second) (function : LibraryFunction) :
    (function.run first).Agrees related (function.run second) := by
  have compares := agrees.compares alike
  by_cases draws : function = .random
  · subst draws
    refine (compares.integer composes_agrees 0).bind fun limit => ?_
    refine (agrees_step fun s t same => ?_).bind fun _ => agrees_pure _
    obtain ⟨drawn, later⟩ := alike.generator s t same
    rw [drawn]
    exact ⟨rfl, later _⟩
  · have reads : Reads fun _ => Agrees related :=
      ⟨composes_agrees, agrees_ask alike.vars, agrees_ask alike.timeDelta,
        agrees_ask alike.elapsedTime⟩
    exact LibraryFunction.compares_run reads compares draws

/-- Whether an action makes no change of the world of its own, whatever the answers to its questions
are. -/
def CustomAction.LeavesWorld : CustomAction → Prop
  | constant _ | failure | pass => True
  | ask _ next caught =>
    (∀ answer, (next answer).LeavesWorld) ∧ ∀ fault, (caught fault).LeavesWorld
  | count next => ∀ times, (next times).LeavesWorld
  | change _ _ => False

/-- Whether a function makes no change of the world but those of the library. -/
def Body.LeavesWorld : Body → Prop
  | library _ => True
  | custom _ action => action.LeavesWorld

def Registry.LeavesWorld (functions : Registry) : Prop :=
  ∀ key function, functions.get? key = some function → function.body.LeavesWorld

theorem Registry.LeavesWorld.insert {functions : Registry} (leaves : functions.LeavesWorld)
    {function : SceneFunction} (own : function.body.LeavesWorld) :
    (functions.insert function).LeavesWorld := by
  intro key other found
  by_cases same : key = function.key
  · rw [same, get?_insert_self] at found
    cases found
    exact own
  · rw [get?_insert_of_ne _ _ same] at found
    exact leaves key other found

theorem Registry.LeavesWorld.erase? {functions after : Registry} (leaves : functions.LeavesWorld)
    {key : FunctionKey} (erased : functions.erase? key = some after) : after.LeavesWorld := by
  intro other function found
  by_cases same : other = key
  · rw [same, get?_of_erase?_self erased] at found
    cases found
  · rw [get?_of_erase?_of_ne erased same] at found
    exact leaves other function found

theorem Registry.LeavesWorld.insertLibrary {functions : Registry} (leaves : functions.LeavesWorld) :
    functions.insertLibrary.LeavesWorld := by
  have each : ∀ function ∈ library, function.body.LeavesWorld := by
    intro function member
    obtain ⟨own, _, rfl⟩ := List.mem_map.mp member
    trivial
  unfold Registry.insertLibrary
  generalize library = others at each
  induction others generalizing functions with
  | nil => exact leaves
  | cons function rest ih =>
    refine ih (leaves.insert (each function List.mem_cons_self)) fun other member => ?_
    exact each other (List.mem_cons_of_mem _ member)

/-- Whether each change of the world that an action makes keeps related scenes related. -/
def CustomAction.Bears (related : Scene → Scene → Prop) : CustomAction → Prop
  | constant _ | failure | pass => True
  | ask _ next caught =>
    (∀ answer, (next answer).Bears related) ∧ ∀ fault, (caught fault).Bears related
  | count next => ∀ times, (next times).Bears related
  | change act next =>
    Agrees related (step (·.act act)) (step (·.act act)) ∧ ∀ world, (next world).Bears related

/-- Whether each change of the world that a function makes keeps related scenes related. -/
def Body.Bears (related : Scene → Scene → Prop) : Body → Prop
  | library _ => True
  | custom _ action => action.Bears related

theorem CustomAction.LeavesWorld.bears {action : CustomAction} (leaves : action.LeavesWorld) :
    action.Bears related := by
  induction action with
  | constant _ | failure | pass => trivial
  | ask question next caught ihNext ihCaught =>
    exact ⟨fun answer => ihNext answer (leaves.1 answer), fun fault =>
      ihCaught fault (leaves.2 fault)⟩
  | count next ih => exact fun times => ih times (leaves times)
  | change act next => exact leaves.elim

theorem Body.LeavesWorld.bears {body : Body} (leaves : body.LeavesWorld) : body.Bears related := by
  cases body with
  | library function => trivial
  | custom registration action => exact CustomAction.LeavesWorld.bears leaves

theorem Body.bears_of_acts
    (acts : ∀ act, Agrees related (step (·.act act)) (step (·.act act))) (body : Body) :
    body.Bears related := by
  cases body with
  | library function => trivial
  | custom registration action =>
    change action.Bears related
    induction action with
    | constant _ | failure | pass => trivial
    | ask question next caught ihNext ihCaught => exact ⟨ihNext, ihCaught⟩
    | count next ih => exact ih
    | change act next ih => exact ⟨acts act, ih⟩

theorem CustomAction.agrees_run (alike : Scene.Alike related)
    (agrees : first.Agrees related second) (registration : Nat) {action : CustomAction}
    (bears : action.Bears related) (handled? : Option EvaluationFault) :
    (action.run registration first handled?).Agrees related
      (action.run registration second handled?) := by
  induction action generalizing handled? with
  | constant value => exact agrees_pure value
  | failure => exact agrees_throw .failure
  | pass => exact agrees_throw _
  | ask question next caught ihNext ihCaught =>
    rw [run, run]
    refine (agrees.answer alike question).observe.bind fun outcome => ?_
    cases outcome with
    | ok answer => exact ihNext answer (bears.1 answer) handled?
    | error fault => exact ihCaught fault (bears.2 fault) (some fault)
  | count next ih =>
    exact (alike.count registration).bind fun times => ih times (bears times) handled?
  | change act next ih => exact bears.1.bind fun world => ih world (bears.2 world) handled?

theorem Body.agrees_run (alike : Scene.Alike related) (agrees : first.Agrees related second)
    {body : Body} (bears : body.Bears related) :
    (body.run first).Agrees related (body.run second) := by
  cases body with
  | library function => exact function.agrees_run alike agrees
  | custom registration action =>
    refine (action.agrees_run alike agrees registration bears none).bind fun value => ?_
    refine agrees_step fun s t same => ⟨rfl, ?_⟩
    obtain ⟨before, later⟩ := alike.completed s t same
    rw [before, agrees.source]
    exact later _

end Bodies

/-- The name that stands in a call where a path leads to, from the outside in: that of its object,
an argument as a name, or a name in the argument's plan. -/
def Instruction.textAt? : Instruction → List Nat → Option Text
  | call, [0] => call.object?
  | call, [index + 1] => call.arguments[index]?.map Argument.plain
  | call, (index + 1) :: inner :: path => do
    let argument ← call.arguments[index]?
    let plan ← argument.plan?
    (← plan.call? inner).textAt? path
  | _, _ => none

/-- Whether each name in a call is given the same identifier at two places of the call. -/
def Instruction.Identifies (related : Scene → Scene → Prop) (here there : Place)
    (call : Instruction) : Prop :=
  ∀ path name, call.textAt? path = some name →
    Scene.Identifies related (path.reverse ++ here) (path.reverse ++ there) name

/-- Whether each name in a plan is given the same identifier at two places of the plan. -/
def Plan.Identifies (related : Scene → Scene → Prop) (here there : Place) (plan : Plan) : Prop :=
  ∀ index call, plan.call? index = some call →
    call.Identifies related (index :: here) (index :: there)

/-- Whether a call is evaluated alike wherever its names are given the same identifiers. -/
def Instruction.Agrees (related : Scene → Scene → Prop) (call : Instruction) : Prop :=
  ∀ who here there, call.Identifies related here there →
    (call.value who here).Agrees related (call.value who there)

/-- Whether a plan is evaluated alike wherever its names are given the same identifiers. -/
def Plan.Agrees (related : Scene → Scene → Prop) (plan : Plan) : Prop :=
  ∀ who here there plain, plan.Identifies related here there →
    (plan.number who here plain).Agrees related (plan.number who there plain) ∧
      (plan.content who here plain).Agrees related (plan.content who there plain)

section Plans

open Evaluation

variable {related : Scene → Scene → Prop} {here there : Place} {who : Participants}

theorem Argument.agrees_access {argument : Argument}
    (each : ∀ plan, argument.plan? = some plan → plan.Agrees related)
    (own : Scene.Identifies related here there argument.plain)
    (inner : ∀ plan, argument.plan? = some plan → plan.Identifies related here there) :
    Access.Agrees related (access who here argument) (access who there argument) := by
  cases argument with
  | name plain => exact ⟨rfl, own, agrees_throw _, agrees_throw _⟩
  | prepared plain plan =>
    obtain ⟨number, text⟩ := each plan rfl who here there plain (inner plan rfl)
    exact ⟨rfl, own, number, text⟩

theorem Instruction.agrees_of_arguments {call : Instruction} (alike : Scene.Alike related)
    (bears : call.function.body.Bears related)
    (each : ∀ argument ∈ call.arguments, ∀ plan, argument.plan? = some plan →
      plan.Agrees related) :
    call.Agrees related := by
  intro who here there identifies
  have arguments : List.Forall₂ (Access.Agrees related)
      (Argument.accesses who here 1 call.arguments)
      (Argument.accesses who there 1 call.arguments) := by
    refine Argument.forall₂_accesses fun index argument found => ?_
    refine Argument.agrees_access (each argument (List.mem_of_getElem? found)) ?_
      fun plan held => ?_
    · have own := identifies [index + 1] argument.plain (by simp [textAt?, found])
      simpa [Nat.add_comm 1] using own
    · intro inner other held' path name known
      have own := identifies ((index + 1) :: inner :: path) name
        (by simp [textAt?, found, held, held', known])
      simpa [Nat.add_comm 1] using own
  have site : CallSite.Agrees related (call.site who here) (call.site who there) :=
    ⟨rfl, rfl, rfl, fun name bound => identifies [0] name bound, arguments⟩
  rw [Instruction.value_eq_run, Instruction.value_eq_run]
  exact Body.agrees_run alike site bears

theorem Plan.agrees_of_calls {plan : Plan} (each : ∀ call ∈ plan.calls, call.Agrees related) :
    plan.Agrees related := by
  intro who here there plain identifies
  refine compares_of_calls composes_agrees (fun index call found => ?_) plain
  exact each call (mem_calls_of_call? found) who _ _ (identifies index call found)

/-- A call that is bound agrees if the plans that its arguments are prepared as do. -/
theorem Instruction.Binds.agrees {functions : Registry} {returns : ValueKind} {cut : Call}
    {call : Instruction} (alike : Scene.Alike related) (leaves : functions.LeavesWorld)
    (binds : call.Binds functions returns (fun _ _ plan => plan.Agrees related) cut) :
    call.Agrees related := by
  refine Instruction.agrees_of_arguments alike (leaves _ _ binds.resolved).bears ?_
  intro argument member plan held
  obtain ⟨pair, _, fits⟩ := exists_of_forall₂ binds.fits member
  cases argument with
  | name text => cases held
  | prepared text own =>
    cases held
    obtain ⟨_, _, _, agrees⟩ := fits
    exact agrees

theorem Plan.agrees_of_bears {plan : Plan} (alike : Scene.Alike related)
    (bears : ∀ call : Instruction, call.Within plan → call.function.body.Bears related) :
    plan.Agrees related := by
  induction plan using Plan.nested_induction with
  | step plan ih =>
    refine agrees_of_calls fun call member => ?_
    refine Instruction.agrees_of_arguments alike (bears call (.here member)) ?_
    intro argument among inner held
    exact ih call member argument among inner held fun other within =>
      bears other (.deeper member among held within)

/-- Whatever is prepared agrees, for functions that make no change of the world of their own. -/
theorem Plan.agrees_of_prepare {functions : Registry} {engine : FormulaEngine} {kind : ValueKind}
    {text : Text} {plan : Plan} (alike : Scene.Alike related)
    (leaves : functions.LeavesWorld)
    (success : (prepare functions engine kind text).result = .ok plan) :
    plan.Agrees related := by
  refine agrees_of_bears alike fun call within => ?_
  obtain ⟨_, _, _, _, binds⟩ := exists_binds_of_within success within
  exact (leaves _ _ binds.resolved).bears

end Plans

end SceneFormula
