import SceneFormula.Proofs.Traversal

set_option autoImplicit false

namespace SceneFormula

mutual

/-- The functions that a plan calls, at any depth. -/
def Plan.functions : Plan → List SceneFunction
  | .formula _ calls => Instruction.functionsOf calls
  | .text segments => Segment.functionsOf segments

/-- The function of a call, and those that its arguments call. -/
def Instruction.functions : Instruction → List SceneFunction
  | .mk function _ _ arguments => function :: Argument.functionsOf arguments

def Instruction.functionsOf : List Instruction → List SceneFunction
  | [] => []
  | call :: rest => call.functions ++ Instruction.functionsOf rest

def Segment.functionsOf : List Segment → List SceneFunction
  | [] => []
  | .literal _ :: rest => Segment.functionsOf rest
  | .call call :: rest => call.functions ++ Segment.functionsOf rest

def Argument.functionsOf : List Argument → List SceneFunction
  | [] => []
  | .name _ :: rest => Argument.functionsOf rest
  | .prepared _ plan :: rest => plan.functions ++ Argument.functionsOf rest

end

section Functions

theorem Instruction.functionsOf_eq (calls : List Instruction) :
    functionsOf calls = calls.flatMap functions := by
  induction calls with
  | nil => rfl
  | cons call rest ih => rw [functionsOf, ih, List.flatMap_cons]

theorem Segment.functionsOf_eq (segments : List Segment) :
    functionsOf segments = (segments.filterMap call?).flatMap Instruction.functions := by
  induction segments with
  | nil => rfl
  | cons segment rest ih =>
    cases segment with
    | literal text => exact ih
    | call call =>
      rw [functionsOf, ih, ← List.flatMap_cons]
      rfl

theorem Argument.functionsOf_eq (arguments : List Argument) :
    functionsOf arguments = (arguments.filterMap plan?).flatMap Plan.functions := by
  induction arguments with
  | nil => rfl
  | cons argument rest ih =>
    cases argument with
    | name plain => exact ih
    | prepared plain plan =>
      rw [functionsOf, ih, ← List.flatMap_cons]
      rfl

variable {function : SceneFunction}

theorem Plan.mem_functions_iff {plan : Plan} :
    function ∈ plan.functions ↔ ∃ call ∈ plan.calls, function ∈ call.functions := by
  cases plan with
  | formula compiled calls =>
    rw [functions, Instruction.functionsOf_eq, List.mem_flatMap]
    rfl
  | text segments =>
    rw [functions, Segment.functionsOf_eq, List.mem_flatMap]
    rfl

theorem Instruction.mem_functions_iff {call : Instruction} :
    function ∈ call.functions ↔ function = call.function ∨
      ∃ argument ∈ call.arguments, ∃ plan, argument.plan? = some plan ∧
        function ∈ plan.functions := by
  obtain ⟨own, source, object?, arguments⟩ := call
  rw [functions, List.mem_cons, Argument.functionsOf_eq, List.mem_flatMap]
  refine or_congr_right ⟨?_, ?_⟩
  · rintro ⟨plan, member, among⟩
    obtain ⟨argument, within, held⟩ := List.mem_filterMap.mp member
    exact ⟨argument, within, plan, held, among⟩
  · rintro ⟨argument, within, plan, held, among⟩
    exact ⟨plan, List.mem_filterMap.mpr ⟨argument, within, held⟩, among⟩

/-- The functions of a plan are those of the calls within it. -/
theorem Plan.mem_functions_iff_within {plan : Plan} :
    function ∈ plan.functions ↔
      ∃ call : Instruction, call.Within plan ∧ call.function = function := by
  constructor
  · intro own
    induction plan using Plan.nested_induction with
    | step plan ih =>
      obtain ⟨call, member, among⟩ := mem_functions_iff.mp own
      rcases Instruction.mem_functions_iff.mp among with same |
        ⟨argument, within, inner, held, deep⟩
      · exact ⟨call, .here member, same.symm⟩
      · obtain ⟨other, below, same⟩ := ih call member argument within inner held deep
        exact ⟨other, .deeper member within held below, same⟩
  · rintro ⟨call, within, rfl⟩
    induction within with
    | here member =>
      exact mem_functions_iff.mpr ⟨_, member, Instruction.mem_functions_iff.mpr (.inl rfl)⟩
    | deeper member among held _ ih =>
      exact mem_functions_iff.mpr
        ⟨_, member, Instruction.mem_functions_iff.mpr (.inr ⟨_, among, _, held, ih⟩)⟩

end Functions

/-- Whether a function is one of the library and draws no numbers. -/
def Body.Steady : Body → Prop
  | .library function => function ≠ .random
  | .custom .. => False

instance : DecidablePred Body.Steady
  | .library function => inferInstanceAs (Decidable (function ≠ .random))
  | .custom .. => .isFalse id

/-- Whether all functions that a plan calls are of the library and draw no numbers. -/
def Plan.Steady (plan : Plan) : Prop :=
  ∀ function ∈ plan.functions, function.body.Steady

/-- Whether a call and all calls in its arguments are of functions of the library that draw no
numbers. -/
def Instruction.Steady (call : Instruction) : Prop :=
  ∀ function ∈ call.functions, function.body.Steady

instance (plan : Plan) : Decidable plan.Steady :=
  inferInstanceAs (Decidable (∀ function ∈ plan.functions, function.body.Steady))

theorem Plan.Steady.of_mem_calls {plan : Plan} (steady : plan.Steady) {call : Instruction}
    (member : call ∈ plan.calls) : call.Steady :=
  fun function own => steady function (mem_functions_iff.mpr ⟨call, member, own⟩)

theorem Instruction.Steady.own {call : Instruction} (steady : call.Steady) :
    call.function.body.Steady :=
  steady _ (mem_functions_iff.mpr (.inl rfl))

theorem Instruction.Steady.of_mem_arguments {call : Instruction} (steady : call.Steady)
    {argument : Argument} {plan : Plan} (among : argument ∈ call.arguments)
    (held : argument.plan? = some plan) : plan.Steady :=
  fun function own => steady function
    (mem_functions_iff.mpr (.inr ⟨argument, among, plan, held, own⟩))

/-- Whether what calls read compares with itself, inside of one place and of another. -/
structure Evaluation.ReadsAt (P : Evaluation.Relation) (who : Participants) (here there : Place) :
    Prop extends Evaluation.Reads P where
  concerned : ∀ path name, P _ (concerned (path ++ here) name) (concerned (path ++ there) name)
  target : ∀ (first second : CallSite) (path : Place), first.object? = second.object? →
    first.participants = who → second.participants = who →
    first.place = path ++ here → second.place = path ++ there → P _ first.target second.target

section Steady

open Evaluation

variable {P : Relation} {who : Participants} {here there : Place} (reads : ReadsAt P who here there)
include reads

/-- A call of the library compares inside of two places if the plans of its arguments do. -/
theorem Instruction.compares_of_arguments {call : Instruction} (own : call.function.body.Steady)
    (each : ∀ argument ∈ call.arguments, ∀ inner, argument.plan? = some inner →
      ∀ path, inner.Compares P who (path ++ here) (path ++ there)) (path : Place) :
    P _ (call.value who (path ++ here)) (call.value who (path ++ there)) := by
  have arguments : List.Forall₂ (Access.Compares P)
      (Argument.accesses who (path ++ here) 1 call.arguments)
      (Argument.accesses who (path ++ there) 1 call.arguments) := by
    refine Argument.forall₂_accesses fun index argument found => ?_
    have concerned (name : Text) := reads.concerned ((1 + index) :: path) name
    cases argument with
    | name plain => exact ⟨rfl, concerned plain, reads.throw _, reads.throw _⟩
    | prepared plain plan =>
      have inner := each _ (List.mem_of_getElem? found) plan rfl ((1 + index) :: path) plain
      exact ⟨rfl, concerned plain, inner.1, inner.2⟩
  have site : (call.site who (path ++ here)).Compares P (call.site who (path ++ there)) :=
    ⟨reads.target _ _ path rfl rfl rfl rfl rfl, arguments⟩
  rw [value_eq_run, value_eq_run]
  cases body : call.function.body with
  | library function =>
    rw [body] at own
    exact function.compares_run reads.toReads site own
  | custom registration action =>
    rw [body] at own
    exact own.elim

/-- A plan whose calls are of the library and draw no numbers compares inside of two places if what
calls read does. -/
theorem Plan.Steady.compares {plan : Plan} (steady : plan.Steady) (path : Place) :
    plan.Compares P who (path ++ here) (path ++ there) := by
  induction plan using Plan.nested_induction generalizing path with
  | step plan ih =>
    refine Plan.compares_of_calls reads.toComposes fun index call found => ?_
    have member := Plan.mem_calls_of_call? found
    have own := steady.of_mem_calls member
    exact call.compares_of_arguments reads own.own (fun argument among inner held =>
      ih call member argument among inner held (own.of_mem_arguments among held)) (index :: path)

theorem Instruction.Steady.compares {call : Instruction} (steady : call.Steady) (path : Place) :
    P _ (call.value who (path ++ here)) (call.value who (path ++ there)) :=
  call.compares_of_arguments reads steady.own
    (fun _ among _ held => (steady.of_mem_arguments among held).compares reads) path

end Steady

end SceneFormula
