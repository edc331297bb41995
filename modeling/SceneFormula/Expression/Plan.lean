import SceneFormula.Expression.Attempt
import SceneFormula.Expression.Draft
import SceneFormula.Expression.Term
import SceneFormula.Function.Registry

set_option autoImplicit false

namespace SceneFormula

mutual

/-- How a prepared text is evaluated. -/
inductive Plan where
  | formula (compiled : Compiled) (calls : List Instruction)
  | text (segments : List Segment)

inductive Segment where
  | literal (text : Text)
  | call (instruction : Instruction)

/-- A call bound to its function: how it is written, the object it is bound to, and its
arguments. -/
inductive Instruction where
  | mk (function : SceneFunction) (source : Text) (object? : Option Text)
    (arguments : List Argument)

inductive Argument where
  | name (plain : Text)
  | prepared (plain : Text) (plan : Plan)

end

namespace Plan

def kind : Plan → ValueKind
  | formula .. => .number
  | text .. => .text

end Plan

namespace Argument

def plain : Argument → Text
  | name plain | prepared plain _ => plain

def plan? : Argument → Option Plan
  | name _ => none
  | prepared _ plan => some plan

end Argument

namespace Instruction

def function : Instruction → SceneFunction
  | mk function _ _ _ => function

def source : Instruction → Text
  | mk _ source _ _ => source

def object? : Instruction → Option Text
  | mk _ _ object? _ => object?

def arguments : Instruction → List Argument
  | mk _ _ _ arguments => arguments

end Instruction

namespace Segment

def call? : Segment → Option Instruction
  | literal _ => none
  | call instruction => some instruction

end Segment

namespace ParameterKind

/-- What the value of an argument of the kind has to be; a name has none. -/
def value? : ParameterKind → Option ValueKind
  | expression => some .number
  | text => some .text
  | identifier => none

end ParameterKind

/-- Bind a call to the function that it refers to, given how to prepare each argument. -/
def Instruction.ofCall (functions : Registry) (returns : ValueKind) (cut : Call)
    (prepare : (argument : Text) → argument ∈ cut.arguments → ValueKind → Attempt Plan) :
    Attempt Instruction :=
  match functions.resolve cut.name.text returns with
  | none => Attempt.fail (.unknownFunction cut.name returns)
  | some function =>
    if cut.arguments.length ≠ function.parameters.length then
      Attempt.fail (.argumentCount cut.name function.parameters.length cut.arguments.length)
    else do
      let arguments ← Attempt.forEach (cut.arguments.zip function.parameters)
        fun pair member =>
          match pair.2.value? with
          | none => return .name pair.1
          | some kind => do
            return .prepared pair.1 (← prepare pair.1 (List.of_mem_zip member).1 kind)
      return .mk function cut.source cut.name.object? arguments

def Compiled.attempt (engine : FormulaEngine) (text : Text) (count : Nat) : Attempt Compiled :=
  match Compiled.parse engine text count with
  | .error (.fault fault) => Attempt.fail (.formula text fault)
  | .error (.breakdown name) => ⟨[], .error (.breakdown name)⟩
  | .ok compiled => do
    Attempt.report (.formulaCompiled compiled.source compiled.slotCount)
    return compiled

/-- Whether a call of the name is left to the formula: it is built in, and no function of the
scene takes its place. -/
def isBuiltinCall (functions : Registry) (name : Name) : Bool :=
  name.object?.isNone && (Builtin.named? name.member).isSome &&
    (functions.resolve name.text .number).isNone

namespace Plan

/-- Prepare a text as an expression of a kind. Its calls are bound from left to right, each before
the text after it is looked at. -/
def prepare (functions : Registry) (engine : FormulaEngine) (kind : ValueKind) (text : Text) :
    Attempt Plan :=
  match kind with
  | .number => do
    let draft := Draft.ofText (isBuiltinCall functions) text
    let calls ← Attempt.forEach draft.calls fun cut _ =>
      Instruction.ofCall functions .number cut fun argument _ kind =>
        prepare functions engine kind argument
    match draft.fault? with
    | some fault => Attempt.fail fault
    | none =>
      let compiled ← Compiled.attempt engine draft.rewritten calls.length
      return .formula compiled calls
  | .text =>
    match _ : Term.parts text with
    | .error fault => Attempt.fail fault
    | .ok parts => do
      let segments ← Attempt.forEach parts fun part _ =>
        match _ : Term.ofPart text part with
        | .error fault => Attempt.fail fault
        | .ok (.literal content) => return .literal content
        | .ok (.call cut) => do
          return .call (← Instruction.ofCall functions .text cut fun argument _ kind =>
            prepare functions engine kind argument)
      return .text segments
termination_by text.length
decreasing_by
  · exact Draft.length_lt_of_mem_calls ‹_› ‹_›
  · exact Nat.lt_of_lt_of_le (Term.length_lt_of_ofPart ‹_› ‹_›)
      (Term.length_le_of_mem_parts ‹_› ‹_›)

end Plan
end SceneFormula
