import SceneFormula.Expression.Operator
import SceneFormula.Expression.Plan

set_option autoImplicit false

namespace SceneFormula

/-- A call that feeds a slot of a formula, and where its arguments keep what they have found. -/
structure Binding where
  place : List Nat
  instruction : Instruction

/-- A text to evaluate, and how that is done once it has been prepared. -/
structure Expression where
  place : List Nat
  plain : Text
  added : List Binding
  plan? : Option Plan
  failureReported : Bool

def planWord : Option ValueKind → Text
  | none => Text.lit "unprocessed"
  | some .number => Text.lit "math"
  | some .text => Text.lit "text"

/-- The calls of a formula as bindings, for an expression at a place. -/
def Plan.bindings (place : List Nat) : Plan → List Binding
  | .formula _ calls => calls.zipIdx.map fun (call, i) => ⟨i :: place, call⟩
  | .text _ => []

/-- What came of preparing an expression. -/
inductive Outcome where
  /-- It has been prepared, or was before. Where it has just become a text expression, its text is
  known to be no formula. -/
  | prepared (kind : ValueKind) (formulaFault? : Option SyntaxFault)
  | failed (formulaFault textFault : SyntaxFault)
  | raised (name : Text)

namespace Outcome

def kind? : Outcome → Option ValueKind
  | prepared kind _ => some kind
  | failed .. | raised _ => none

def formulaFault? : Outcome → Option SyntaxFault
  | prepared _ formulaFault? => formulaFault?
  | failed formulaFault _ => some formulaFault
  | raised _ => none

def textFault? : Outcome → Option SyntaxFault
  | failed _ textFault => some textFault
  | prepared .. | raised _ => none

def isFailed : Outcome → Bool
  | failed .. => true
  | prepared .. | raised _ => false

end Outcome

namespace Expression

/-- A text that has not been prepared. -/
def ofText (place : List Nat) (plain : Text) : Expression := ⟨place, plain, [], none, false⟩

def kind? (expression : Expression) : Option ValueKind :=
  expression.plan?.map Plan.kind

def comparison (expression : Expression) : Comparison := Comparison.ofText expression.plain

def modification (expression : Expression) : Modification := Modification.ofText expression.plain

def bindings (expression : Expression) : List Binding :=
  expression.added ++ ((expression.plan?.map (Plan.bindings expression.place)).getD [])

/-- An expression with one more binding; there is none once it has been prepared. -/
def add? (expression : Expression) (binding : Binding) : Option Expression :=
  if expression.plan?.isSome then none
  else some { expression with added := expression.added ++ [binding] }

def frozenMessage (expression : Expression) : Text :=
  Text.lit "Parameter functions of " ++ expression.plain.quoted ++
    Text.lit " are frozen after preprocessing"

/-- The expression as messages show it. -/
def shown (expression : Expression) : Text :=
  Text.lit "Expression(" ++ expression.plain.quoted ++ Text.lit ", kind=" ++
    planWord expression.kind? ++ [')']

/-- Prepare an expression unless it has been: as a formula, or else as a text expression. A failure
is reported the first time. A breakdown ends the preparation at once and is not reported. -/
def prepare (functions : Registry) (engine : FormulaEngine) (expression : Expression) :
    Outcome × Expression × List Event :=
  match expression.plan? with
  | some plan => (.prepared plan.kind none, expression, [])
  | none =>
    let formula := Plan.prepare functions engine .number expression.plain
    match formula.result with
    | .ok plan =>
      let prepared := { expression with plan? := some plan }
      (.prepared .number none, prepared,
        formula.events ++ [.formulaPrepared expression.plain prepared.bindings.length])
    | .error (.breakdown name) => (.raised name, expression, formula.events)
    | .error (.fault formulaFault) =>
      let text := Plan.prepare functions engine .text expression.plain
      match text.result with
      | .ok plan =>
        (.prepared .text (some formulaFault), { expression with plan? := some plan },
          formula.events ++ text.events ++ [.textPrepared expression.plain])
      | .error (.breakdown name) => (.raised name, expression, formula.events ++ text.events)
      | .error (.fault textFault) =>
        let news := if expression.failureReported then []
          else [.preparationFailed expression.plain formulaFault.message textFault.message]
        (.failed formulaFault textFault, { expression with failureReported := true },
          formula.events ++ text.events ++ news)

end Expression
end SceneFormula
