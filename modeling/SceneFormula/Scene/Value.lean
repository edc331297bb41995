import SceneFormula.Expression.Basic
import SceneFormula.Scene.Evaluation

set_option autoImplicit false

namespace SceneFormula

/-- The word for a cause is in the message about it; causes outside the expression have none. -/
def EvaluationFault.message? : EvaluationFault → Option Text
  | notPrepared plain =>
    some (Text.lit "Expression " ++ plain.quoted ++ Text.lit " evaluated before preprocessing")
  | wrongKind plain held needed =>
    some (Text.lit "Expression " ++ plain.quoted ++ Text.lit " is a " ++ planWord (some held) ++
      Text.lit " expression, not " ++ planWord (some needed))
  | run (.valueCount expected given) =>
    some (Text.lit "Expected " ++ intText expected ++ Text.lit " parameter value(s), got " ++
      intText given)
  | run (.computation _) | notWhole _ | notANumber | noArgument | noObject | failure => none

def Binding.values (who : Participants) (bindings : List Binding) : Evaluation (List Value) :=
  bindings.mapM fun binding => do
    (← Instruction.value who binding.place binding.instruction).returned
      binding.instruction.function.returns

namespace Expression

/-- The value of an expression as a number. All its bindings run before the formula is computed. -/
def number (who : Participants) (expression : Expression) : Evaluation Float :=
  match expression.plan? with
  | none => throw (.notPrepared expression.plain)
  | some (.text _) => throw (.wrongKind expression.plain .text .number)
  | some (.formula compiled _) => do
    compiled.evaluate (← Binding.values who expression.bindings)

def content (who : Participants) (expression : Expression) : Evaluation Text :=
  match expression.plan? with
  | none => throw (.notPrepared expression.plain)
  | some plan => Plan.content who expression.place expression.plain plan

end Expression
end SceneFormula
