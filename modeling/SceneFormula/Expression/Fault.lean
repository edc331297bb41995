import SceneFormula.Expression.Call
import SceneFormula.Formula.Compiled
import SceneFormula.Value

set_option autoImplicit false

namespace SceneFormula

/-- Why a text is no expression. -/
inductive SyntaxFault where
  | call (fault : CallFault)
  | literalInFormula
  | reservedName (name : Name)
  | formula (text : Text) (fault : FormulaFault)
  | emptyText
  | emptyTerm (text : Text)
  | afterLiteral (term : Text)
  | notATerm (term : Text)
  | unknownFunction (name : Name) (returns : ValueKind)
  | argumentCount (name : Name) (expected given : Nat)

/-- The message about nesting that cannot be followed. -/
def NestingFault.message : NestingFault → Text
  | unterminated position =>
    Text.lit "Unterminated text literal at position " ++ intText position
  | unbalanced position => Text.lit "Unbalanced parenthesis at position " ++ intText position

def CallFault.message : CallFault → Text
  | nesting fault => fault.message
  | emptyArgument name => Text.lit "Empty argument in call " ++ name.text

namespace SyntaxFault

def message : SyntaxFault → Text
  | call fault => fault.message
  | literalInFormula => Text.lit "Text literal in math expression"
  | reservedName name => Text.lit "Reserved identifier: " ++ name.text
  | formula text fault => fault.message text
  | emptyText => Text.lit "Empty text expression"
  | emptyTerm text => Text.lit "Empty term in text expression " ++ text.quoted
  | afterLiteral term => Text.lit "Unexpected characters after literal: " ++ term.quoted
  | notATerm term => Text.lit "Not a text literal or call: " ++ term.quoted
  | unknownFunction name returns =>
    Text.lit "Unknown " ++ returns.word ++ Text.lit " function: " ++ name.text
  | argumentCount name expected given =>
    name.text ++ Text.lit " expects " ++ intText expected ++ Text.lit " argument(s), got " ++
      intText given

end SyntaxFault
end SceneFormula
