import SceneFormula.Text.Piece
import SceneFormula.Value

set_option autoImplicit false

namespace SceneFormula

/-- How a condition compares a value with an expression's. -/
inductive Comparison where
  | equal
  | less
  | greater
  | lessOrEqual
  | greaterOrEqual
  | notEqual
  | undefined
deriving DecidableEq

inductive Modification where
  | set
  | add
  | subtract
  | multiply
  | divide
  | undefined
deriving DecidableEq

/-- The operator tokens of a text, in order, each as long as it can be. -/
def operatorTokens : Text → List Text
  | [] => []
  | [c] => if c ∈ ['=', '<', '>', '+', '-', '*', '/'] then [[c]] else []
  | c :: d :: rest =>
    if d = '=' ∧ c ∈ ['<', '>', '!', '='] then [c, d] :: operatorTokens rest
    else if c ∈ ['=', '<', '>', '+', '-', '*', '/'] then [c] :: operatorTokens (d :: rest)
    else operatorTokens (d :: rest)

namespace Comparison

def ofToken? (token : Text) : Option Comparison :=
  match token with
  | ['='] | ['=', '='] => some equal
  | ['<'] => some less
  | ['>'] => some greater
  | ['<', '='] => some lessOrEqual
  | ['>', '='] => some greaterOrEqual
  | ['!', '='] => some notEqual
  | _ => none

/-- The operator that a text names. -/
def ofText (text : Text) : Comparison :=
  match (operatorTokens text.blanked).filterMap ofToken? with
  | [operator] => operator
  | _ => undefined

def code : Comparison → Nat
  | equal => 0
  | less => 1
  | greater => 2
  | lessOrEqual => 3
  | greaterOrEqual => 4
  | notEqual => 5
  | undefined => 6

def name : Comparison → Text
  | equal => Text.lit "EQUAL"
  | less => Text.lit "LESS_THAN"
  | greater => Text.lit "GREATER_THAN"
  | lessOrEqual => Text.lit "LESS_OR_EQUAL"
  | greaterOrEqual => Text.lit "GREATER_OR_EQUAL"
  | notEqual => Text.lit "NOT_EQUAL"
  | undefined => Text.lit "UNDEFINED"

def all : List Comparison :=
  [equal, less, greater, lessOrEqual, greaterOrEqual, notEqual, undefined]

def named? (text : Text) : Option Comparison :=
  all.find? fun operator => operator.name = text

/-- Whether texts are in order of their code points, the shorter of two first where one starts
with the other. -/
def textLess : Text → Text → Bool
  | _, [] => false
  | [], _ :: _ => true
  | c :: s, d :: t => if c = d then textLess s t else c.toNat < d.toNat

/-- The outcome of comparing two values in order; a number and a text have none. -/
def inOrder? (numbers : Float → Float → Bool) (texts : Text → Text → Bool) :
    Value → Value → Option Bool
  | .number x, .number y => some (numbers x y)
  | .text s, .text t => some (texts s t)
  | .number _, .text _ | .text _, .number _ => none

/-- Whether two values compare as the operator says. The undefined operator never holds; nothing
comes of ordering a number and a text. -/
def holds? : Comparison → Value → Value → Option Bool
  | equal, x, y => some (x.same y)
  | notEqual, x, y => some (!x.same y)
  | less, x, y => inOrder? (fun a b => a < b) textLess x y
  | greater, x, y => inOrder? (fun a b => b < a) (fun s t => textLess t s) x y
  | lessOrEqual, x, y => inOrder? (fun a b => a ≤ b) (fun s t => !textLess t s) x y
  | greaterOrEqual, x, y => inOrder? (fun a b => b ≤ a) (fun s t => !textLess s t) x y
  | undefined, _, _ => some false

end Comparison

namespace Modification

def ofToken? (token : Text) : Option Modification :=
  match token with
  | ['='] => some set
  | ['+'] => some add
  | ['-'] => some subtract
  | ['*'] => some multiply
  | ['/'] => some divide
  | _ => none

/-- The operator that a text names. -/
def ofText (text : Text) : Modification :=
  match (operatorTokens text.blanked).filterMap ofToken? with
  | [operator] => operator
  | _ => undefined

def code : Modification → Nat
  | set => 0
  | add => 1
  | subtract => 2
  | multiply => 3
  | divide => 4
  | undefined => 5

def name : Modification → Text
  | set => Text.lit "SET"
  | add => Text.lit "ADD"
  | subtract => Text.lit "SUBTRACT"
  | multiply => Text.lit "MULTIPLY"
  | divide => Text.lit "DIVIDE"
  | undefined => Text.lit "UNDEFINED"

def all : List Modification := [set, add, subtract, multiply, divide, undefined]

def named? (text : Text) : Option Modification :=
  all.find? fun operator => operator.name = text

/-- A number changed by another; there is no division by zero. -/
def applyNumber? : Modification → Float → Float → Option Float
  | set, _, y => some y
  | add, x, y => some (x + y)
  | subtract, x, y => some (x - y)
  | multiply, x, y => some (x * y)
  | divide, x, y => if y == 0 then none else some (x / y)
  | undefined, x, _ => some x

/-- A value changed by another. Where one of them is a text, only setting and joining change
anything. -/
def modify? : Modification → Value → Value → Option Value
  | set, _, y => some y
  | operator, .number x, .number y => (operator.applyNumber? x y).map .number
  | add, x, y => some (.text (x.joined ++ y.joined))
  | _, x, _ => some x

end Modification
end SceneFormula
