import SceneFormula.Formula.Basic
import SceneFormula.Formula.Token

set_option autoImplicit false

namespace SceneFormula

/-- Functions that a formula calls by name. -/
inductive Builtin where
  | sin | cos | tan | asin | acos | atan | atan2 | sinh | cosh | tanh
  | sqrt | abs | exp | log | log10 | floor | ceil | round | min | max
deriving DecidableEq

namespace Builtin

def all : List Builtin :=
  [sin, cos, tan, asin, acos, atan, atan2, sinh, cosh, tanh,
    sqrt, abs, exp, log, log10, floor, ceil, round, min, max]

def name : Builtin → Text
  | sin => Text.lit "sin"
  | cos => Text.lit "cos"
  | tan => Text.lit "tan"
  | asin => Text.lit "asin"
  | acos => Text.lit "acos"
  | atan => Text.lit "atan"
  | atan2 => Text.lit "atan2"
  | sinh => Text.lit "sinh"
  | cosh => Text.lit "cosh"
  | tanh => Text.lit "tanh"
  | sqrt => Text.lit "sqrt"
  | abs => Text.lit "abs"
  | exp => Text.lit "exp"
  | log => Text.lit "log"
  | log10 => Text.lit "log10"
  | floor => Text.lit "floor"
  | ceil => Text.lit "ceil"
  | round => Text.lit "round"
  | min => Text.lit "min"
  | max => Text.lit "max"

def named? (text : Text) : Option Builtin :=
  all.find? fun b => b.name = text

end Builtin

def Constant.named? (text : Text) : Option Constant :=
  if text = ['p', 'i'] then some .pi
  else if text = ['e'] then some .e
  else none

def slotPrefix : Text := Text.lit "_slot"

def slotName (index : Nat) : Text := slotPrefix ++ Nat.toDigits 10 index

/-- The slot of a name, among the first `count`. -/
def slotNamed? (count : Nat) (text : Text) : Option Nat :=
  (List.range count).find? fun i => slotName i = text

/-- Whether a formula over `count` slots may use the name. -/
def isKnownName (count : Nat) (text : Text) : Bool :=
  (slotNamed? count text).isSome || (Builtin.named? text).isSome ||
    (Constant.named? text).isSome

/-- Why a text is no sequence of tokens with known names. -/
inductive TokenFault where
  | unexpected (character : Char)
  | unknown (name : Text)

def tokenFault? (count : Nat) (s : Text) : Option TokenFault :=
  let (tokens, rest) := Token.cut s
  match (Token.names tokens).find? fun name => !isKnownName count name with
  | some name => some (.unknown name)
  | none => rest.head?.map .unexpected

end SceneFormula
