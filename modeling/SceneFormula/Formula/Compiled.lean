import SceneFormula.Formula.Engine
import SceneFormula.Formula.Vocabulary
import SceneFormula.Text.Quoted

set_option autoImplicit false

namespace SceneFormula

/-- What ends an attempt: a fault of the text that is told about it, or a breakdown that nothing
holds back. -/
inductive Stop (ε : Type) where
  | fault (fault : ε)
  | breakdown (name : Text)

/-- Why a text does not compile. -/
inductive FormulaFault where
  | empty
  | token (fault : TokenFault)
  | invalid (words? : Option Text)
  | notAFormula
  | unknownNames (names : List Text)
  | notFinite
  | notReal
  | notCompilable (words? : Option Text)
  | notComputable (words? : Option Text)

/-- The message about a text that does not compile. What the engine says stands at its end. -/
def FormulaFault.message (text : Text) : FormulaFault → Text
  | empty => Text.lit "Empty math expression"
  | token (.unexpected c) =>
    Text.lit "Unexpected character " ++ Text.quoted [c] ++ Text.lit " in " ++ text.quoted
  | token (.unknown name) =>
    Text.lit "Unknown identifier " ++ name.quoted ++ Text.lit " in " ++ text.quoted
  | invalid words? => Text.lit "Invalid math expression " ++ text.quoted ++ behind words?
  | notAFormula => Text.lit "Not a math expression: " ++ text.quoted
  | unknownNames names =>
    Text.lit "Unknown identifier(s) in " ++ text.quoted ++ Text.lit ": " ++
      List.intercalate (Text.lit ", ") names
  | notFinite => Text.lit "Expression is not finite: " ++ text.quoted
  | notReal => Text.lit "Expression is not real: " ++ text.quoted
  | notCompilable words? => Text.lit "Cannot compile " ++ text.quoted ++ behind words?
  | notComputable words? => Text.lit "Cannot evaluate " ++ text.quoted ++ behind words?
where
  behind (words? : Option Text) : Text := (words?.map (Text.lit ": " ++ ·)).getD []

/-- A formula ready to be computed. -/
structure Compiled where
  source : Text
  slotCount : Nat
  function : List Value → Except ComputationFault Float

inductive RunFault where
  | valueCount (expected given : Nat)
  | computation (fault : ComputationFault)
deriving DecidableEq

namespace Compiled

def eval (compiled : Compiled) (values : List Value) : Except RunFault Float :=
  if values.length ≠ compiled.slotCount then
    .error (.valueCount compiled.slotCount values.length)
  else (compiled.function values).mapError .computation

def valuesByName (count : Nat) (values : List Value) (name : Text) : Option Value :=
  (slotNamed? count name).bind (values[·]?)

/-- The names of symbols that are none of the first `count` slots, in alphabetical order. -/
def unknownNames (count : Nat) (x : Symbolic) : List Text :=
  (x.freeSymbols.filter fun name => (slotNamed? count name).isNone).mergeSort fun first second =>
    !(List.lex second first (· < ·))

/-- The function of a formula without symbols is tried once, with zeros for its slots. -/
def trial (x : Symbolic) (count : Nat) (function : List Value → Except ComputationFault Float) :
    Except (Stop FormulaFault) Unit :=
  if x.freeSymbols.isEmpty then
    match function (List.replicate count (.number 0)) with
    | .ok value => if Double.isFinite value then .ok () else .error (.fault .notFinite)
    | .error (.arithmetic _ words?) => .error (.fault (.notComputable words?))
    | .error (.breakdown name) => .error (.breakdown name)
  else .ok ()

/-- The function of what has been read over the first `count` slots, if it is a formula over these
that is finite, real and known to compile. -/
def check (x : Symbolic) (count : Nat) :
    Except (Stop FormulaFault) (List Value → Except ComputationFault Float) :=
  if unknownNames count x ≠ [] then .error (.fault (.unknownNames (unknownNames count x)))
  else if !x.isFinite then .error (.fault .notFinite)
  else if !x.isReal then .error (.fault .notReal)
  else
    match x.function with
    | .error words? => .error (.fault (.notCompilable words?))
    | .ok function =>
      let onSlots (values : List Value) := function (valuesByName count values)
      (trial x count onSlots).map fun _ => onSlots

/-- Compile a formula over the first `count` slots, of which there is always at least one. -/
def parse (engine : FormulaEngine) (text : Text) (count : Nat) :
    Except (Stop FormulaFault) Compiled :=
  if text.isAllBlank then .error (.fault .empty)
  else
    let count := max count 1
    match tokenFault? count text with
    | some fault => .error (.fault (.token fault))
    | none =>
      match engine.read text count with
      | .error words? => .error (.fault (.invalid words?))
      | .ok none => .error (.fault .notAFormula)
      | .ok (some x) => (check x count).map fun function => ⟨text, count, function⟩

end Compiled
end SceneFormula
