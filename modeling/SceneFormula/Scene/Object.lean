import SceneFormula.Value

set_option autoImplicit false

namespace SceneFormula

/-- A number that is held as a value of its own. An undefined number is equal to nothing but
itself, so that it counts which of them it is. -/
structure HeldNumber where
  value : Float
  /-- Which one it is of the undefined numbers; of no account for others. -/
  mark : Nat

instance (n : Nat) : OfNat HeldNumber n := ⟨⟨OfNat.ofNat n, 0⟩⟩

def HeldNumber.same (first second : HeldNumber) : Bool :=
  (first.value.isNaN && second.value.isNaN && first.mark == second.mark) ||
    first.value == second.value

/-- A number or a text that is held. -/
inductive HeldValue where
  | number (x : HeldNumber)
  | text (t : Text)

namespace HeldValue

def value : HeldValue → Value
  | number x => .number x.value
  | text t => .text t

/-- Whether two values are one and the same, or equal. A number and a text never are. -/
def same : HeldValue → HeldValue → Bool
  | number x, number y => x.same y
  | text s, text t => s == t
  | number _, text _ | text _, number _ => false

end HeldValue

abbrev Variables := List (Text × HeldValue)

namespace Variables

def get? (vars : Variables) (name : Text) : Option HeldValue :=
  (vars.find? fun entry => entry.1 = name).map (·.2)

def set (vars : Variables) (name : Text) (value : HeldValue) : Variables :=
  (vars.filter fun entry => entry.1 ≠ name) ++ [(name, value)]

def setAll (vars : Variables) (changes : List (Text × HeldValue)) : Variables :=
  changes.foldl (fun current change => set current change.1 change.2) vars

/-- The value of a variable as a number; zero without a value. -/
def number (vars : Variables) (name : Text) : Float :=
  ((get? vars name).map fun held => held.value.toNumber).getD 0

/-- The value of a variable as a text; empty without a value. -/
def text (vars : Variables) (name : Text) : Text :=
  ((get? vars name).map fun held => held.value.toText).getD []

/-- Whether the same variables have values that are the same or equal. -/
def same (first second : Variables) : Bool :=
  first.length == second.length &&
    first.all fun entry => (get? second entry.1).any entry.2.same

end Variables

structure SceneObject where
  name : Text
  oid : Int
  x : HeldNumber
  y : HeldNumber
  angle : HeldNumber
  vars : Variables

namespace SceneObject

/-- Whether two objects have names, identifiers, places, angles and variables that are the same or
equal. -/
def same (first second : SceneObject) : Bool :=
  first.name == second.name && first.oid == second.oid && first.x.same second.x &&
    first.y.same second.y && first.angle.same second.angle &&
    Variables.same first.vars second.vars

end SceneObject
end SceneFormula
