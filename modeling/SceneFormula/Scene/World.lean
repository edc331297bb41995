import SceneFormula.Event
import SceneFormula.Formula.Compiled
import SceneFormula.Scene.Generator
import SceneFormula.Scene.Identifiers
import SceneFormula.Scene.Object
import SceneFormula.Value

set_option autoImplicit false

namespace SceneFormula

/-- A place of an expression among nested calls, from the inside out. What an expression has
found out once is kept under its place. -/
abbrev Place := List Nat

/-- All that a scene holds besides its functions and what expressions remember. -/
structure World where
  name : Text
  identifiers : Identifiers
  /-- What reads and compiles formulas. -/
  engine : FormulaEngine
  generator : Generator
  vars : Variables
  /-- The length of the last step of time, in seconds. -/
  timeDelta : Float
  elapsedTime : Float
  /-- All objects ever created, in order. -/
  objects : List SceneObject
  /-- Which of them are in the scene, in the order they came into it. -/
  present : List Nat
  /-- The objects concerned, for each identifier that has been looked at. -/
  picks : List (Int × List Nat)
  /-- How often each counting function has been called, by its registration. -/
  counts : List (Nat × Nat)
  /-- The custom calls that have been completed, as they are written. -/
  completed : List Text
  /-- What has been reported. -/
  events : List Event

/-- Why an evaluation gives no value. -/
inductive EvaluationFault where
  | notPrepared (plain : Text)
  | wrongKind (plain : Text) (held needed : ValueKind)
  | run (fault : RunFault)
  /-- A number that is infinite or undefined has no whole part. -/
  | notWhole (fault : ArithmeticFault)
  /-- A text was returned as a number, and is none. -/
  | notANumber
  /-- A call has no argument of the asked index. -/
  | noArgument
  /-- A call is not bound to an object. -/
  | noObject
  /-- A function failed by itself. -/
  | failure
deriving DecidableEq

end SceneFormula
