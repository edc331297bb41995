import SceneFormula.Scene.World

set_option autoImplicit false

namespace SceneFormula

/-- What a call's argument is read as. -/
inductive ParameterKind where
  | expression
  | text
  | identifier
deriving DecidableEq

/-- The functions of the standard library. -/
inductive LibraryFunction where
  | random
  | timeDelta
  | elapsedTime
  | sceneVariable
  | toNumber
  | textLength
  | count
  | objectX
  | objectY
  | objectAngle
  | objectVariable
  | toText
  | sceneVariableText
  | newLine
  | substring
  | objectName
  | objectVariableText
deriving DecidableEq

/-- What a function can ask about its call. -/
inductive Question where
  | number (index : Nat)
  | text (index : Nat)
  | identifier (index : Nat)
  | argumentId (index : Nat)
  | source
  | object
  | objectId

abbrev Question.Answer : Question → Type
  | number _ => Float
  | text _ | identifier _ | source | object => Text
  | argumentId _ | objectId => Int

/-- What a custom function does when called, step by step. It can ask about its call and change the
world in any way. The functions of the scene and the expressions of a session are no part of the
world, so a custom function neither reads nor changes these. -/
inductive CustomAction where
  | constant (value : Value)
  | failure
  | pass
  /-- Ask a question, and go on with its answer or handle the fault that came instead. -/
  | ask (question : Question) (next : question.Answer → CustomAction)
    (caught : EvaluationFault → CustomAction)
  | count (next : Nat → CustomAction)
  | change (act : World → World) (next : World → CustomAction)

namespace CustomAction

def reply (question : Question) (value : question.Answer → Value) : CustomAction :=
  ask question (fun answer => constant (value answer)) fun _ => pass

def number (index : Nat) : CustomAction := reply (.number index) .number

def text (index : Nat) : CustomAction := reply (.text index) .text

def identifier (index : Nat) : CustomAction := reply (.identifier index) .text

def source : CustomAction := reply .source .text

def object : CustomAction := reply .object .text

def objectId : CustomAction := reply .objectId fun oid => .number (Double.ofInt oid)

/-- Return how often the function has been called. -/
def counter : CustomAction := count fun times => constant (.number (Double.ofInt times))

end CustomAction

/-- What a function does when called. -/
inductive Body where
  | library (function : LibraryFunction)
  | custom (registration : Nat) (action : CustomAction)

/-- A function that expressions can call. -/
structure SceneFunction where
  name : Text
  returns : ValueKind
  parameters : List ParameterKind
  isMember : Bool
  body : Body

namespace ParameterKind

def all : List ParameterKind := [expression, text, identifier]

def word : ParameterKind → Text
  | expression => Text.lit "expression"
  | text => Text.lit "text"
  | identifier => Text.lit "identifier"

def named? (t : Text) : Option ParameterKind :=
  all.find? fun kind => kind.word = t

end ParameterKind

namespace ValueKind

def named? (t : Text) : Option ValueKind :=
  [number, text].find? fun kind => kind.word = t

end ValueKind
end SceneFormula
