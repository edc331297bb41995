import SceneFormula.Function.Registry

set_option autoImplicit false

namespace SceneFormula

namespace LibraryFunction

/-- The functions with numbers as values, in the order they are registered. -/
def numbers : List LibraryFunction :=
  [random, timeDelta, elapsedTime, sceneVariable, toNumber, textLength, count, objectX, objectY,
    objectAngle, objectVariable]

/-- The functions with texts as values, in the order they are registered. -/
def texts : List LibraryFunction :=
  [toText, sceneVariableText, newLine, substring, objectName, objectVariableText]

def name : LibraryFunction → Text
  | random => Text.lit "Random"
  | timeDelta => Text.lit "TimeDelta"
  | elapsedTime => Text.lit "Time"
  | sceneVariable | objectVariable => Text.lit "Variable"
  | toNumber => Text.lit "ToNumber"
  | textLength => Text.lit "StrLength"
  | count => Text.lit "Count"
  | objectX => Text.lit "X"
  | objectY => Text.lit "Y"
  | objectAngle => Text.lit "Angle"
  | toText => Text.lit "ToString"
  | sceneVariableText | objectVariableText => Text.lit "VariableString"
  | newLine => Text.lit "NewLine"
  | substring => Text.lit "SubStr"
  | objectName => Text.lit "Name"

/-- What the arguments of a function are read as. -/
def parameters : LibraryFunction → List ParameterKind
  | random | toText => [.expression]
  | sceneVariable | sceneVariableText | count | objectVariable | objectVariableText => [.identifier]
  | toNumber | textLength => [.text]
  | substring => [.text, .expression, .expression]
  | timeDelta | elapsedTime | objectX | objectY | objectAngle | newLine | objectName => []

def isMember : LibraryFunction → Bool
  | objectX | objectY | objectAngle | objectVariable | objectName | objectVariableText => true
  | _ => false

def returns : LibraryFunction → ValueKind
  | toText | sceneVariableText | newLine | substring | objectName | objectVariableText => .text
  | _ => .number

/-- A function of the library as expressions call it. -/
def declared (function : LibraryFunction) : SceneFunction :=
  ⟨function.name, function.returns, function.parameters, function.isMember, .library function⟩

end LibraryFunction

def library : List SceneFunction :=
  (LibraryFunction.numbers ++ LibraryFunction.texts).map LibraryFunction.declared

def Registry.insertLibrary (registry : Registry) : Registry :=
  library.foldl insert registry

end SceneFormula
