import SceneFormula.Function.Basic
import SceneFormula.Scene.Table
import SceneFormula.Text.Quoted

set_option autoImplicit false

namespace SceneFormula

/-- What functions are told apart by. -/
structure FunctionKey where
  returns : ValueKind
  isMember : Bool
  name : Text
deriving DecidableEq

def SceneFunction.key (function : SceneFunction) : FunctionKey :=
  ⟨function.returns, function.isMember, function.name⟩

/-- Why a function cannot be declared. -/
inductive DeclarationFault where
  | dottedName (name : Text)
  | unknownResult
  | unknownParameter

namespace DeclarationFault

def message? : DeclarationFault → Option Text
  | dottedName name =>
    some (Text.lit "Function names cannot contain '.': " ++ name.quoted)
  | unknownResult | unknownParameter => none

end DeclarationFault

def SceneFunction.declare (name returns : Text) (parameters : List Text) (isMember : Bool)
    (body : Body) : Except DeclarationFault SceneFunction :=
  if '.' ∈ name then .error (.dottedName name)
  else
    match ValueKind.named? returns with
    | none => .error .unknownResult
    | some kind =>
      match parameters.mapM ParameterKind.named? with
      | none => .error .unknownParameter
      | some kinds => .ok ⟨name, kind, kinds, isMember, body⟩

/-- The functions of a scene. -/
structure Registry where
  functions : List SceneFunction
  version : Nat

namespace Registry

def empty : Registry := ⟨[], 0⟩

def size (registry : Registry) : Nat := registry.functions.length

def get? (registry : Registry) (key : FunctionKey) : Option SceneFunction :=
  registry.functions.find? fun function => function.key = key

def without (registry : Registry) (key : FunctionKey) : List SceneFunction :=
  registry.functions.filter fun function => function.key ≠ key

def insert (registry : Registry) (function : SceneFunction) : Registry :=
  ⟨registry.without function.key ++ [function], registry.version + 1⟩

def erase? (registry : Registry) (key : FunctionKey) : Option Registry :=
  if (registry.get? key).isSome then some ⟨registry.without key, registry.version + 1⟩ else none

theorem find?_without_self (registry : Registry) (key : FunctionKey) :
    (registry.without key).find? (fun function => function.key = key) = none := by
  simp [without]

theorem find?_without_of_ne (registry : Registry) {key other : FunctionKey} (ne : other ≠ key) :
    (registry.without key).find? (fun function => function.key = other) = registry.get? other :=
  find?_filter_of_ne registry.functions SceneFunction.key ne

/-- A function is found under its key as soon as it is in. -/
@[simp] theorem get?_insert_self (registry : Registry) (function : SceneFunction) :
    (registry.insert function).get? function.key = some function := by
  simp [insert, get?, List.find?_append, find?_without_self]

/-- A new function leaves those of other keys as they are. -/
theorem get?_insert_of_ne (registry : Registry) (function : SceneFunction) {key : FunctionKey}
    (ne : key ≠ function.key) : (registry.insert function).get? key = registry.get? key := by
  simp [insert, get?, List.find?_append, find?_without_of_ne registry ne, ne.symm]

/-- A function that is taken out is no longer found. -/
theorem get?_of_erase?_self {registry after : Registry} {key : FunctionKey}
    (erased : registry.erase? key = some after) : after.get? key = none := by
  simp only [erase?] at erased
  split at erased
  · cases erased
    exact find?_without_self registry key
  · cases erased

/-- Taking a function out leaves those of other keys as they are. -/
theorem get?_of_erase?_of_ne {registry after : Registry} {key other : FunctionKey}
    (erased : registry.erase? key = some after) (ne : other ≠ key) :
    after.get? other = registry.get? other := by
  simp only [erase?] at erased
  split at erased
  · cases erased
    exact find?_without_of_ne registry ne
  · cases erased

def afterLastDot (name : Text) : Text :=
  (name.reverse.takeWhile (· ≠ '.')).reverse

/-- The key that a call by a name refers to: after a dot, a function called on an object. -/
def keyOf (name : Text) (returns : ValueKind) : FunctionKey :=
  if '.' ∈ name then ⟨returns, true, afterLastDot name⟩ else ⟨returns, false, name⟩

def resolve (registry : Registry) (name : Text) (returns : ValueKind) : Option SceneFunction :=
  registry.get? (keyOf name returns)

end Registry
end SceneFormula
