import SceneFormula.Function.Library

set_option autoImplicit false

namespace SceneFormula

/-- A step with the functions of a registry. -/
inductive RegistryStep where
  | register (name returns : Text) (parameters : List Text) (isMember : Bool) (body : Body)
  | unregister (name returns : Text) (isMember : Bool)
  | registerLibrary
  | resolve (name returns : Text)

/-- What a step with the functions of a registry gives. -/
inductive RegistryAnswer where
  | function (function : SceneFunction)
  | flag (b : Bool)
  | found (function? : Option SceneFunction)
  | done

namespace Registry

def take (registry : Registry) :
    RegistryStep → Except DeclarationFault RegistryAnswer × Registry
  | .register name returns parameters isMember body =>
    match SceneFunction.declare name returns parameters isMember body with
    | .ok function => (.ok (.function function), registry.insert function)
    | .error fault => (.error fault, registry)
  | .unregister name returns isMember =>
    match ValueKind.named? returns with
    | some kind =>
      match registry.erase? ⟨kind, isMember, name⟩ with
      | some fewer => (.ok (.flag true), fewer)
      | none => (.ok (.flag false), registry)
    | none => (.error .unknownResult, registry)
  | .registerLibrary => (.ok .done, registry.insertLibrary)
  | .resolve name returns =>
    match ValueKind.named? returns with
    | some kind => (.ok (.found (registry.resolve name kind)), registry)
    | none => (.error .unknownResult, registry)

def run (registry : Registry) : List RegistryStep → Registry
  | [] => registry
  | step :: rest => (registry.take step).2.run rest

end Registry
end SceneFormula
