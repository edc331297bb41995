import SceneFormula.Function.Library

set_option autoImplicit false

namespace SceneFormula

structure Scene extends World where
  functions : Registry
  registrations : Nat
  found : List (Place × Int)

namespace Scene

def start (name : Text) (identifiers : Identifiers) (engine : FormulaEngine) (seed : Int) :
    Scene where
  name := name
  functions := Registry.empty
  identifiers := identifiers
  engine := engine
  generator := Generator.ofSeed seed
  vars := []
  timeDelta := 0
  elapsedTime := 0
  objects := []
  present := []
  picks := []
  found := []
  counts := []
  registrations := 0
  completed := []
  events := []

def report (scene : Scene) (events : List Event) : Scene :=
  { scene with events := scene.events ++ events }

def identify (scene : Scene) (name : Text) : Int × Scene :=
  let (oid, identifiers) := scene.identifiers.lookup name
  let news := if scene.identifiers.assigns name then [.identifierAssigned name oid] else []
  (oid, { scene with identifiers }.report news)

def assign (scene : Scene) (name : Text) (oid : Int) : Except IdentifierFault Unit × Scene :=
  let (outcome, identifiers) := scene.identifiers.assign name oid
  let news := match outcome with
    | .ok _ => [.identifierAssigned name oid]
    | .error _ => []
  (outcome, { scene with identifiers }.report news)

/-- The identifier of the name that an expression at a place holds: once found, it stays. -/
def identifyAt (scene : Scene) (place : Place) (name : Text) : Int × Scene :=
  match scene.found.find? fun entry => entry.1 = place with
  | some entry => (entry.2, scene)
  | none =>
    let (oid, scene) := scene.identify name
    (oid, { scene with found := (place, oid) :: scene.found })

def register (scene : Scene) (function : SceneFunction) : Scene :=
  { scene with functions := scene.functions.insert function }.report
    [.functionRegistered function.name function.returns.word function.parameters.length
      function.isMember]

def registerLibrary (scene : Scene) : Scene :=
  let scene := library.foldl register scene
  scene.report [.libraryRegistered LibraryFunction.numbers.length LibraryFunction.texts.length
    scene.functions.version]

/-- Unregister the function of a key; says whether there was one. -/
def unregister (scene : Scene) (key : FunctionKey) : Bool × Scene :=
  match scene.functions.erase? key with
  | some functions => (true, { scene with functions }.report [.functionUnregistered key.name])
  | none => (false, scene.report [.functionNotFound key.name])

/-- Create an object in the scene; gives its number. -/
def create (scene : Scene) (name : Text) (x y : HeldNumber) (vars : List (Text × HeldValue)) :
    Nat × Scene :=
  let (oid, scene) := scene.identify name
  let label := scene.objects.length
  let object : SceneObject := ⟨name, oid, x, y, 0, Variables.setAll [] vars⟩
  (label,
    { scene with
      objects := scene.objects ++ [object]
      present := scene.present ++ [label] }.report [.objectCreated scene.name name oid])

/-- Whether a number is an object's own or that of one equal to it. -/
def isLike (scene : Scene) (label other : Nat) : Bool :=
  other == label ||
    match scene.objects[other]?, scene.objects[label]? with
    | some first, some second => first.same second
    | _, _ => false

/-- Remove the first object that is like an object; says whether there was one. -/
def remove (scene : Scene) (label : Nat) : Bool × Scene :=
  (scene.present.any (scene.isLike label),
    { scene with present := scene.present.eraseP (scene.isLike label) })

def withOid (scene : Scene) (oid : Int) : List Nat :=
  scene.present.filter fun label => (scene.objects[label]?).any fun object => object.oid = oid

/-- The objects concerned that have an identifier. Those of one that is looked at for the first
time are all in the scene, and stay the same from then on. -/
def pick (scene : Scene) (oid : Int) : List Nat × Scene :=
  match scene.picks.find? fun entry => entry.1 = oid with
  | some entry => (entry.2, scene)
  | none =>
    let labels := scene.withOid oid
    (labels, { scene with picks := (oid, labels) :: scene.picks })

def setPicked (scene : Scene) (oid : Int) (labels : List Nat) : Scene :=
  { scene with picks := (oid, labels) :: scene.picks.filter fun entry => entry.1 ≠ oid }

def resetPicks (scene : Scene) : Scene :=
  { scene with picks := [] }

def advance (scene : Scene) (seconds : Float) : Scene :=
  { scene with timeDelta := seconds, elapsedTime := scene.elapsedTime + seconds }

/-- Change the world; gives what it has become. -/
def act (scene : Scene) (change : World → World) : World × Scene :=
  let world := change scene.toWorld
  (world, { scene with toWorld := world })

/-- One more call of a counting function; gives how many there have been. -/
def count (scene : Scene) (registration : Nat) : Nat × Scene :=
  let before := ((scene.counts.find? fun entry => entry.1 = registration).map (·.2)).getD 0
  (before + 1,
    { scene with
      counts := (registration, before + 1) ::
        scene.counts.filter fun entry => entry.1 ≠ registration })

end Scene
end SceneFormula
