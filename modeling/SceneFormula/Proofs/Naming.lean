import SceneFormula.Proofs.Agreement
import SceneFormula.Proofs.Pairing

set_option autoImplicit false

namespace SceneFormula

namespace Identifiers

variable {ids : Identifiers}

/-- Whether names are given identifiers by themselves, and none of them that of another. -/
structure Distinct (ids : Identifiers) : Prop where
  autoAssign : ids.autoAssign = true
  paired : ids.Paired

def Extends (ids after : Identifiers) : Prop :=
  ∀ name oid, ids.idOf? name = some oid → after.idOf? name = some oid

/-- A name that is looked up has the identifier that is given for it. Other names keep theirs, and
no two names come to share one. -/
theorem Distinct.lookup (distinct : ids.Distinct) (name : Text) :
    (ids.lookup name).2.Distinct ∧ ids.Extends (ids.lookup name).2 ∧
      (ids.lookup name).2.idOf? name = some (ids.lookup name).1 := by
  have paired := distinct.paired.lookup name
  rcases ids.lookup_cases name with ⟨known, same⟩ | ⟨-, off, -⟩ | ⟨unknown, auto, -, after⟩
  · rw [same]
    exact ⟨distinct, fun _ _ held => held, known⟩
  · cases distinct.autoAssign.symm.trans off
  · rw [after] at paired ⊢
    refine ⟨⟨auto, paired⟩, fun other oid held => ?_, ?_⟩
    · have ne : other ≠ name := by
        rintro rfl
        cases unknown.symm.trans held
      rw [idOf?_bind, if_neg ne]
      exact held
    · rw [idOf?_bind, if_pos rfl]

end Identifiers

namespace Scene

variable {created : List Text} {book : Place → Option Text} {scene : Scene}

/-- Whether the objects of a scene are those that were created under names in order, each has the
identifier of its name, and what has been picked and found belongs together: picked objects have the
identifier that they are picked for, and a place of the book keeps that of its name. No function may
change this on its own account. -/
structure Tied (created : List Text) (book : Place → Option Text) (scene : Scene) : Prop where
  distinct : scene.identifiers.Distinct
  names : scene.objects.map SceneObject.name = created
  objects : ∀ object ∈ scene.objects, scene.identifiers.idOf? object.name = some object.oid
  picks : ∀ entry ∈ scene.picks, ∀ label ∈ entry.2, ∃ object,
    scene.objects[label]? = some object ∧ object.oid = entry.1
  found : ∀ entry ∈ scene.found, ∃ name, book entry.1 = some name ∧
    scene.identifiers.idOf? name = some entry.2
  functions : scene.functions.LeavesWorld

theorem Tied.created_of_getElem? (tied : scene.Tied created book) {label : Nat}
    {object : SceneObject} (found : scene.objects[label]? = some object) :
    created[label]? = some object.name := by
  rw [← tied.names, List.getElem?_map, found]
  rfl

theorem Tied.created_of_oid (tied : scene.Tied created book) {name : Text} {oid : Int}
    (known : scene.identifiers.idOf? name = some oid) {label : Nat} {object : SceneObject}
    (found : scene.objects[label]? = some object) (same : object.oid = oid) :
    created[label]? = some name := by
  have own := tied.objects object (List.mem_of_getElem? found)
  rw [same] at own
  rw [tied.created_of_getElem? found, tied.distinct.paired.eq_of_idOf? own known]

theorem Tied.mono (tied : scene.Tied created book) {more : Place → Option Text}
    (grows : ∀ place name, book place = some name → more place = some name)
    {identifiers : Identifiers} (distinct : identifiers.Distinct)
    (extends_ : scene.identifiers.Extends identifiers) (events : List Event) :
    Tied created more { scene with identifiers, events } where
  distinct := distinct
  names := tied.names
  objects object member := extends_ _ _ (tied.objects object member)
  picks := tied.picks
  found entry member := by
    obtain ⟨name, booked, known⟩ := tied.found entry member
    exact ⟨name, grows _ _ booked, extends_ _ _ known⟩
  functions := tied.functions

theorem Tied.identify (tied : scene.Tied created book) (name : Text) :
    (scene.identify name).2.Tied created book ∧
      (scene.identify name).2.identifiers.idOf? name = some (scene.identify name).1 := by
  obtain ⟨distinct, extends_, own⟩ := tied.distinct.lookup name
  exact ⟨tied.mono (fun _ _ booked => booked) distinct extends_ _, own⟩

theorem Tied.identifyAt (tied : scene.Tied created book) {place : Place} {name : Text}
    (booked : book place = some name) :
    (scene.identifyAt place name).2.Tied created book ∧
      (scene.identifyAt place name).2.identifiers.idOf? name =
        some (scene.identifyAt place name).1 ∧
      (scene.identifyAt place name).2.objects = scene.objects := by
  unfold Scene.identifyAt
  split
  · rename_i entry kept
    have here := List.find?_some kept
    obtain ⟨other, same, known⟩ := tied.found entry (List.mem_of_find?_eq_some kept)
    rw [of_decide_eq_true here, booked, Option.some.injEq] at same
    exact ⟨tied, same ▸ known, rfl⟩
  · obtain ⟨after, own⟩ := tied.identify name
    refine ⟨⟨after.distinct, after.names, after.objects, after.picks, fun entry member => ?_,
      after.functions⟩, own, rfl⟩
    rcases List.mem_cons.mp member with rfl | before
    · exact ⟨name, booked, own⟩
    · exact after.found entry before

theorem Tied.pick (tied : scene.Tied created book) (oid : Int) :
    (scene.pick oid).2.Tied created book ∧ ∀ label ∈ (scene.pick oid).1, ∃ object,
      scene.objects[label]? = some object ∧ object.oid = oid := by
  unfold Scene.pick
  split
  · rename_i entry kept
    have own : entry.1 = oid := by simpa using List.find?_some kept
    exact ⟨tied, own ▸ tied.picks entry (List.mem_of_find?_eq_some kept)⟩
  · have labels : ∀ label ∈ scene.withOid oid, ∃ object,
        scene.objects[label]? = some object ∧ object.oid = oid := by
      intro label member
      obtain ⟨object, found, same⟩ := (Option.any_eq_true _ _).mp (List.mem_filter.mp member).2
      exact ⟨object, found, of_decide_eq_true same⟩
    refine ⟨⟨tied.distinct, tied.names, tied.objects, fun entry member => ?_, tied.found,
      tied.functions⟩, labels⟩
    rcases List.mem_cons.mp member with rfl | before
    · exact labels
    · exact tied.picks entry before

theorem Tied.congr (tied : scene.Tied created book) {other : Scene}
    (identifiers : other.identifiers = scene.identifiers) (objects : other.objects = scene.objects)
    (picks : other.picks = scene.picks) (found : other.found = scene.found)
    (functions : other.functions = scene.functions) : other.Tied created book where
  distinct := identifiers ▸ tied.distinct
  names := objects ▸ tied.names
  objects := objects ▸ identifiers ▸ tied.objects
  picks := picks ▸ objects ▸ tied.picks
  found := found ▸ identifiers ▸ tied.found
  functions := functions ▸ tied.functions

theorem Tied.create (tied : scene.Tied created book) (name : Text) (x y : HeldNumber)
    (vars : List (Text × HeldValue)) :
    (scene.create name x y vars).2.Tied (created ++ [name]) book := by
  obtain ⟨after, own⟩ := tied.identify name
  refine ⟨after.distinct, ?_, fun object member => ?_, fun entry member label among => ?_,
    after.found, after.functions⟩
  · change List.map SceneObject.name (scene.objects ++ [_]) = created ++ [name]
    rw [List.map_append, tied.names]
    rfl
  · rcases List.mem_append.mp member with old | new
    · exact after.objects object old
    · rw [List.mem_singleton.mp new]
      exact own
  · obtain ⟨object, found, same⟩ := after.picks entry member label among
    obtain ⟨inside, _⟩ := List.getElem?_eq_some_iff.mp found
    exact ⟨object, (List.getElem?_append_left inside).trans found, same⟩

theorem Tied.setObject (tied : scene.Tied created book) {label : Nat} {before after : SceneObject}
    (found : scene.objects[label]? = some before) (name : after.name = before.name)
    (oid : after.oid = before.oid) :
    { scene with objects := scene.objects.set label after }.Tied created book := by
  refine ⟨tied.distinct, ?_, fun object member => ?_, fun entry member other among => ?_,
    tied.found, tied.functions⟩
  · change List.map SceneObject.name (scene.objects.set label after) = created
    rw [List.map_set, name, tied.names]
    obtain ⟨inside, same⟩ := List.getElem?_eq_some_iff.mp (tied.created_of_getElem? found)
    rw [← same, List.set_getElem_self]
  · rcases List.mem_or_eq_of_mem_set member with old | rfl
    · exact tied.objects object old
    · rw [name, oid]
      exact tied.objects before (List.mem_of_getElem? found)
  · obtain ⟨object, known, same⟩ := tied.picks entry member other among
    by_cases here : label = other
    · subst here
      cases found.symm.trans known
      exact ⟨after, List.getElem?_set_self (List.getElem?_eq_some_iff.mp found).1, oid.trans same⟩
    · exact ⟨object, (List.getElem?_set_ne here).trans known, same⟩

theorem Tied.setFunctions (tied : scene.Tied created book) {functions : Registry}
    (leaves : functions.LeavesWorld) : { scene with functions }.Tied created book :=
  ⟨tied.distinct, tied.names, tied.objects, tied.picks, tied.found, leaves⟩

theorem Tied.register (tied : scene.Tied created book) {function : SceneFunction}
    (own : function.body.LeavesWorld) : (scene.register function).Tied created book :=
  (tied.setFunctions (tied.functions.insert own)).congr rfl rfl rfl rfl rfl

/-- Registering the library changes nothing but the functions, and what is reported. -/
theorem exists_registerLibrary_eq (scene : Scene) : ∃ events, scene.registerLibrary =
    { scene with functions := scene.functions.insertLibrary, events } := by
  have each (functions : List SceneFunction) : ∃ events, functions.foldl Scene.register scene =
      { scene with functions := functions.foldl Registry.insert scene.functions, events } := by
    induction functions generalizing scene with
    | nil => exact ⟨scene.events, rfl⟩
    | cons function rest ih => exact ih (scene.register function)
  obtain ⟨events, same⟩ := each library
  unfold Scene.registerLibrary
  dsimp only
  rw [same]
  exact ⟨_, rfl⟩

theorem Tied.registerLibrary (tied : scene.Tied created book) :
    scene.registerLibrary.Tied created book := by
  obtain ⟨events, same⟩ := scene.exists_registerLibrary_eq
  rw [same]
  exact (tied.setFunctions tied.functions.insertLibrary).congr rfl rfl rfl rfl rfl

theorem Tied.setPicked (tied : scene.Tied created book) {oid : Int} {labels : List Nat}
    (each : ∀ label ∈ labels, ∃ object, scene.objects[label]? = some object ∧ object.oid = oid) :
    (scene.setPicked oid labels).Tied created book := by
  refine ⟨tied.distinct, tied.names, tied.objects, fun entry member => ?_, tied.found,
    tied.functions⟩
  rcases List.mem_cons.mp member with rfl | old
  · exact each
  · exact tied.picks entry (List.mem_filter.mp old).1

theorem Tied.resetPicks (tied : scene.Tied created book) : scene.resetPicks.Tied created book :=
  ⟨tied.distinct, tied.names, tied.objects, nofun, tied.found, tied.functions⟩

theorem pick_identifyAt (scene : Scene) (place : Place) (name : Text) (oid : Int) :
    ((scene.identifyAt place name).2.pick oid).1 = (scene.pick oid).1 := by
  unfold Scene.identifyAt
  split
  · rfl
  · have same (other : Scene) (present : other.present = scene.present)
        (objects : other.objects = scene.objects) (picks : other.picks = scene.picks) :
        (other.pick oid).1 = (scene.pick oid).1 := by
      rw [Scene.pick, Scene.pick, picks]
      split
      · rfl
      · simp only [withOid, present, objects]
    exact same _ rfl rfl rfl

/-- A scene that stays tied, as a relation between a scene and itself. -/
def Stays (created : List Text) (book : Place → Option Text) (s t : Scene) : Prop :=
  s = t ∧ s.Tied created book

theorem identifies_stays {place : Place} {name : Text} (booked : book place = some name) :
    Identifies (Stays created book) place place name :=
  identifies_of_lasting fun _ tied => (tied.identifyAt booked).1

theorem alike_stays : Alike (Stays created book) := by
  refine Lasting.alike ⟨fun _ _ tied => ?_, fun _ oid tied => (tied.pick oid).1, fun _ _ tied => ?_,
    fun _ _ tied => ?_⟩
  · exact tied.congr rfl rfl rfl rfl rfl
  · exact tied.congr rfl rfl rfl rfl rfl
  · exact tied.congr rfl rfl rfl rfl rfl

end Scene

/-- What a function that is called on an object returns for the object that it acts on, or for none,
and for the name that is its argument, if it has one. -/
def LibraryFunction.valueOf? (object? : Option SceneObject) (argument : Text) :
    LibraryFunction → Option Value
  | objectX => some (.number (object?.elim 0 fun object => object.x.value))
  | objectY => some (.number (object?.elim 0 fun object => object.y.value))
  | objectAngle => some (.number (object?.elim 0 fun object => object.angle.value))
  | objectVariable => some (.number (object?.elim 0 fun object => object.vars.number argument))
  | objectName => some (.text (object?.elim [] SceneObject.name))
  | objectVariableText => some (.text (object?.elim [] fun object => object.vars.text argument))
  | _ => none

namespace Instruction

/-- The first argument of a call, read as a name. -/
def argumentName (call : Instruction) : Text :=
  ((call.arguments.head?.map Argument.plain).getD []).strip

/-- Whether a call of the library in a scene acts on what was created under the name in it, and on
nothing else. On an object, it gives a property of an object that was created under the object's
name, or the value for none if there was never such an object. As a count of the objects of a name
it counts objects concerned, each of which was created under the name. -/
def ActsOnNamed (created : List Text) (scene : Scene) (who : Participants) (place : Place)
    (call : Instruction) : Prop :=
  (∀ function name, call.function = LibraryFunction.declared function →
    call.object? = some name →
    ∃ object?, ((call.site who place).target.runIn scene).1 = .ok object? ∧
      (∀ object, object? = some object → ∃ label : Nat, scene.objects[label]? = some object ∧
        created[label]? = some name) ∧
      (name ∉ created → object? = none) ∧
      ∃ value, function.valueOf? object? call.argumentName = some value ∧
        ((call.value who place).runIn scene).1 = .ok value) ∧
  (∀ argument, call.function = LibraryFunction.declared .count → call.arguments = [argument] →
    ∃ oid, (((call.site who place).argumentId 0).runIn scene).1 = .ok oid ∧
      (∀ label ∈ (scene.pick oid).1, created[label]? = some argument.plain) ∧
      ((call.value who place).runIn scene).1 =
        .ok (.number (Double.ofInt (scene.pick oid).1.length)))

end Instruction

section Calls

variable {created : List Text} {book : Place → Option Text} {scene : Scene} {site : CallSite}

theorem Evaluation.runIn_step {α : Type} (change : Scene → α × Scene) (scene : Scene) :
    (step change).runIn scene = (.ok (change scene).1, (change scene).2) := rfl

theorem CallSite.objectId_of_object? {name : Text} (bound : site.object? = some name) :
    site.objectId = Evaluation.step (·.identifyAt (0 :: site.place) name) := by
  rw [objectId, object, bound]
  rfl

/-- The object that a call acts on was created under the name that the call is bound to. -/
theorem CallSite.exists_runIn_target (tied : scene.Tied created book) {name : Text}
    (bound : site.object? = some name) (booked : book (0 :: site.place) = some name) :
    ∃ object? after, site.target.runIn scene = (.ok object?, after) ∧
      ∀ object, object? = some object → ∃ label : Nat, scene.objects[label]? = some object ∧
        created[label]? = some name := by
  obtain ⟨after, known, objects⟩ := tied.identifyAt booked
  generalize identified : scene.identifyAt (0 :: site.place) name = step at after known objects
  obtain ⟨oid, between⟩ := step
  dsimp only at after known objects
  have named {label : Nat} {object : SceneObject} (found : between.objects[label]? = some object)
      (same : object.oid = oid) : ∃ label : Nat, scene.objects[label]? = some object ∧
        created[label]? = some name :=
    ⟨label, objects ▸ found, after.created_of_oid known found same⟩
  rw [target, objectId_of_object? bound, Evaluation.runIn_bind, Evaluation.runIn_step, identified]
  dsimp only
  rw [Evaluation.runIn_bind]
  change ∃ object? after, (Evaluation.runIn _ between) = _ ∧ _
  dsimp only
  split
  · rename_i object taken
    refine ⟨some object, between, rfl, ?_⟩
    rintro _ ⟨⟩
    obtain ⟨label?, _, chosen⟩ := List.exists_of_findSome?_eq_some taken
    obtain ⟨found, same⟩ := Option.filter_eq_some_iff.mp chosen
    obtain ⟨label, _, found⟩ := Option.bind_eq_some_iff.mp found
    exact named found (of_decide_eq_true same)
  · rw [Evaluation.runIn_bind, Evaluation.runIn_step]
    refine ⟨_, _, rfl, fun object chosen => ?_⟩
    obtain ⟨label, first, found⟩ := Option.bind_eq_some_iff.mp chosen
    obtain ⟨other, found', same⟩ := (after.pick oid).2 label (List.mem_of_head? first)
    rw [found] at found'
    cases found'
    exact named found same

theorem CallSite.runIn_ofTarget {α : Type} {object? : Option SceneObject} {after : Scene}
    (acts : site.target.runIn scene = (.ok object?, after)) (missing : α)
    (property : SceneObject → Evaluation α) :
    (site.ofTarget missing property).runIn scene =
      (object?.elim (pure missing) property).runIn after := by
  rw [ofTarget, Evaluation.runIn_bind, acts]
  cases object? <;> rfl

/-- A function that is called on an object returns what it reads of the object that the call acts
on. -/
theorem LibraryFunction.exists_runIn_of_target {function : LibraryFunction}
    {object? : Option SceneObject} {after : Scene} (member : function.isMember = true)
    (acts : site.target.runIn scene = (.ok object?, after))
    (size : site.arguments.length = function.parameters.length) :
    ∃ value,
      function.valueOf? object? ((site.arguments.head?.map Access.plain).getD []).strip =
        some value ∧
      ((function.run site).runIn scene).1 = .ok value := by
  have read {α : Type} (missing : α) (property : SceneObject → Evaluation α) (value : α → Value) :
      (((do return value (← site.ofTarget missing property)) : Evaluation Value).runIn scene).1 =
        ((object?.elim (pure missing) property).runIn after).1.map value := by
    rw [Evaluation.runIn_bind, CallSite.runIn_ofTarget acts]
    rcases (object?.elim (pure missing) property).runIn after with ⟨_ | _, _⟩ <;> rfl
  cases function with
  | objectX | objectY | objectAngle | objectName =>
    refine ⟨_, rfl, (read _ _ _).trans ?_⟩
    cases object? <;> rfl
  | objectVariable | objectVariableText =>
    obtain ⟨access, only⟩ := List.length_eq_one_iff.mp size
    refine ⟨_, rfl, (read _ _ _).trans ?_⟩
    cases object? with
    | none => rfl
    | some object =>
      simp only [CallSite.identifier, CallSite.argument, only]
      rfl
  | random | timeDelta | elapsedTime | sceneVariable | toNumber | textLength | count | toText
  | sceneVariableText | newLine | substring => cases member

end Calls

theorem Argument.map_plain_accesses (who : Participants) (place : Place) (first : Nat)
    (arguments : List Argument) :
    (accesses who place first arguments).map Access.plain = arguments.map plain := by
  induction arguments generalizing first with
  | nil => rfl
  | cons argument rest ih =>
    rw [accesses, List.map_cons, List.map_cons, ih]
    cases argument <;> rfl

namespace Instruction

variable {created : List Text} {book : Place → Option Text} {scene : Scene} {place : Place}
  {call : Instruction}

/-- Where the book has the name of its object, a function of the library that is called on one acts
on an object created under this name. -/
theorem actsOnNamed_object (tied : scene.Tied created book) {function : LibraryFunction}
    {name : Text} (standard : call.function = LibraryFunction.declared function)
    (object : call.object? = some name) (booked : book (0 :: place) = some name)
    (size : call.arguments.length = function.parameters.length)
    (member : function.isMember = true) (who : Participants) :
    ∃ object?, ((call.site who place).target.runIn scene).1 = .ok object? ∧
      (∀ object, object? = some object → ∃ label : Nat, scene.objects[label]? = some object ∧
        created[label]? = some name) ∧
      (name ∉ created → object? = none) ∧
      ∃ value, function.valueOf? object? call.argumentName = some value ∧
        ((call.value who place).runIn scene).1 = .ok value := by
  have own : (call.site who place).object? = some name := object
  obtain ⟨object?, after, acts, named⟩ := CallSite.exists_runIn_target tied own booked
  have plain := Argument.map_plain_accesses who place 1 call.arguments
  have sized : (call.site who place).arguments.length = function.parameters.length := by
    have same := congrArg List.length plain
    rw [List.length_map, List.length_map, size] at same
    exact same
  obtain ⟨value, reads, returns⟩ := LibraryFunction.exists_runIn_of_target member acts sized
  refine ⟨object?, congrArg Prod.fst acts, named, fun never => ?_, value, ?_, ?_⟩
  · cases object? with
    | none => rfl
    | some object =>
      obtain ⟨label, _, under⟩ := named object rfl
      exact absurd (List.mem_of_getElem? under) never
  · rw [← reads, argumentName, ← List.head?_map, ← plain, List.head?_map]
    rfl
  · rw [value_eq_run, standard]
    exact returns

/-- Where the book has the name that objects are counted by, these were created under it. -/
theorem actsOnNamed_count (tied : scene.Tied created book) {argument : Argument}
    (standard : call.function = LibraryFunction.declared .count)
    (only : call.arguments = [argument]) (booked : book (1 :: place) = some argument.plain)
    (who : Participants) :
    ∃ oid, (((call.site who place).argumentId 0).runIn scene).1 = .ok oid ∧
      (∀ label ∈ (scene.pick oid).1, created[label]? = some argument.plain) ∧
      ((call.value who place).runIn scene).1 =
        .ok (.number (Double.ofInt (scene.pick oid).1.length)) := by
  obtain ⟨after, known, objects⟩ := tied.identifyAt booked
  have asked : (call.site who place).argumentId 0 =
      Evaluation.step (·.identifyAt (1 :: place) argument.plain) := by
    simp only [CallSite.argumentId, CallSite.argument, site, only]
    cases argument <;> rfl
  refine ⟨_, by rw [asked]; rfl, fun label member => ?_, ?_⟩
  · rw [← scene.pick_identifyAt (1 :: place) argument.plain] at member
    obtain ⟨object, found, same⟩ := (after.pick _).2 label member
    exact after.created_of_oid known found same
  · rw [value_eq_run, standard]
    change ((LibraryFunction.run (call.site who place) .count).runIn scene).1 = _
    rw [LibraryFunction.run, asked, Evaluation.runIn_bind, Evaluation.runIn_step]
    dsimp only
    rw [Evaluation.runIn_bind, Evaluation.runIn_step,
      ← scene.pick_identifyAt (1 :: place) argument.plain]
    rfl

/-- Where the book has the names in a call, the call acts on objects created under these. -/
theorem actsOnNamed (tied : scene.Tied created book)
    (booked : ∀ path name, call.textAt? path = some name →
      book (path.reverse ++ place) = some name)
    (size : call.arguments.length = call.function.parameters.length)
    (bound : call.object?.isSome = call.function.isMember) (who : Participants) :
    call.ActsOnNamed created scene who place := by
  constructor
  · intro function name standard object
    rw [standard] at size bound
    rw [object] at bound
    exact actsOnNamed_object tied standard object (booked [0] name object) size bound.symm who
  · intro argument standard only
    have named := booked [1] argument.plain (by simp [textAt?, only])
    exact actsOnNamed_count tied standard only named who

end Instruction

end SceneFormula
