import SceneFormula.Proofs.Settling

set_option autoImplicit false

namespace SceneFormula

namespace Identifiers

variable {ids : Identifiers}

/-- Whether no names have identifiers, and none are given any. -/
structure Nameless (ids : Identifiers) : Prop where
  autoAssign : ids.autoAssign = false
  idOf? : ∀ name, ids.idOf? name = none

theorem autoAssign_afterLookups (ids : Identifiers) (names : List Text) :
    (ids.afterLookups names).autoAssign = ids.autoAssign := by
  have each (ids : Identifiers) (name : Text) :
      (ids.lookup name).2.autoAssign = ids.autoAssign := by
    rcases ids.lookup_cases name with ⟨-, same⟩ | ⟨-, -, same⟩ | ⟨-, -, -, same⟩ <;> rw [same]
    rfl
  induction names generalizing ids with
  | nil => rfl
  | cons name rest ih => exact (ih _).trans (each ids name)

theorem Nameless.lookup (nameless : ids.Nameless) (name : Text) :
    ids.lookup name = (noObject, ids) := by
  rw [Identifiers.lookup, nameless.idOf?, nameless.autoAssign]
  rfl

theorem Nameless.afterLookups (nameless : ids.Nameless) (names : List Text) :
    ids.afterLookups names = ids := by
  induction names with
  | nil => rfl
  | cons name rest ih =>
    rw [Identifiers.afterLookups, List.foldl_cons, nameless.lookup]
    exact ih

theorem Distinct.afterLookups (distinct : ids.Distinct) (names : List Text) :
    (ids.afterLookups names).Distinct ∧ ids.Extends (ids.afterLookups names) := by
  induction names generalizing ids with
  | nil => exact ⟨distinct, fun _ _ known => known⟩
  | cons name rest ih =>
    obtain ⟨next, keeps, _⟩ := distinct.lookup name
    obtain ⟨last, more⟩ := ih next
    exact ⟨last, fun other oid known => more _ _ (keeps _ _ known)⟩

end Identifiers

namespace Scene

variable {scene after s t : Scene} {inside : Place → Prop} {place here there : Place}

/-- Whether the objects of a scene have the identifiers of their names, as far as names have any. -/
inductive Named (scene : Scene) : Prop
  | own (distinct : scene.identifiers.Distinct)
    (objects : ∀ object ∈ scene.objects, scene.identifiers.idOf? object.name = some object.oid)
  | none (nameless : scene.identifiers.Nameless)
    (objects : ∀ object ∈ scene.objects, object.oid = noObject)

/-- The objects in a scene that a name stands for: those of the name, or all of them where names are
given no identifiers. -/
def meant (scene : Scene) (name : Text) : List Nat :=
  scene.present.filter fun label => (scene.objects[label]?).any fun object =>
    !scene.identifiers.autoAssign || object.name = name

/-- An object has the identifier that a name has or is given if the name stands for the object. -/
theorem Named.oid_eq_lookup_iff (named : scene.Named) {object : SceneObject}
    (member : object ∈ scene.objects) (name : Text) :
    object.oid = (scene.identifiers.lookup name).1 ↔
      scene.identifiers.autoAssign = false ∨ object.name = name := by
  cases named with
  | own distinct own =>
    obtain ⟨next, keeps, known⟩ := distinct.lookup name
    have kept := keeps _ _ (own object member)
    rw [distinct.autoAssign]
    constructor
    · -- no two names share an identifier once this one has been looked up
      intro shared
      exact .inr (next.paired.eq_of_idOf? kept (shared ▸ known))
    · rintro (off | rfl)
      · cases off
      · exact Option.some.inj (kept.symm.trans known)
  | none nameless own =>
    rw [nameless.lookup, nameless.autoAssign]
    exact ⟨fun _ => .inl rfl, fun _ => own object member⟩

theorem Named.withOid_lookup (named : scene.Named) (name : Text) :
    scene.withOid (scene.identifiers.lookup name).1 = scene.meant name := by
  refine List.filter_congr fun label _ => ?_
  cases found : scene.objects[label]? with
  | none => rfl
  | some object =>
    have point := named.oid_eq_lookup_iff (List.mem_of_getElem? found) name
    rw [Option.any_some, Option.any_some, Bool.eq_iff_iff]
    simpa using point

theorem Named.of_learns (named : scene.Named) (learns : scene.Learns inside after) :
    after.Named := by
  obtain ⟨names, known⟩ := learns.identifiers
  cases named with
  | own distinct own =>
    obtain ⟨next, keeps⟩ := distinct.afterLookups names
    refine .own (known ▸ next) fun object member => ?_
    rw [learns.objects] at member
    exact known ▸ keeps _ _ (own object member)
  | none nameless own =>
    rw [nameless.afterLookups] at known
    refine .none (known ▸ nameless) fun object member => ?_
    rw [learns.objects] at member
    exact own object member

theorem Named.congr (named : scene.Named) {other : Scene}
    (identifiers : other.identifiers = scene.identifiers)
    (objects : other.objects = scene.objects) : other.Named := by
  cases named with
  | own distinct own => exact .own (identifiers ▸ distinct) (identifiers ▸ objects ▸ own)
  | none nameless own => exact .none (identifiers ▸ nameless) (objects ▸ own)

theorem Named.create (named : scene.Named) (name : Text) (x y : HeldNumber)
    (vars : List (Text × HeldValue)) : (scene.create name x y vars).2.Named := by
  cases named with
  | own distinct own =>
    obtain ⟨next, keeps, known⟩ := distinct.lookup name
    refine .own next fun object member => ?_
    rcases List.mem_append.mp member with old | new
    · exact keeps _ _ (own object old)
    · rw [List.mem_singleton.mp new]
      exact known
  | none nameless own =>
    have same := nameless.lookup name
    refine .none ?_ fun object member => ?_
    · change (scene.identifiers.lookup name).2.Nameless
      rw [same]
      exact nameless
    · rcases List.mem_append.mp member with old | new
      · exact own object old
      · rw [List.mem_singleton.mp new]
        exact congrArg Prod.fst same

/-- Whether the objects of a scene have the identifiers of their names, and what is concerned for an
identifier are all objects that have it. -/
structure Regular (scene : Scene) : Prop where
  named : scene.Named
  picks : ∀ oid labels, scene.picked? oid = some labels → labels = scene.withOid oid

theorem Regular.of_learns (regular : scene.Regular) (learns : scene.Learns inside after) :
    after.Regular where
  named := regular.named.of_learns learns
  picks oid labels known := by
    rw [learns.toGlances.withOid]
    rcases learns.toGlances.picked? oid with same | ⟨_, all⟩
    · exact regular.picks oid labels (same ▸ known)
    · exact Option.some.inj (known.symm.trans all)

theorem Regular.pick (regular : scene.Regular) (oid : Int) :
    (scene.pick oid).1 = scene.withOid oid := by
  rw [pick_eq]
  cases known : scene.picked? oid with
  | none => rfl
  | some labels => exact regular.picks oid labels known

/-- The objects concerned at a place: those of the identifier that is kept there, or else those that
the name stands for. -/
def concernedAt (scene : Scene) (place : Place) (name : Text) : List Nat :=
  ((scene.foundAt? place).map scene.withOid).getD (scene.meant name)

theorem Regular.withOid_identifyAt (regular : scene.Regular) (place : Place) (name : Text) :
    scene.withOid (scene.identifyAt place name).1 = scene.concernedAt place name := by
  rw [identifyAt_eq, concernedAt]
  cases scene.foundAt? place with
  | some oid => rfl
  | none => exact regular.named.withOid_lookup name

/-- Asking for the objects concerned at a place gives them, and leaves behind an identifier at the
place that is theirs. -/
theorem Regular.runIn_concerned (regular : scene.Regular) (place : Place) (name : Text) :
    ∃ after, (Evaluation.concerned place name).runIn scene =
        (.ok (scene.concernedAt place name), after) ∧
      scene.Learns (place = ·) after ∧
        (after.foundAt? place).map after.withOid = some (scene.concernedAt place name) := by
  have learns : scene.Learns (place = ·) (scene.identifyAt place name).2 :=
    learns_identifyAt rfl name
  have kept := scene.foundAt?_identifyAt_self place name
  have objects := regular.withOid_identifyAt place name
  generalize identified : scene.identifyAt place name = found at learns kept objects
  obtain ⟨oid, between⟩ := found
  have look : between.Learns (place = ·) (between.pick oid).2 := learns_pick oid
  have run : (Evaluation.concerned place name).runIn scene =
      (.ok (between.pick oid).1, (between.pick oid).2) :=
    congrArg (fun found : Int × Scene =>
      (Except.ok (found.2.pick found.1).1, (found.2.pick found.1).2))
      identified
  rw [(regular.of_learns learns).pick, learns.toGlances.withOid, objects] at run
  have looks := learns.trans look
  refine ⟨_, run, looks, ?_⟩
  rw [look.keeps_found kept, Option.map_some, looks.toGlances.withOid, objects]

/-- Whether two scenes have the same functions, objects, variables and times, and deal with names in
the same way. -/
structure Resembles (s t : Scene) : Prop where
  functions : t.functions = s.functions
  engine : t.engine = s.engine
  vars : t.vars = s.vars
  timeDelta : t.timeDelta = s.timeDelta
  elapsedTime : t.elapsedTime = s.elapsedTime
  objects : t.objects = s.objects
  present : t.present = s.present
  autoAssign : t.identifiers.autoAssign = s.identifiers.autoAssign

theorem Resembles.symm (resembles : s.Resembles t) : t.Resembles s :=
  ⟨resembles.functions.symm, resembles.engine.symm, resembles.vars.symm,
    resembles.timeDelta.symm, resembles.elapsedTime.symm, resembles.objects.symm,
    resembles.present.symm, resembles.autoAssign.symm⟩

theorem Resembles.trans (first : s.Resembles t) (rest : t.Resembles after) :
    s.Resembles after :=
  ⟨rest.functions.trans first.functions, rest.engine.trans first.engine,
    rest.vars.trans first.vars, rest.timeDelta.trans first.timeDelta,
    rest.elapsedTime.trans first.elapsedTime, rest.objects.trans first.objects,
    rest.present.trans first.present, rest.autoAssign.trans first.autoAssign⟩

theorem Resembles.meant (resembles : s.Resembles t) (name : Text) :
    t.meant name = s.meant name := by
  rw [Scene.meant, Scene.meant, resembles.objects, resembles.present, resembles.autoAssign]

theorem Learns.resembles (learns : scene.Learns inside after) : scene.Resembles after := by
  obtain ⟨names, known⟩ := learns.identifiers
  refine ⟨?_, ?_, ?_, ?_, ?_, learns.objects, learns.present, ?autoAssign⟩
  case autoAssign => rw [known, Identifiers.autoAssign_afterLookups]
  all_goals rw [learns.rest]

/-- Whether two scenes are alike to what is evaluated inside of one place and of another: what is
kept there is for the same objects. -/
structure Parallel (here there : Place) (s t : Scene) : Prop where
  resembles : s.Resembles t
  first : s.Regular
  second : t.Regular
  found : ∀ path, (s.foundAt? (path ++ here)).map s.withOid =
    (t.foundAt? (path ++ there)).map t.withOid

theorem parallel_of_fresh (resembles : s.Resembles t) (first : s.Regular) (second : t.Regular)
    (fresh : s.Fresh here) (other : t.Fresh there) : Parallel here there s t :=
  ⟨resembles, first, second, fun path => by
    rw [fresh path, other path, Option.map_none, Option.map_none]⟩

theorem agrees_concerned (path : Place) (name : Text) :
    (Evaluation.concerned (path ++ here) name).Agrees (Parallel here there)
      (Evaluation.concerned (path ++ there) name) := by
  intro s t parallel
  have same : s.concernedAt (path ++ here) name = t.concernedAt (path ++ there) name := by
    rw [concernedAt, concernedAt, parallel.found, parallel.resembles.meant]
  obtain ⟨s', run, learns, known⟩ := parallel.first.runIn_concerned (path ++ here) name
  obtain ⟨t', other, learns', known'⟩ := parallel.second.runIn_concerned (path ++ there) name
  rw [run, other, same]
  refine ⟨rfl, learns.resembles.symm.trans (parallel.resembles.trans learns'.resembles),
    parallel.first.of_learns learns, parallel.second.of_learns learns', fun others => ?_⟩
  -- what is kept has changed at the one place that was asked for, in each scene at its own
  by_cases point : path = others
  · rw [← point, known, known', same]
  · have outside (place : Place) : path ++ place ≠ others ++ place :=
      fun shared => point (List.append_cancel_right shared)
    rw [learns.foundAt?_of_not (outside here), learns'.foundAt?_of_not (outside there),
      funext learns.toGlances.withOid, funext learns'.toGlances.withOid]
    exact parallel.found others

end Scene

section Parallel

open Evaluation Scene

/-- The object that a call acts on is the first of those concerned where there are no
participants. -/
theorem CallSite.target_of_nobody {site : CallSite} (nobody : site.participants = ⟨none, none⟩) :
    site.target = site.object >>= fun name => concerned (0 :: site.place) name >>= fun labels =>
      Evaluation.ask fun scene => labels.head?.bind (scene.objects[·]?) := by
  rw [target, objectId, bind_assoc]
  refine bind_congr fun name => ?_
  rw [nobody]
  -- the objects are read before the look in one and after it in the other, which is the same
  funext scene
  let found := scene.identifyAt (0 :: site.place) name
  let picked := found.2.pick found.1
  have kept := (glances_pick found.2 found.1).objects
  exact congrArg (fun objects : List SceneObject =>
    ((Except.ok (picked.1.head?.bind (objects[·]?)), picked.2) :
      Except EvaluationFault (Option SceneObject) × Scene)) kept.symm

theorem readsAt_parallel (here there : Place) :
    ReadsAt (fun _ => Agrees (Parallel here there)) ⟨none, none⟩ here there where
  toComposes := composes_agrees
  vars := agrees_ask fun _ _ parallel => parallel.resembles.vars.symm
  timeDelta := agrees_ask fun _ _ parallel => parallel.resembles.timeDelta.symm
  elapsedTime := agrees_ask fun _ _ parallel => parallel.resembles.elapsedTime.symm
  concerned := agrees_concerned
  target first second path object nobody alone mine yours := by
    rw [CallSite.target_of_nobody nobody, CallSite.target_of_nobody alone, mine, yours]
    have named : first.object = second.object := by rw [CallSite.object, CallSite.object, object]
    rw [named, CallSite.object]
    refine Agrees.bind ?_ fun name => ?_
    · split
      · exact agrees_pure _
      · exact agrees_throw _
    · refine (agrees_concerned (0 :: path) name).bind fun labels => ?_
      exact agrees_ask fun _ _ parallel => by rw [parallel.resembles.objects]

end Parallel

end SceneFormula
