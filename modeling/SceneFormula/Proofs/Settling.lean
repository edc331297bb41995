import SceneFormula.Proofs.Glances
import SceneFormula.Proofs.Nesting
import SceneFormula.Proofs.Steadiness

set_option autoImplicit false

namespace SceneFormula

/-- Identifiers after names have been looked up. -/
def Identifiers.afterLookups (ids : Identifiers) (names : List Text) : Identifiers :=
  names.foldl (fun ids name => (ids.lookup name).2) ids

namespace Scene

variable {scene before after last : Scene} {inside : Place → Prop}

/-- Whether a scene has become another one only by finding out: names have been looked up, what is
concerned has been looked at, identifiers have been kept at some places where there were none, and
it has been reported. -/
structure Learns (inside : Place → Prop) (before after : Scene) : Prop
    extends Glances before after where
  rest : after =
    { before with
      identifiers := after.identifiers
      picks := after.picks
      found := after.found
      events := after.events }
  identifiers : ∃ names, after.identifiers = before.identifiers.afterLookups names
  found : ∀ place, after.foundAt? place = before.foundAt? place ∨
    inside place ∧ before.foundAt? place = none
  events : ∃ news, after.events = before.events ++ news

theorem Learns.refl (scene : Scene) : scene.Learns inside scene :=
  ⟨glances_of_eq rfl rfl rfl, rfl, ⟨[], rfl⟩, fun _ => .inl rfl, ⟨[], (List.append_nil _).symm⟩⟩

theorem Learns.trans (first : before.Learns inside after) (rest : after.Learns inside last) :
    before.Learns inside last := by
  refine ⟨first.toGlances.trans rest.toGlances, ?_, ?_, fun place => ?_, ?_⟩
  · have same := congrArg (fun scene : Scene =>
      { scene with
        identifiers := last.identifiers
        picks := last.picks
        found := last.found
        events := last.events }) first.rest
    exact rest.rest.trans same
  · obtain ⟨names, known⟩ := first.identifiers
    obtain ⟨others, later⟩ := rest.identifiers
    refine ⟨names ++ others, ?_⟩
    rw [later, known, Identifiers.afterLookups, Identifiers.afterLookups, Identifiers.afterLookups,
      List.foldl_append]
  · rcases rest.found place with same | ⟨own, unknown⟩
    · rw [same]
      exact first.found place
    · rcases first.found place with same | new
      · exact .inr ⟨own, same ▸ unknown⟩
      · exact .inr new
  · obtain ⟨news, told⟩ := first.events
    obtain ⟨others, later⟩ := rest.events
    exact ⟨news ++ others, by rw [later, told, List.append_assoc]⟩

theorem Learns.mono {wider : Place → Prop} (learns : before.Learns inside after)
    (each : ∀ place, inside place → wider place) : before.Learns wider after :=
  ⟨learns.toGlances, learns.rest, learns.identifiers,
    fun place => (learns.found place).imp_right fun new => ⟨each place new.1, new.2⟩,
    learns.events⟩

/-- What has been found at a place is still there. -/
theorem Learns.keeps_found (learns : before.Learns inside after) {place : Place} {oid : Int}
    (known : before.foundAt? place = some oid) : after.foundAt? place = some oid := by
  rcases learns.found place with same | ⟨_, unknown⟩
  · rw [same, known]
  · cases known.symm.trans unknown

theorem Learns.foundAt?_of_not (learns : before.Learns inside after) {place : Place}
    (outside : ¬inside place) : after.foundAt? place = before.foundAt? place :=
  (learns.found place).resolve_right fun new => outside new.1

theorem foundAt?_identifyAt_self (scene : Scene) (place : Place) (name : Text) :
    (scene.identifyAt place name).2.foundAt? place = some (scene.identifyAt place name).1 := by
  rw [identifyAt_eq]
  cases known : scene.foundAt? place with
  | some oid => exact known
  | none => simp [foundAt?]

theorem learns_identifyAt {place : Place} (own : inside place) (name : Text) :
    scene.Learns inside (scene.identifyAt place name).2 := by
  rw [identifyAt_eq]
  cases unknown : scene.foundAt? place with
  | some oid => exact .refl scene
  | none =>
    refine ⟨glances_of_eq rfl rfl rfl, rfl, ⟨[name], rfl⟩, fun other => ?_, ⟨_, rfl⟩⟩
    by_cases same : place = other
    · exact .inr ⟨same ▸ own, same ▸ unknown⟩
    · refine .inl ?_
      dsimp only
      rw [Scene.foundAt?, List.find?_cons_of_neg (by simpa using same)]
      rfl

theorem learns_pick (oid : Int) : scene.Learns inside (scene.pick oid).2 := by
  refine ⟨scene.glances_pick oid, ?_, ⟨[], ?_⟩, fun place => .inl ?_, ⟨[], ?_⟩⟩ <;>
    · unfold pick
      split <;> simp [Identifiers.afterLookups, Scene.foundAt?]

theorem Learns.keeps_picked (learns : before.Learns inside after) {oid : Int} {labels : List Nat}
    (known : before.picked? oid = some labels) : after.picked? oid = some labels := by
  rcases learns.toGlances.picked? oid with same | ⟨unknown, _⟩
  · rw [same, known]
  · cases known.symm.trans unknown

end Scene

namespace Evaluation

variable {α β : Type} {inside : Place → Prop}

/-- Whether an evaluation only finds things out, at some places, and has the same outcome again once
they are known, without finding out more. -/
def Settles (inside : Place → Prop) (evaluation : Evaluation α) : Prop :=
  ∀ scene, scene.Learns inside (evaluation.runIn scene).2 ∧
    ∀ later, (evaluation.runIn scene).2.Learns (fun _ => True) later →
      evaluation.runIn later = ((evaluation.runIn scene).1, later)

theorem settles_pure (value : α) : (pure value : Evaluation α).Settles inside :=
  fun scene => ⟨.refl scene, fun _ _ => rfl⟩

theorem settles_throw (fault : EvaluationFault) : (throw fault : Evaluation α).Settles inside :=
  fun scene => ⟨.refl scene, fun _ _ => rfl⟩

theorem settles_ask {question : Scene → α}
    (same : ∀ before after, Scene.Learns (fun _ => True) before after →
      question after = question before) : (ask question).Settles inside :=
  fun scene => ⟨.refl scene, fun later learns =>
    congrArg (fun value => (Except.ok value, later)) (same scene later learns)⟩

/-- Evaluations in a row settle if each of them does: what the first has found out is still known
after the others. -/
theorem Settles.bind {first : Evaluation α} {next : α → Evaluation β} (start : first.Settles inside)
    (others : ∀ value, (next value).Settles inside) : (first >>= next).Settles inside := by
  intro scene
  obtain ⟨learns, again⟩ := start scene
  rw [runIn_bind]
  generalize first.runIn scene = done at learns again ⊢
  obtain ⟨outcome, between⟩ := done
  cases outcome with
  | error fault =>
    refine ⟨learns, fun later more => ?_⟩
    rw [runIn_bind, again later more]
  | ok value =>
    obtain ⟨more, repeated⟩ := others value between
    refine ⟨learns.trans more, fun later most => ?_⟩
    rw [runIn_bind, again later ((more.mono fun _ _ => trivial).trans most)]
    exact repeated later most

theorem settles_identifyAt {place : Place} (own : inside place) (name : Text) :
    (step (·.identifyAt place name)).Settles inside := by
  intro scene
  refine ⟨Scene.learns_identifyAt own name, fun later learns => ?_⟩
  have same := later.identifyAt_eq place name
  rw [learns.keeps_found (scene.foundAt?_identifyAt_self place name)] at same
  exact congrArg (fun done : Int × Scene => (Except.ok done.1, done.2)) same

theorem settles_pick (oid : Int) : (step (·.pick oid)).Settles inside := by
  intro scene
  refine ⟨Scene.learns_pick oid, fun later learns => ?_⟩
  have known : (scene.pick oid).2.picked? oid = some (scene.pick oid).1 := by
    rw [Scene.picked?_pick, if_pos rfl]
  have same := Scene.pick_of_picked? (learns.keeps_picked known)
  exact congrArg (fun done : List Nat × Scene => (Except.ok done.1, done.2)) same

/-- Comparing an evaluation with itself: whether it settles. -/
def settling (inside : Place → Prop) : Relation :=
  fun _ first second => first = second ∧ first.Settles inside

theorem composes_settling : Composes (settling inside) where
  pure value := ⟨rfl, settles_pure value⟩
  throw fault := ⟨rfl, settles_throw fault⟩
  bind := by
    rintro α β first _ next after ⟨rfl, start⟩ others
    exact ⟨bind_congr fun value => (others value).1, start.bind fun value => (others value).2⟩

theorem reads_settling : Reads (settling inside) where
  toComposes := composes_settling
  vars := ⟨rfl, settles_ask fun _ _ learns => by rw [learns.rest]⟩
  timeDelta := ⟨rfl, settles_ask fun _ _ learns => by rw [learns.rest]⟩
  elapsedTime := ⟨rfl, settles_ask fun _ _ learns => by rw [learns.rest]⟩

theorem settles_target {site : CallSite} (own : inside (0 :: site.place)) :
    site.target.Settles inside := by
  have objectId : site.objectId.Settles inside := by
    refine Settles.bind ?_ fun name => settles_identifyAt own name
    unfold CallSite.object
    split
    · exact settles_pure _
    · exact settles_throw _
  refine objectId.bind fun oid => Settles.bind ?_ fun objects => ?_
  · exact settles_ask fun _ _ learns => learns.objects
  · dsimp only
    split
    · exact settles_pure _
    · exact (settles_pick oid).bind fun labels => settles_pure _

theorem readsAt_settling (who : Participants) {here : Place}
    (own : ∀ path, inside (path ++ here)) : ReadsAt (settling inside) who here here where
  toReads := reads_settling
  concerned path name := ⟨rfl, (settles_identifyAt (own path) name).bind settles_pick⟩
  target first second path object mine yours here there := by
    refine ⟨?_, settles_target ?_⟩
    · unfold CallSite.target CallSite.objectId CallSite.object
      rw [object, mine, yours, here, there]
    · rw [here]
      exact own (0 :: path)

end Evaluation

namespace Expression

variable {expression : Expression}

/-- The functions that an expression is evaluated by: those of its plan and those of the bindings
added to it, at any depth. -/
def functions (expression : Expression) : List SceneFunction :=
  (expression.plan?.map Plan.functions).getD [] ++
    expression.added.flatMap fun binding => binding.instruction.functions

/-- Whether all functions that an expression is evaluated by are of the library and draw no
numbers. -/
def Steady (expression : Expression) : Prop :=
  ∀ function ∈ expression.functions, function.body.Steady

instance (expression : Expression) : Decidable expression.Steady :=
  inferInstanceAs (Decidable (∀ function ∈ expression.functions, function.body.Steady))

/-- Whether a place is inside of an expression, or of a binding that was added to it. -/
def Inside (expression : Expression) (place : Place) : Prop :=
  (∃ path, place = path ++ expression.place) ∨
    ∃ binding ∈ expression.added, ∃ path, place = path ++ binding.place

theorem Steady.of_plan (steady : expression.Steady) {plan : Plan}
    (held : expression.plan? = some plan) : plan.Steady := by
  intro function own
  refine steady function (List.mem_append_left _ ?_)
  rw [held]
  exact own

theorem Steady.of_mem_added (steady : expression.Steady) {binding : Binding}
    (member : binding ∈ expression.added) : binding.instruction.Steady :=
  fun function own =>
    steady function (List.mem_append_right _ (List.mem_flatMap.mpr ⟨binding, member, own⟩))

/-- An expression of functions of the library that draw no numbers settles, and keeps identifiers
only inside of itself. -/
theorem Steady.settles (steady : expression.Steady) (who : Participants) :
    (expression.number who).Settles expression.Inside ∧
      (expression.content who).Settles expression.Inside := by
  have composes : Evaluation.Composes (Evaluation.settling expression.Inside) :=
    Evaluation.composes_settling
  have own (path : Place) : expression.Inside (path ++ expression.place) := .inl ⟨path, rfl⟩
  have reads := Evaluation.readsAt_settling who own
  constructor
  · refine (compares_number composes fun binding member => ?_).2
    rcases mem_bindings member with added | ⟨plan, index, held, found, place⟩
    · have own (path : Place) : expression.Inside (path ++ binding.place) :=
        .inr ⟨binding, added, path, rfl⟩
      exact (steady.of_mem_added added).compares (Evaluation.readsAt_settling who own) []
    · have own := (steady.of_plan held).of_mem_calls (Plan.mem_calls_of_call? found)
      rw [place]
      exact own.compares reads [index]
  · refine (compares_content composes fun plan held => ?_).2
    exact (steady.of_plan held).compares reads []

/-- An expression of functions of the library that draw no numbers is evaluated once and for all.
The first evaluation changes a scene only by what it finds out: identifiers of names that had none,
the objects concerned that had not been looked at, and what is kept inside of the expression. A
second one has the same value or fault, and changes nothing. -/
theorem evaluates_again (steady : expression.Steady) (who : Participants) (scene : Scene) :
    let number := (expression.number who).runIn scene
    let content := (expression.content who).runIn scene
    (scene.Learns expression.Inside number.2 ∧ (expression.number who).runIn number.2 = number) ∧
      scene.Learns expression.Inside content.2 ∧
        (expression.content who).runIn content.2 = content := by
  obtain ⟨number, content⟩ := steady.settles who
  obtain ⟨learns, again⟩ := number scene
  obtain ⟨finds, repeated⟩ := content scene
  exact ⟨⟨learns, again _ (.refl _)⟩, finds, repeated _ (.refl _)⟩

/-- A count and the place of an object, with names that are seen for the first time. -/
theorem evaluates_again_enemy :
    let functions := Registry.empty.insertLibrary
    let scene := ((Scene.start [] (Identifiers.empty true 1) .standard 0).create
      (Text.lit "Enemy") 3 4 []).2
    let text := Text.lit "Enemy.X()^StrLength(Hero.Name() + ToString(Count(Ghost)))"
    let expression := ((ofText [0] text).prepare functions .standard).2.1
    let who : Participants := ⟨some 0, none⟩
    let first := (expression.number who).runIn scene
    expression.kind? = some .number ∧ expression.Steady ∧
      scene.Learns expression.Inside first.2 ∧ (expression.number who).runIn first.2 = first := by
  intro functions scene text expression who first
  have formula : expression.kind? = some .number := by decide +kernel
  have steady : expression.Steady := by decide +kernel
  exact ⟨formula, steady, (evaluates_again steady who scene).1⟩

end Expression

end SceneFormula
