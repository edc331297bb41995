import SceneFormula.Proofs.PermittedSteps
import SceneFormula.Proofs.SingleCall

set_option autoImplicit false

namespace SceneFormula

namespace Session

variable {created : List Text} {history : History} {session : Session}

/-- The scenes in which calls of a session are evaluated: its own, and what calls before make of
it. -/
inductive Reaches (session : Session) : Scene → Prop
  | start : Reaches session session.scene
  | call {scene : Scene} {id : Text} {expression : Expression} {place : Place}
    {call : Instruction} (reached : Reaches session scene)
    (found : session.expression? id = some expression) (calls : expression.Calls place call)
    (who : Participants) : Reaches session ((call.value who place).runIn scene).2

/-- Whether the calls of a session act on what was created under the names in them, whatever
objects they are about and whatever calls come before. -/
def ActsOnNamed (created : List Text) (session : Session) : Prop :=
  ∀ id expression place call, session.expression? id = some expression →
    expression.Calls place call → ∀ scene, session.Reaches scene → ∀ who,
    call.ActsOnNamed created scene who place

theorem Tied.of_reaches (tied : session.Tied created history) {scene : Scene}
    (reached : session.Reaches scene) : scene.Tied created history.book := by
  induction reached with
  | start => exact tied.scene
  | call _ found calls who ih => exact (tied.agrees_value found calls who _ _ ⟨rfl, ih⟩).2.2

theorem Tied.actsOnNamed (tied : session.Tied created history) : session.ActsOnNamed created := by
  intro id expression place call found calls scene reached who
  obtain ⟨bound, booked⟩ := tied.bound_of_calls found calls
  exact Instruction.actsOnNamed (tied.of_reaches reached) booked bound.length_arguments
    bound.isSome_object? who

def ofSettings (backends : Text → FormulaEngine) (name : Text) (settings : Settings)
    (entropy : Int) : Session :=
  start (Scene.ofSettings backends name settings entropy).registerLibrary

theorem tied_ofSettings {backends : Text → FormulaEngine} {name : Text} {settings : Settings}
    {entropy : Int} (auto : settings.autoAssign = true) :
    (ofSettings backends name settings entropy).Tied [] [] := by
  have scene : (Scene.ofSettings backends name settings entropy).Tied [] (History.book []) :=
    ⟨⟨auto, Identifiers.paired_empty _ _⟩, rfl, nofun, nofun, nofun, nofun⟩
  exact ⟨rfl, nofun, nofun, nofun, nofun, scene.registerLibrary⟩

end Session

/-- Where a name without an identifier is not given one, a call on an object of this name acts on a
participant without an identifier, whatever name this was created under. -/
theorem CallSite.runIn_target_of_noObject {scene : Scene} {site : CallSite} {name : Text}
    {label : Nat} {object : SceneObject} (off : scene.identifiers.autoAssign = false)
    (unknown : scene.identifiers.idOf? name = none) (nothing : scene.found = [])
    (bound : site.object? = some name) (first : site.participants.first? = some label)
    (found : scene.objects[label]? = some object) (oid : object.oid = noObject) :
    (site.target.runIn scene).1 = .ok (some object) := by
  have lookup : scene.identifiers.lookup name = (noObject, scene.identifiers) := by
    unfold Identifiers.lookup
    rw [unknown, off]
    rfl
  have identified : (scene.identifyAt (0 :: site.place) name).1 = noObject ∧
      (scene.identifyAt (0 :: site.place) name).2.objects = scene.objects := by
    unfold Scene.identifyAt Scene.identify
    rw [nothing, lookup]
    exact ⟨rfl, rfl⟩
  rw [target, objectId_of_object? bound, Evaluation.runIn_bind, Evaluation.runIn_step]
  dsimp only
  rw [Evaluation.runIn_bind]
  change ((Evaluation.runIn _ (scene.identifyAt (0 :: site.place) name).2)).1 = _
  simp only [identified.1, identified.2, first, found, oid, List.findSome?_cons, Option.bind_some,
    Option.filter_some, decide_true, if_true]
  rfl

namespace Session

theorem perform_prepare {session : Session} {id : Text} (expression : Expression)
    (found : session.expression? id = some expression) :
    let attempt := expression.prepare session.scene.functions session.scene.engine
    (session.perform (.prepare id)).2 =
      ((session.mapScene fun scene => { scene with events := [], completed := [] }).put id
        attempt.2.1).mapScene (·.report attempt.2.2) := by
  have same : (session.mapScene fun scene =>
      { scene with events := [], completed := [] }).expression? id = some expression := found
  rw [perform, take, prepare_of_expression? same]
  dsimp only [Usage.attempt]
  split
  · rename_i done
    obtain ⟨-, rfl⟩ := Prod.mk.inj (Option.some.inj done)
    rfl
  · rename_i done
    obtain ⟨-, rfl⟩ := Prod.mk.inj (Option.some.inj done)
    rfl
  · rename_i done
    cases done

def ghostName : Call :=
  ⟨⟨some (Text.lit "Ghost"), Text.lit "Name"⟩, [], Text.lit "Ghost.Name()"⟩

def ghostCall : Instruction :=
  .mk LibraryFunction.objectName.declared ghostName.source (some (Text.lit "Ghost")) []

def ghost : List Step :=
  [.create (Text.lit "Player") 5 0 [], .define (Text.lit "g") ghostName.source,
    .prepare (Text.lit "g")]

section Ghost

variable (backends : Text → FormulaEngine) (name : Text) (entropy : Int) {settings : Settings}

theorem expression?_ghost : ((ofSettings backends name settings entropy).run ghost).expression?
      (Text.lit "g") =
    some { Expression.ofText [0] ghostName.source with
      plan? := some (.text [.call ghostCall]) } := by
  have written : ghostName.Written := by
    refine ⟨⟨?_, ?_⟩, ⟨[], [], rfl, .none rfl, rfl⟩⟩
    · rintro _ ⟨⟩
      exact ⟨_, _, rfl, by decide, by decide⟩
    · exact ⟨_, _, rfl, by decide, by decide⟩
  have prepared (engine : FormulaEngine) : (Plan.prepare Registry.empty.insertLibrary engine .text
      ghostName.source).result = .ok (.text [.call ghostCall]) :=
    Plan.prepare_text_source written ⟨rfl, rfl, rfl, rfl, .nil⟩
  have noFormula (engine : FormulaEngine) : (Plan.prepare Registry.empty.insertLibrary engine
      .number ghostName.source).result =
      .error (.fault (.unknownFunction ghostName.name .number)) :=
    Plan.prepare_number_source_of_unknown written rfl rfl
  rw [ghost, run, run, run, run, perform_prepare (Expression.ofText [0] ghostName.source) (by rfl)]
  refine (expression?_put_self _ _ _).trans ?_
  exact congrArg some (Expression.prepare_ofText_of_text [0] (noFormula _) (prepared _)).2

theorem scene_ghost (off : settings.autoAssign = false) :
    let scene := ((ofSettings backends name settings entropy).run ghost).scene
    scene.identifiers = .empty false settings.firstId ∧ scene.found = [] ∧
      scene.objects[0]? = some ⟨Text.lit "Player", noObject, 5, 0, 0, []⟩ := by
  obtain ⟨backend, autoAssign, firstId, seed?, logLevel, logFormat, positive⟩ := settings
  change autoAssign = false at off
  subst off
  dsimp only
  rw [ghost, run, run, run, run, perform_prepare (Expression.ofText [0] ghostName.source) (by rfl)]
  exact ⟨rfl, rfl, rfl⟩

/-- Where names are not given identifiers by themselves, a call on an object does not keep to the
name. -/
theorem not_actsOnNamed_ghost (off : settings.autoAssign = false) :
    ¬ ((ofSettings backends name settings entropy).run ghost).ActsOnNamed
      (ghost.flatMap Step.created) := by
  intro acts
  obtain ⟨identifiers, nothing, player⟩ := scene_ghost backends name entropy off
  have unknown : ((ofSettings backends name settings entropy).run ghost).scene.identifiers.idOf?
      (Text.lit "Ghost") = none := by
    rw [identifiers]
    rfl
  obtain ⟨object?, target, _, never, _⟩ := (acts (Text.lit "g") _ [0, 0] ghostCall
    (expression?_ghost backends name entropy) (.own rfl rfl) _ .start ⟨some 0, none⟩).1 .objectName
    (Text.lit "Ghost") rfl rfl
  have chosen : ((ghostCall.site ⟨some 0, none⟩ [0, 0]).target.runIn
      ((ofSettings backends name settings entropy).run ghost).scene).1 = .ok (some _) :=
    CallSite.runIn_target_of_noObject (by rw [identifiers]; rfl) unknown nothing rfl rfl player rfl
  rw [chosen, never (by decide)] at target
  cases target

end Ghost

/-- A player answers to the name of a ghost, in a scene with the default settings but for
identifiers. -/
theorem not_actsOnNamed_player :
    let settings : Settings :=
      ⟨Text.lit "math", false, 1, some 0, .info, .console, Int.le_refl 1⟩
    let session := ofSettings .ofModules (Text.lit "scene") settings 0
    session.Follows ghost ∧ ¬ (session.run ghost).ActsOnNamed (ghost.flatMap Step.created) :=
  ⟨⟨trivial, trivial, trivial, trivial⟩, not_actsOnNamed_ghost _ _ _ rfl⟩

/-- Calls on objects act on what was created under the names in them, in all sessions that follow
permitted steps, exactly if the settings give names identifiers by themselves. -/
theorem actsOnNamed_iff (backends : Text → FormulaEngine) (name : Text) (settings : Settings)
    (entropy : Int) :
    (∀ steps, (ofSettings backends name settings entropy).Follows steps →
      ((ofSettings backends name settings entropy).run steps).ActsOnNamed
        (steps.flatMap Step.created)) ↔
      settings.autoAssign = true := by
  constructor
  · intro always
    cases auto : settings.autoAssign with
    | true => rfl
    | false =>
      have acts := always ghost ⟨trivial, trivial, trivial, trivial⟩
      exact absurd acts (not_actsOnNamed_ghost backends name entropy auto)
  · intro auto steps follows
    obtain ⟨history, tied⟩ := (tied_ofSettings auto).run follows
    exact tied.actsOnNamed

end Session

end SceneFormula
