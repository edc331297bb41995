import SceneFormula.Proofs.Nesting

set_option autoImplicit false

namespace SceneFormula

namespace Scene

/-- A scene without its functions. -/
def unequipped (scene : Scene) : Scene :=
  { scene with functions := .empty, registrations := 0 }

/-- A scene without its functions between two steps, when nothing has been reported and no call been
completed. -/
def rested (scene : Scene) : Scene :=
  { scene.unequipped with events := [], completed := [] }

/-- Whether two scenes are the same but for their functions. -/
def Beside (s t : Scene) : Prop := s.unequipped = t.unequipped

theorem beside_iff {s t : Scene} :
    s.Beside t ↔ ∃ functions registrations, t = { s with functions, registrations } := by
  constructor
  · intro same
    obtain ⟨world, functions, registrations, found⟩ := s
    obtain ⟨other, more, others, kept⟩ := t
    obtain ⟨rfl, rfl⟩ : world = other ∧ found = kept := by simpa [Beside, unequipped] using same
    exact ⟨more, others, rfl⟩
  · rintro ⟨functions, registrations, rfl⟩
    rfl

theorem Beside.rested_eq {s t : Scene} (beside : s.Beside t) : s.rested = t.rested := by
  obtain ⟨_, _, rfl⟩ := beside_iff.mp beside
  rfl

theorem Beside.toWorld_eq {s t : Scene} (beside : s.Beside t) : s.toWorld = t.toWorld := by
  obtain ⟨_, _, rfl⟩ := beside_iff.mp beside
  rfl

theorem Beside.found_eq {s t : Scene} (beside : s.Beside t) : s.found = t.found := by
  obtain ⟨_, _, rfl⟩ := beside_iff.mp beside
  rfl

/-- What does not look at functions has the same outcome in scenes with others. -/
theorem agrees_beside {α : Type} {change : Scene → α × Scene}
    (same : ∀ (s : Scene) functions registrations,
      change { s with functions, registrations } =
        ((change s).1, { (change s).2 with functions, registrations })) :
    Evaluation.Agrees Beside (.step change) (.step change) := by
  refine Evaluation.agrees_step fun s t beside => ?_
  obtain ⟨functions, registrations, rfl⟩ := beside_iff.mp beside
  rw [same s functions registrations]
  exact ⟨rfl, rfl⟩

theorem agrees_identifyAt_beside (place : Place) (name : Text) :
    Evaluation.Agrees Beside (.step (·.identifyAt place name))
      (.step (·.identifyAt place name)) := by
  refine agrees_beside fun s functions registrations => ?_
  have found : { s with functions, registrations }.foundAt? place = s.foundAt? place := rfl
  rw [identifyAt_eq, identifyAt_eq s, found]
  cases s.foundAt? place <;> rfl

theorem agrees_pick_beside (oid : Int) :
    Evaluation.Agrees Beside (.step (·.pick oid)) (.step (·.pick oid)) := by
  refine agrees_beside fun s functions registrations => ?_
  unfold pick
  dsimp only
  cases s.picks.find? fun entry => entry.1 = oid <;> rfl

theorem agrees_act_beside (act : World → World) :
    Evaluation.Agrees Beside (.step (·.act act)) (.step (·.act act)) :=
  agrees_beside fun _ _ _ => rfl

theorem alike_beside : Alike Beside where
  objects _ _ beside := congrArg World.objects beside.toWorld_eq
  vars _ _ beside := congrArg World.vars beside.toWorld_eq
  timeDelta _ _ beside := congrArg World.timeDelta beside.toWorld_eq
  elapsedTime _ _ beside := congrArg World.elapsedTime beside.toWorld_eq
  generator := by
    intro s t beside
    obtain ⟨functions, registrations, rfl⟩ := beside_iff.mp beside
    exact ⟨rfl, fun _ => rfl⟩
  pick := agrees_pick_beside
  count registration := agrees_beside fun _ _ _ => rfl
  completed := by
    intro s t beside
    obtain ⟨functions, registrations, rfl⟩ := beside_iff.mp beside
    exact ⟨rfl, fun _ => rfl⟩

end Scene

section Evaluations

open Evaluation

/-- A call agrees with itself wherever all that calls do keeps scenes related. -/
theorem Instruction.agrees_of_acts {related : Scene → Scene → Prop} (alike : Scene.Alike related)
    (acts : ∀ act, Evaluation.Agrees related (.step (·.act act)) (.step (·.act act)))
    (identifies : ∀ place name, Scene.Identifies related place place name) (who : Participants)
    (place : Place) (call : Instruction) :
    (call.value who place).Agrees related (call.value who place) := by
  have bears := Body.bears_of_acts acts
  refine call.agrees_of_arguments alike (bears _) (fun argument _ plan _ => ?_) who place place
    fun path name _ => identifies _ name
  exact Plan.agrees_of_bears alike fun other _ => bears other.function.body

/-- An expression agrees with itself wherever all that calls do keeps scenes related. -/
theorem Expression.agrees_of_acts {related : Scene → Scene → Prop} (alike : Scene.Alike related)
    (acts : ∀ act, Evaluation.Agrees related (.step (·.act act)) (.step (·.act act)))
    (identifies : ∀ place name, Scene.Identifies related place place name) (who : Participants)
    (expression : Expression) :
    (expression.number who).Agrees related (expression.number who) ∧
      (expression.content who).Agrees related (expression.content who) := by
  have each := Instruction.agrees_of_acts alike acts identifies who
  refine ⟨compares_number composes_agrees fun binding _ => each _ _, ?_⟩
  refine compares_content composes_agrees fun plan _ => ?_
  exact Plan.compares_of_calls composes_agrees fun index call _ => each _ call

/-- Evaluations do not look at the functions of their scene. -/
theorem Expression.agrees_beside (who : Participants) (expression : Expression) :
    (expression.number who).Agrees Scene.Beside (expression.number who) ∧
      (expression.content who).Agrees Scene.Beside (expression.content who) :=
  agrees_of_acts Scene.alike_beside (fun _ => Scene.agrees_act_beside _)
    Scene.agrees_identifyAt_beside who expression

end Evaluations

namespace Scene

variable {scene : Scene} {place : Place} {oid : Int}

/-- What has been found at a place is kept when something is asked for at any place. -/
theorem foundAt?_identifyAt (held : scene.foundAt? place = some oid) (other : Place)
    (name : Text) : (scene.identifyAt other name).2.foundAt? place = some oid := by
  rw [identifyAt_eq]
  cases known : scene.foundAt? other with
  | some kept => exact held
  | none =>
    have ne : other ≠ place := by
      rintro rfl
      rw [held] at known
      cases known
    rw [← held, foundAt?, foundAt?, List.find?_cons_of_neg (by simpa using ne)]

theorem foundAt?_pick (held : scene.foundAt? place = some oid) (other : Int) :
    (scene.pick other).2.foundAt? place = some oid := by
  unfold pick
  split <;> exact held

theorem rested_unregister (scene : Scene) (key : FunctionKey) :
    (scene.unregister key).2.rested = scene.rested := by
  unfold unregister
  split <;> rfl

theorem foundAt?_unregister (scene : Scene) (key : FunctionKey) (place : Place) :
    (scene.unregister key).2.foundAt? place = scene.foundAt? place := by
  unfold unregister
  split <;> rfl

theorem lasting_foundAt (place : Place) (oid : Int) :
    Lasting fun scene => scene.foundAt? place = some oid where
  generator _ _ held := held
  pick _ other held := foundAt?_pick held other
  count _ _ held := held
  completed _ _ held := held

end Scene

theorem Expression.keeps_foundAt (place : Place) (oid : Int) (who : Participants)
    (expression : Expression) :
    let related (s t : Scene) := s = t ∧ s.foundAt? place = some oid
    (expression.number who).Agrees related (expression.number who) ∧
      (expression.content who).Agrees related (expression.content who) := by
  refine agrees_of_acts (Scene.lasting_foundAt place oid).alike (fun act => ?_)
    (fun other name => ?_) who expression
  · refine Evaluation.agrees_step ?_
    rintro s _ ⟨rfl, held⟩
    exact ⟨rfl, rfl, held⟩
  · exact Scene.identifies_of_lasting fun scene held => Scene.foundAt?_identifyAt held other name

end SceneFormula
