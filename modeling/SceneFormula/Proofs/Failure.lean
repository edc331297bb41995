import SceneFormula.Scene.Evaluation

set_option autoImplicit false

namespace SceneFormula

namespace Evaluation

variable {α β : Type} {allowed : EvaluationFault → Prop}

theorem runIn_bind (evaluation : Evaluation α) (next : α → Evaluation β) (scene : Scene) :
    (evaluation >>= next).runIn scene =
      match evaluation.runIn scene with
      | (.ok value, scene) => (next value).runIn scene
      | (.error fault, scene) => (.error fault, scene) := by
  change ExceptT.bindCont next (evaluation.runIn scene).1 (evaluation.runIn scene).2 = _
  rcases evaluation.runIn scene with ⟨_ | _, _⟩ <;> rfl

/-- Steps in a row give a value if the first does and then the others do. -/
theorem runIn_bind_eq_ok_iff {evaluation : Evaluation α} {next : α → Evaluation β}
    {before after : Scene} {result : β} :
    (evaluation >>= next).runIn before = (.ok result, after) ↔
      ∃ value between, evaluation.runIn before = (.ok value, between) ∧
        (next value).runIn between = (.ok result, after) := by
  rw [runIn_bind]
  rcases evaluation.runIn before with ⟨fault | value, between⟩
  · simp
  · constructor
    · intro done
      exact ⟨value, between, rfl, done⟩
    · rintro ⟨_, _, ⟨⟩, done⟩
      exact done

theorem runIn_throw (fault : EvaluationFault) (scene : Scene) :
    (throw fault : Evaluation α).runIn scene = (.error fault, scene) := rfl

theorem runIn_observe (evaluation : Evaluation α) (scene : Scene) :
    evaluation.observe.runIn scene =
      (.ok (evaluation.runIn scene).1, (evaluation.runIn scene).2) := rfl

/-- The fault of an evaluation in a scene, if it has one. -/
def fault? (evaluation : Evaluation α) (scene : Scene) : Option EvaluationFault :=
  match (evaluation.runIn scene).1 with
  | .ok _ => none
  | .error fault => some fault

theorem fault?_eq_some_iff {evaluation : Evaluation α} {scene : Scene} {fault : EvaluationFault} :
    evaluation.fault? scene = some fault ↔ (evaluation.runIn scene).1 = .error fault := by
  unfold fault?
  split <;> simp_all

/-- Whether all faults of an evaluation are allowed. -/
def Safe (allowed : EvaluationFault → Prop) (evaluation : Evaluation α) : Prop :=
  ∀ scene fault, (evaluation.runIn scene).1 = .error fault → allowed fault

theorem safe_pure (value : α) : (pure value : Evaluation α).Safe allowed := nofun

theorem safe_step (change : Scene → α × Scene) : (step change).Safe allowed := nofun

theorem safe_ask (question : Scene → α) : (ask question).Safe allowed := nofun

theorem safe_throw {fault : EvaluationFault} (fine : allowed fault) :
    (throw fault : Evaluation α).Safe allowed := by
  rintro scene _ ⟨⟩
  exact fine

/-- Steps in a row are safe if the first is and, whatever value it gives, the others are. -/
theorem Safe.bind_of_value {evaluation : Evaluation α} {next : α → Evaluation β}
    (first : evaluation.Safe allowed)
    (others : ∀ value before after, evaluation.runIn before = (.ok value, after) →
      (next value).Safe allowed) :
    (evaluation >>= next).Safe allowed := by
  intro scene fault failed
  rw [runIn_bind] at failed
  split at failed
  · rename_i value after done
    exact others value scene after done after fault failed
  · rename_i cause after done
    cases failed
    exact first scene fault (by rw [done])

theorem Safe.bind {evaluation : Evaluation α} {next : α → Evaluation β}
    (first : evaluation.Safe allowed) (others : ∀ value, (next value).Safe allowed) :
    (evaluation >>= next).Safe allowed :=
  first.bind_of_value fun value _ _ _ => others value

/-- A handler of a safe evaluation's outcome has only allowed faults to handle. -/
theorem Safe.bind_observe {evaluation : Evaluation α}
    {next : Except EvaluationFault α → Evaluation β} (first : evaluation.Safe allowed)
    (success : ∀ value, (next (.ok value)).Safe allowed)
    (failure : ∀ fault, allowed fault → (next (.error fault)).Safe allowed) :
    (evaluation.observe >>= next).Safe allowed := by
  refine Safe.bind_of_value nofun fun outcome before after done => ?_
  rw [runIn_observe] at done
  cases outcome with
  | ok value => exact success value
  | error fault => exact failure fault (first before fault (congrArg (·.1) done |> Except.ok.inj))

end Evaluation
end SceneFormula
