import SceneFormula.Proofs.Agreement
import SceneFormula.Proofs.SingleCall
import SceneFormula.Proofs.StandardEngine

set_option autoImplicit false

namespace SceneFormula

namespace Scene

def foundAt? (scene : Scene) (place : Place) : Option Int :=
  (scene.found.find? fun entry => entry.1 = place).map (·.2)

/-- Whether nothing is kept at a place, nor inside of it. -/
def Fresh (scene : Scene) (place : Place) : Prop :=
  ∀ path, scene.foundAt? (path ++ place) = none

/-- Whether two scenes differ in nothing but the identifiers that they keep, and keep the same ones
inside of one place and of another. -/
def Moved (here there : Place) (s t : Scene) : Prop :=
  (∃ found, t = { s with found }) ∧
    ∀ path, s.foundAt? (path ++ here) = t.foundAt? (path ++ there)

theorem identifyAt_eq (scene : Scene) (place : Place) (name : Text) :
    scene.identifyAt place name =
      match scene.foundAt? place with
      | some oid => (oid, scene)
      | none =>
        ((scene.identify name).1,
          { (scene.identify name).2 with found := (place, (scene.identify name).1) :: scene.found })
    := by
  unfold identifyAt foundAt?
  cases scene.found.find? fun entry => entry.1 = place <;> rfl

variable {here there : Place}

theorem Fresh.moved {scene : Scene} (fresh : scene.Fresh here) (other : scene.Fresh there) :
    Moved here there scene scene :=
  ⟨⟨scene.found, rfl⟩, fun path => (fresh path).trans (other path).symm⟩

/-- What is found at a place in one scene is found at the place that it is moved to in the other,
now and later. -/
theorem identifies_moved (path : Place) (name : Text) :
    Identifies (Moved here there) (path ++ here) (path ++ there) name := by
  refine Evaluation.agrees_step ?_
  rintro s _ ⟨⟨found, rfl⟩, same⟩
  rw [identifyAt_eq, identifyAt_eq, ← same path]
  cases known : s.foundAt? (path ++ here) with
  | some oid => exact ⟨rfl, ⟨found, rfl⟩, same⟩
  | none =>
    refine ⟨rfl, ⟨_, rfl⟩, fun other => ?_⟩
    have kept := same other
    simp only [foundAt?, List.find?_cons, List.append_left_inj] at kept ⊢
    by_cases point : path = other
    · simp only [point, decide_true]
      rfl
    · simpa only [point, decide_false] using kept

/-- Nothing but the identifiers at places tells apart two scenes of which one is moved. -/
theorem alike_moved : Alike (Moved here there) where
  objects := by
    rintro s _ ⟨⟨found, rfl⟩, -⟩
    rfl
  vars := by
    rintro s _ ⟨⟨found, rfl⟩, -⟩
    rfl
  timeDelta := by
    rintro s _ ⟨⟨found, rfl⟩, -⟩
    rfl
  elapsedTime := by
    rintro s _ ⟨⟨found, rfl⟩, -⟩
    rfl
  generator := by
    rintro s _ ⟨⟨found, rfl⟩, same⟩
    exact ⟨rfl, fun generator => ⟨⟨found, rfl⟩, same⟩⟩
  pick oid := by
    refine Evaluation.agrees_step ?_
    rintro s _ ⟨⟨found, rfl⟩, same⟩
    simp only [pick]
    cases s.picks.find? fun entry => entry.1 = oid with
    | none => exact ⟨rfl, ⟨found, rfl⟩, same⟩
    | some entry => exact ⟨rfl, ⟨found, rfl⟩, same⟩
  count registration := by
    refine Evaluation.agrees_step ?_
    rintro s _ ⟨⟨found, rfl⟩, same⟩
    exact ⟨rfl, ⟨found, rfl⟩, same⟩
  completed := by
    rintro s _ ⟨⟨found, rfl⟩, same⟩
    exact ⟨rfl, fun completed => ⟨⟨found, rfl⟩, same⟩⟩

end Scene

/-- Whether a registry has the functions of the library and no others. -/
def Registry.IsLibrary (functions : Registry) : Prop :=
  ∀ key, functions.get? key = library.find? fun function => function.key = key

namespace Registry

variable {functions : Registry} (standard : functions.IsLibrary)
include standard

theorem IsLibrary.get?_declared (function : LibraryFunction) :
    functions.get? function.declared.key = some function.declared := by
  rw [standard]
  cases function <;> rfl

theorem IsLibrary.exists_declared {key : FunctionKey} {function : SceneFunction}
    (found : functions.get? key = some function) :
    ∃ own : LibraryFunction, own.declared = function := by
  rw [standard] at found
  obtain ⟨own, _, same⟩ := List.mem_map.mp (List.mem_of_find?_eq_some found)
  exact ⟨own, same⟩

theorem IsLibrary.leavesWorld : functions.LeavesWorld := by
  intro key function found
  obtain ⟨own, rfl⟩ := standard.exists_declared found
  trivial

end Registry

end SceneFormula
