import SceneFormula.Proofs.NamedObjects

set_option autoImplicit false

namespace SceneFormula

namespace Scene

variable {scene : Scene} {label : Nat}

/-- Whether to remove an object takes out this very object if it is in the scene, says so, and
changes nothing else. -/
def RemovesItself (scene : Scene) (label : Nat) : Prop :=
  scene.remove label =
    (decide (label ∈ scene.present), { scene with present := scene.present.erase label })

theorem isLike_self (scene : Scene) (label : Nat) : scene.isLike label label = true := by
  simp [isLike]

theorem remove_cases (scene : Scene) (label : Nat) :
    (∃ before other after, scene.present = before ++ other :: after ∧
      scene.isLike label other = true ∧ (∀ earlier ∈ before, scene.isLike label earlier = false) ∧
      scene.remove label = (true, { scene with present := before ++ after })) ∨
    (∀ other ∈ scene.present, scene.isLike label other = false) ∧
      scene.remove label = (false, scene) := by
  cases found : scene.present.any (scene.isLike label) with
  | true =>
    obtain ⟨other, member, alike⟩ := List.any_eq_true.mp found
    obtain ⟨first, before, after, earlier, alike, whole, rest⟩ :=
      List.exists_of_eraseP member alike
    refine .inl ⟨before, first, after, whole, alike, fun other member => ?_, ?_⟩
    · exact Bool.eq_false_iff.mpr (earlier other member)
    · rw [remove, found, rest]
  | false =>
    have unlike : ∀ other ∈ scene.present, scene.isLike label other = false := by
      simpa using found
    have same : scene.present.eraseP (scene.isLike label) = scene.present :=
      List.eraseP_of_forall_not fun other member => Bool.eq_false_iff.mp (unlike other member)
    exact .inr ⟨unlike, by rw [remove, found, same]⟩

theorem not_mem_of_unlike {labels : List Nat}
    (unlike : ∀ other ∈ labels, scene.isLike label other = false) : label ∉ labels := by
  intro member
  have own := unlike label member
  rw [isLike_self] at own
  cases own

section First

variable {before after : List Nat} {first : Nat} (whole : scene.present = before ++ first :: after)
  (alike : scene.isLike label first = true)
  (earlier : ∀ other ∈ before, scene.isLike label other = false)
include whole earlier

theorem removesItself_iff_eq
    (removed : scene.remove label = (true, { scene with present := before ++ after })) :
    scene.RemovesItself label ↔ first = label := by
  rw [RemovesItself, removed]
  constructor
  · intro itself
    obtain ⟨inside, rest⟩ := Prod.mk.inj itself
    have member : label ∈ scene.present := of_decide_eq_true inside.symm
    have rest : before ++ after = scene.present.erase label := congrArg (·.present) rest
    -- The given object is there once less if it is what goes, and as often as before otherwise.
    have fewer := congrArg (List.count label) rest
    rw [List.count_erase_self] at fewer
    have held := List.count_pos_iff.mpr member
    by_contra other
    simp only [whole, List.count_append, List.count_cons_of_ne other] at fewer held
    omega
  · rintro rfl
    have absent := not_mem_of_unlike earlier
    rw [whole, List.erase_append_right _ absent, List.erase_cons_head]
    simp

include alike

theorem eq_iff_behind :
    first = label ↔ ∀ front other back, scene.present = front ++ other :: back →
      scene.isLike label other = true → other ≠ label → label ∈ front := by
  constructor
  · rintro rfl front other back split like ne
    rw [whole] at split
    rcases List.append_eq_append_iff.mp split with ⟨between, rfl, rest⟩ | ⟨between, rfl, rest⟩
    · cases between with
      | nil => exact absurd (List.cons.inj rest).1.symm ne
      | cons c between =>
        rw [List.cons_append] at rest
        exact List.mem_append_right _ ((List.cons.inj rest).1 ▸ List.mem_cons_self)
    · cases between with
      | nil => exact absurd (List.cons.inj rest).1 ne
      | cons c between =>
        rw [List.cons_append] at rest
        have unlike := earlier other (by simp [(List.cons.inj rest).1])
        rw [like] at unlike
        cases unlike
  · intro behind
    by_contra other
    exact not_mem_of_unlike earlier (behind _ _ _ whole alike other)

end First

/-- Removing an object takes out that very object exactly if every other one in the scene that is
like it stands behind it. If nothing goes the scene stays as it is, and what is left keeps its
order. -/
theorem removesItself_iff (scene : Scene) (label : Nat) :
    (scene.RemovesItself label ↔ ∀ front other back,
      scene.present = front ++ other :: back → scene.isLike label other = true →
        other ≠ label → label ∈ front) ∧
    ((scene.remove label).1 = true ∨ scene.remove label = (false, scene)) ∧
    (scene.remove label).2.present.Sublist scene.present := by
  rcases scene.remove_cases label with
    ⟨before, first, after, whole, alike, earlier, removed⟩ | ⟨unlike, removed⟩
  · refine ⟨?_, .inl (by rw [removed]), ?_⟩
    · rw [removesItself_iff_eq whole earlier removed, eq_iff_behind whole alike earlier]
    · rw [removed, whole]
      exact (List.sublist_cons_self first after).append_left before
  · have absent := not_mem_of_unlike unlike
    refine ⟨iff_of_true ?_ ?_, .inr removed, by rw [removed]⟩
    · rw [RemovesItself, removed, List.erase_of_not_mem absent]
      simp [absent]
    · intro front other back whole like
      rw [unlike other (by simp [whole])] at like
      cases like

end Scene

namespace Session

/-- Of two equal enemies the first one goes when the second one is to be removed. -/
theorem not_removesItself_twin :
    let settings : Settings :=
      ⟨Text.lit "math", true, 1, some 0, .info, .console, Int.le_refl 1⟩
    let steps : List Step :=
      [.create (Text.lit "Enemy") 0 0 [], .create (Text.lit "Enemy") 0 0 []]
    let scene := ((ofSettings .ofModules (Text.lit "scene") settings 0).run steps).scene
    scene.present = [0, 1] ∧ (scene.remove 1).2.present = [1] ∧ ¬ scene.RemovesItself 1 := by
  intro settings steps scene
  have alike : scene.isLike 1 0 = true := by decide +kernel
  obtain ⟨behind, -, -⟩ := scene.removesItself_iff 1
  have present : scene.present = [0, 1] := by decide +kernel
  refine ⟨present, by decide +kernel, fun itself => ?_⟩
  exact nomatch behind.mp itself [] 0 [1] present alike (by decide)

/-- One undefined number that both enemies hold makes them alike; two of them do not. -/
example :
    let settings : Settings :=
      ⟨Text.lit "math", true, 1, some 0, .info, .console, Int.le_refl 1⟩
    let behind (mark : Nat) := ((ofSettings .ofModules (Text.lit "scene") settings 0).run
      [.create (Text.lit "Enemy") ⟨0 / 0, 0⟩ 0 [],
        .create (Text.lit "Enemy") ⟨0 / 0, mark⟩ 0 []]).scene.remove 1
    (behind 0).2.present = [1] ∧ (behind 1).2.present = [0] := by
  decide +kernel

end Session
end SceneFormula
