import SceneFormula.Proofs.Glances
import SceneFormula.Proofs.NamedObjects

set_option autoImplicit false

namespace SceneFormula

namespace Scene

variable {scene before after : Scene}

/-- Whether the objects in a scene are in the order in which they were created. -/
structure InOrder (scene : Scene) : Prop where
  sorted : scene.present.Pairwise (· < ·)
  created : ∀ label ∈ scene.present, label < scene.objects.length

theorem InOrder.withOid (order : scene.InOrder) (oid : Int) :
    (scene.withOid oid).Pairwise (· < ·) :=
  order.sorted.filter _

theorem InOrder.of_glances (order : before.InOrder) (glances : before.Glances after) :
    after.InOrder := by
  refine ⟨glances.present ▸ order.sorted, ?_⟩
  rw [glances.present, glances.objects]
  exact order.created

theorem InOrder.create (order : scene.InOrder) (name : Text) (x y : HeldNumber)
    (vars : List (Text × HeldValue)) : (scene.create name x y vars).2.InOrder := by
  have present : (scene.create name x y vars).2.present = scene.present ++ [scene.objects.length] :=
    rfl
  have more : (scene.create name x y vars).2.objects.length = scene.objects.length + 1 :=
    List.length_append
  constructor
  · rw [present]
    refine List.pairwise_append.mpr ⟨order.sorted, List.pairwise_singleton _ _, ?_⟩
    intro label member other last
    rw [List.mem_singleton.mp last]
    exact order.created label member
  · rw [present, more]
    intro label member
    rcases List.mem_append.mp member with old | new
    · have := order.created label old
      omega
    · rw [List.mem_singleton.mp new]
      omega

theorem InOrder.remove (order : scene.InOrder) (label : Nat) : (scene.remove label).2.InOrder :=
  ⟨order.sorted.sublist List.eraseP_sublist,
    fun other member => order.created other (List.mem_of_mem_eraseP member)⟩

end Scene

/-- What it depends on which objects with an identifier are concerned. -/
inductive Concern where
  /-- The identifier has not been looked at since the last reset. -/
  | unseen
  | seen (scene : Scene)
  | narrowed (labels : List Nat)

namespace Concern

variable {concern : Concern} {before after : Scene} {oid : Int}

def narrowed? : Concern → Option (List Nat)
  | narrowed labels => some labels
  | _ => none

/-- The scene in which an identifier was looked at, which is the present one if it has not been. -/
def sight (present : Scene) : Concern → Scene
  | seen scene => scene
  | _ => present

def known? (oid : Int) : Concern → Option (List Nat)
  | unseen => none
  | seen scene => some (scene.withOid oid)
  | narrowed labels => some labels

/-- The concern after a look in a scene, which matters only if it is the first. -/
def look (scene : Scene) : Concern → Concern
  | unseen => seen scene
  | looked => looked

theorem getD_known? (concern : Concern) (present : Scene) (oid : Int) :
    (concern.known? oid).getD (present.withOid oid) =
      concern.narrowed?.getD ((concern.sight present).withOid oid) := by
  cases concern <;> rfl

theorem known?_look (concern : Concern) (scene : Scene) (oid : Int) :
    (concern.look scene).known? oid = some ((concern.known? oid).getD (scene.withOid oid)) := by
  cases concern <;> rfl

theorem picked?_eq_known? (known : before.picked? oid = concern.known? oid)
    (looks : after.picked? oid = before.picked? oid ∨
      before.picked? oid = none ∧ after.picked? oid = some (before.withOid oid)) :
    after.picked? oid = Concern.known? oid
      (if (after.picked? oid).isSome then concern.look before else concern) := by
  rcases looks with same | ⟨unknown, seen⟩
  · rw [same]
    split
    · rename_i some_
      obtain ⟨labels, held⟩ := Option.isSome_iff_exists.mp some_
      rw [known?_look, ← known, held]
      rfl
    · exact known
  · rw [seen, Option.isSome_some, if_pos rfl, known?_look, ← known, unknown]
    rfl

end Concern

def Step.concern (session : Session) (oid : Int) (before : Concern) : Step → Concern
  | .resetPicks => .unseen
  | .setPicked reference labels =>
    if (Session.refer reference session.scene).1 = oid ∧
      labels.all (· < session.scene.objects.length) then .narrowed labels else before
  | .pick reference | .first reference =>
    if (Session.refer reference session.scene).1 = oid then before.look session.scene else before
  | step =>
    if ((session.perform step).2.scene.picked? oid).isSome then before.look session.scene
    else before

namespace Session

variable {session : Session} {oid : Int} {before : Concern}

def concern (oid : Int) (before : Concern) (session : Session) : List Step → Concern
  | [] => before
  | step :: rest => (session.perform step).2.concern oid (step.concern session oid before) rest

/-- Whether a session shows objects for an identifier: they are picked for it, and the first of them
is the first. -/
structure Shows (session : Session) (oid : Int) (labels : List Nat) : Prop where
  pick : (session.perform (.pick (.oid oid))).1 = .ok (.labels labels)
  first : (session.perform (.first (.oid oid))).1 = .ok (.label labels.head?)

theorem shows_iff {labels : List Nat} : session.Shows oid labels ↔
    (session.scene.picked? oid).getD (session.scene.withOid oid) = labels := by
  have answers (step : Step) (answer : List Nat → Answer)
      (asks : (session.perform step).1 = .ok (answer (Scene.pick
        { session.scene with events := [], completed := [] } oid).1)) :
      (session.perform step).1 =
        .ok (answer ((session.scene.picked? oid).getD (session.scene.withOid oid))) := by
    rw [asks, Scene.pick_eq]
    rfl
  have pick := answers (.pick (.oid oid)) .labels rfl
  have first := answers (.first (.oid oid)) (fun labels => .label labels.head?) rfl
  constructor
  · intro shows_
    have same := pick.symm.trans shows_.pick
    cases same
    rfl
  · rintro rfl
    exact ⟨pick, first⟩

/-- What is meant does not depend on what has been reported or completed, and nothing comes to be
known by meaning it. -/
theorem refer_of_report (reference : ObjectReference) (scene : Scene) (events : List Event)
    (completed : List Text) (oid : Int) :
    (refer reference { scene with events, completed }).1 = (refer reference scene).1 ∧
      (refer reference { scene with events, completed }).2.picked? oid = scene.picked? oid := by
  cases reference with
  | oid n => exact ⟨rfl, rfl⟩
  | name t => exact ⟨rfl, rfl⟩

/-- Objects that are all there are what an identifier is narrowed to, until then known or not. -/
theorem picked?_perform_setPicked (reference : ObjectReference) (labels : List Nat)
    (known : session.scene.picked? oid = before.known? oid) :
    (session.perform (.setPicked reference labels)).2.scene.picked? oid =
      (Step.concern session oid before (.setPicked reference labels)).known? oid := by
  let fresh : Scene := { session.scene with events := [], completed := [] }
  obtain ⟨meant, others⟩ := refer_of_report reference session.scene [] [] oid
  rw [perform, take, withLabels, Step.concern]
  by_cases all : labels.all (· < session.scene.objects.length)
  · rw [if_pos (by exact all)]
    change ((refer reference fresh).2.setPicked (refer reference fresh).1 labels).picked? oid = _
    rw [Scene.picked?_setPicked, meant, others]
    by_cases same : oid = (refer reference session.scene).1
    · rw [if_pos same, if_pos ⟨same.symm, all⟩]
      rfl
    · rw [if_neg same, if_neg fun narrows => same narrows.1.symm]
      exact known
  · rw [if_neg (by exact all), if_neg fun narrows => all narrows.2]
    exact known

theorem picked?_perform_pick (reference : ObjectReference)
    (known : session.scene.picked? oid = before.known? oid) :
    (session.perform (.pick reference)).2.scene.picked? oid =
      (Step.concern session oid before (.pick reference)).known? oid := by
  let fresh : Scene := { session.scene with events := [], completed := [] }
  obtain ⟨meant, others⟩ := refer_of_report reference session.scene [] [] oid
  have there : (refer reference fresh).2.withOid oid = session.scene.withOid oid :=
    (fresh.watches_refer reference).toGlances.withOid oid
  change ((refer reference fresh).2.pick (refer reference fresh).1).2.picked? oid = _
  rw [Scene.picked?_pick, Step.concern, meant]
  by_cases same : (refer reference session.scene).1 = oid
  · rw [if_pos same.symm, if_pos same, same, Scene.pick_eq, others, there, Concern.known?_look,
      known]
  · rw [if_neg (Ne.symm same), if_neg same, others]
    exact known

section Steps

variable (leaves : session.LeavesWorld) {step : Step} (own : step.LeavesWorld)
include leaves own

theorem inOrder_perform (order : session.scene.InOrder) :
    (session.perform step).2.scene.InOrder := by
  have fresh : (session.mapScene fun scene =>
    { scene with events := [], completed := [] }).scene.InOrder := ⟨order.sorted, order.created⟩
  cases step with
  | create name x y vars => exact fresh.create name x y vars
  | change label placement vars =>
    refine of_withObject (P := fun after => after.scene.InOrder) fresh fun object _ => ?_
    exact ⟨order.sorted, fun other member => (order.created other member).trans_eq
      List.length_set.symm⟩
  | remove label =>
    exact of_withObject (P := fun after => after.scene.InOrder) fresh fun _ _ => fresh.remove label
  | setPicked reference labels =>
    refine of_withLabels (P := fun after => after.scene.InOrder) fresh ?_
    have meant := fresh.of_glances (Scene.watches_refer _ reference).toGlances
    exact ⟨meant.sorted, meant.created⟩
  | resetPicks => exact ⟨order.sorted, order.created⟩
  | _ => exact order.of_glances (leaves.glances_perform own trivial).scene

theorem picked?_perform (known : session.scene.picked? oid = before.known? oid) :
    (session.perform step).2.scene.picked? oid = (step.concern session oid before).known? oid := by
  cases step with
  | create name x y vars => exact Concern.picked?_eq_known? known (.inl rfl)
  | change label placement vars | remove label =>
    refine Concern.picked?_eq_known? known (.inl ?_)
    exact of_withObject (P := fun after => after.scene.picked? oid = session.scene.picked? oid)
      rfl fun _ _ => rfl
  | setPicked reference labels => exact picked?_perform_setPicked reference labels known
  | resetPicks => rfl
  | pick reference | first reference => exact picked?_perform_pick reference known
  | _ =>
    exact Concern.picked?_eq_known? known
      ((leaves.glances_perform own trivial).scene.picked? oid)

end Steps

theorem inOrder_run (leaves : session.LeavesWorld) {steps : List Step}
    (own : ∀ step ∈ steps, step.LeavesWorld) (order : session.scene.InOrder) :
    (session.run steps).scene.InOrder := by
  induction steps generalizing session with
  | nil => exact order
  | cons step rest ih =>
    obtain ⟨first, others⟩ := List.forall_mem_cons.mp own
    exact ih (leaves.perform first) others (inOrder_perform leaves first order)

theorem picked?_run (leaves : session.LeavesWorld) {steps : List Step}
    (own : ∀ step ∈ steps, step.LeavesWorld)
    (known : session.scene.picked? oid = before.known? oid) :
    (session.run steps).scene.picked? oid = (session.concern oid before steps).known? oid := by
  induction steps generalizing session before with
  | nil => exact known
  | cons step rest ih =>
    obtain ⟨first, others⟩ := List.forall_mem_cons.mp own
    exact ih (leaves.perform first) others (picked?_perform leaves first known)

/-- After several steps, picks are what an identifier has been narrowed to, or else what there was
to see when it was looked at first. -/
theorem shows_iff_of_run (leaves : session.LeavesWorld) {steps : List Step}
    (own : ∀ step ∈ steps, step.LeavesWorld)
    (known : session.scene.picked? oid = before.known? oid) {labels : List Nat} :
    (session.run steps).Shows oid labels ↔
      (session.concern oid before steps).narrowed?.getD
        (((session.concern oid before steps).sight (session.run steps).scene).withOid oid) =
          labels := by
  rw [shows_iff, picked?_run leaves own known, Concern.getD_known?]

theorem start_ofSettings (backends : Text → FormulaEngine) (name : Text) (settings : Settings)
    (entropy : Int) :
    let session := ofSettings backends name settings entropy
    session.LeavesWorld ∧ session.scene.InOrder ∧ ∀ oid, session.scene.picked? oid = none := by
  obtain ⟨events, same⟩ :=
    (Scene.ofSettings backends name settings entropy).exists_registerLibrary_eq
  have nothing : Registry.empty.LeavesWorld := nofun
  rw [ofSettings, start, same]
  exact ⟨⟨nothing.insertLibrary, nofun⟩, ⟨.nil, nofun⟩, fun _ => rfl⟩

/-- Whatever steps a session takes, an identifier that has been narrowed shows the objects that were
given last, and any other one those that had it in the scene at the first look. So picks follow the
scene until they are narrowed exactly if no object of the identifier has come or gone since then. In
the scene itself, objects stand in the order in which they were created. -/
theorem shows_of_run (backends : Text → FormulaEngine) (name : Text) (settings : Settings)
    (entropy : Int) {steps : List Step} (own : ∀ step ∈ steps, step.LeavesWorld) (oid : Int) :
    let session := ofSettings backends name settings entropy
    let last := session.run steps
    let concern := session.concern oid .unseen steps
    last.Shows oid (concern.narrowed?.getD ((concern.sight last.scene).withOid oid)) ∧
      (last.Shows oid (concern.narrowed?.getD (last.scene.withOid oid)) ↔
        (concern.narrowed? = none →
          (concern.sight last.scene).withOid oid = last.scene.withOid oid)) ∧
      (last.scene.withOid oid).Pairwise (· < ·) := by
  intro session last concern
  obtain ⟨leaves, order, unknown⟩ := start_ofSettings backends name settings entropy
  have unseen : session.scene.picked? oid = Concern.unseen.known? oid := unknown oid
  have shown (labels : List Nat) : last.Shows oid labels ↔
      concern.narrowed?.getD ((concern.sight last.scene).withOid oid) = labels :=
    shows_iff_of_run leaves own unseen
  refine ⟨(shown _).mpr rfl, ?_, (inOrder_run leaves own order).withOid oid⟩
  rw [shown]
  cases concern.narrowed? with
  | none => exact ⟨fun same _ => same, fun same => same rfl⟩
  | some labels => exact ⟨fun _ => nofun, fun _ => rfl⟩

/-- An enemy that comes after a look at the enemies is not seen any more. -/
theorem shows_of_run_enemy :
    let settings : Settings :=
      ⟨Text.lit "math", true, 1, some 0, .info, .console, Int.le_refl 1⟩
    let steps : List Step := [.create (Text.lit "Enemy") 0 0 [], .pick (.oid 1),
      .create (Text.lit "Enemy") 0 0 []]
    let last := (ofSettings .ofModules (Text.lit "scene") settings 0).run steps
    (∀ step ∈ steps, step.LeavesWorld) ∧ last.scene.withOid 1 = [0, 1] ∧ last.Shows 1 [0] ∧
      ¬ last.Shows 1 [0, 1] := by
  intro settings steps last
  have own : ∀ step ∈ steps, step.LeavesWorld := by
    intro step member
    simp only [steps, List.mem_cons, List.not_mem_nil, or_false] at member
    rcases member with rfl | rfl | rfl <;> trivial
  have now : last.scene.withOid 1 = [0, 1] := by decide +kernel
  let concern := (ofSettings .ofModules (Text.lit "scene") settings 0).concern 1 .unseen steps
  have free : concern.narrowed? = none := by decide +kernel
  have once : (concern.sight last.scene).withOid 1 = [0] := by decide +kernel
  obtain ⟨shown, follows, -⟩ :=
    shows_of_run .ofModules (Text.lit "scene") settings 0 own 1
  change last.Shows 1 (concern.narrowed?.getD ((concern.sight last.scene).withOid 1)) at shown
  change last.Shows 1 (concern.narrowed?.getD (last.scene.withOid 1)) ↔ (concern.narrowed? = none →
    (concern.sight last.scene).withOid 1 = last.scene.withOid 1) at follows
  rw [free, once] at shown
  rw [free, once, now] at follows
  exact ⟨own, now, shown, fun shows_ => absurd (follows.mp shows_ rfl) (by decide)⟩

end Session

end SceneFormula
