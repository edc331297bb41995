import Mathlib.Data.Set.Card
import SceneFormula.Scene.Identifiers

set_option autoImplicit false

namespace SceneFormula

theorem leastFree_not_mem (taken : List Int) (counter : Int) : leastFree taken counter ∉ taken := by
  fun_induction leastFree taken counter with
  | case1 counter member ih => exact ih
  | case2 counter absent => exact absent

theorem Table.ncard_setOf_get?_ne_none {κ α : Type} [DecidableEq κ] (table : Table κ α) :
    {key | table.get? key ≠ none}.ncard = table.size := by
  have keys : {key | table.get? key ≠ none} = (table.keys.toFinset : Set κ) := by
    ext key
    simp [get?_eq_none_iff]
  have distinct : table.keys.Nodup := table.distinct
  rw [keys, Set.ncard_coe_finset, List.toFinset_card_of_nodup distinct]
  exact List.length_map _

namespace Identifiers

variable {ids : Identifiers} {name other : Text} {oid : Int}

theorem nameOf?_leastFree (ids : Identifiers) :
    ids.nameOf? (leastFree ids.names.keys ids.next) = none :=
  Table.get?_eq_none_iff.mpr (leastFree_not_mem _ _)

/-- A name that is looked up has an identifier, or has none and is given none, or is given a new
one. -/
theorem lookup_cases (ids : Identifiers) (name : Text) :
    ids.idOf? name = some (ids.lookup name).1 ∧ (ids.lookup name).2 = ids ∨
    ids.idOf? name = none ∧ ids.autoAssign = false ∧ ids.lookup name = (noObject, ids) ∨
    ids.idOf? name = none ∧ ids.autoAssign = true ∧
      (ids.lookup name).1 = leastFree ids.names.keys ids.next ∧
      (ids.lookup name).2 =
        { ids with next := (ids.lookup name).1 + 1 }.bind name (ids.lookup name).1 := by
  unfold lookup
  cases known : ids.idOf? name with
  | some oid => exact .inl ⟨rfl, rfl⟩
  | none =>
    cases auto : ids.autoAssign with
    | false => exact .inr (.inl ⟨rfl, rfl, rfl⟩)
    | true => exact .inr (.inr ⟨rfl, rfl, rfl, by simp⟩)

theorem assigns_eq_true_iff :
    ids.assigns name = true ↔ ids.autoAssign = true ∧ ids.idOf? name = none := by
  simp [assigns]

/-- Whether a name has an identifier exactly if the identifier has the name. -/
def Paired (ids : Identifiers) : Prop :=
  ∀ name oid, ids.nameOf? oid = some name ↔ ids.idOf? name = some oid

theorem paired_empty (autoAssign : Bool) (first : Int) : (empty autoAssign first).Paired :=
  fun _ _ => ⟨nofun, nofun⟩

theorem Paired.eq_of_idOf? (paired : ids.Paired) (own : ids.idOf? name = some oid)
    (shared : ids.idOf? other = some oid) : name = other :=
  Option.some.inj (((paired name oid).mpr own).symm.trans ((paired other oid).mpr shared))

/-- As many names have an identifier as identifiers have a name. -/
theorem Paired.size_eq (paired : ids.Paired) :
    ids.size = {oid | ids.nameOf? oid ≠ none}.ncard := by
  have owners : {name | ids.oids.get? name ≠ none} =
      (fun oid => (ids.nameOf? oid).getD []) '' {oid | ids.nameOf? oid ≠ none} := by
    ext name
    constructor
    · intro known
      obtain ⟨oid, own⟩ := Option.ne_none_iff_exists'.mp known
      have named := (paired name oid).mpr own
      exact ⟨oid, by simp [named], by simp [named]⟩
    · rintro ⟨oid, named, rfl⟩
      obtain ⟨name, own⟩ := Option.ne_none_iff_exists'.mp named
      have known := (paired name oid).mp own
      rw [idOf?] at known
      simp [own, known]
  have apart : Set.InjOn (fun oid => (ids.nameOf? oid).getD []) {oid | ids.nameOf? oid ≠ none} := by
    intro oid named oid' named' same
    obtain ⟨name, own⟩ := Option.ne_none_iff_exists'.mp named
    obtain ⟨name', own'⟩ := Option.ne_none_iff_exists'.mp named'
    simp only [own, own', Option.getD_some] at same
    subst same
    exact Option.some.inj (((paired _ _).mp own).symm.trans ((paired _ _).mp own'))
  rw [size, ← Table.ncard_setOf_get?_ne_none, owners, apart.ncard_image]

/-- A name without an identifier and an identifier without a name can be bound to each other. -/
theorem Paired.bind (paired : ids.Paired) (unknown : ids.idOf? name = none)
    (free : ids.nameOf? oid = none) : (ids.bind name oid).Paired := by
  intro other n
  rw [idOf?_bind, nameOf?_bind]
  have pair := paired other n
  grind

theorem Paired.lookup (paired : ids.Paired) (name : Text) : (ids.lookup name).2.Paired := by
  rcases ids.lookup_cases name with ⟨-, same⟩ | ⟨-, -, same⟩ | ⟨unknown, -, fresh, after⟩
  · rwa [same]
  · rwa [same]
  · have free := ids.nameOf?_leastFree
    rw [← fresh] at free
    have counted : { ids with next := (ids.lookup name).1 + 1 }.Paired := paired
    rw [after]
    exact counted.bind unknown free

theorem idOf?_release (ids : Identifiers) (name other : Text) :
    (ids.release name).idOf? other = ids.idOf? other := by
  unfold release
  split <;> rfl

/-- What belonged to a name belongs to none when its identifier is freed. -/
theorem Paired.nameOf?_release (paired : ids.Paired) (name : Text) (n : Int) :
    (ids.release name).nameOf? n =
      if ids.nameOf? n = some name then none else ids.nameOf? n := by
  have pair := paired name n
  unfold release
  split
  · rename_i previous known
    refine (ids.names.get?_erase previous n).trans ?_
    change (if n = previous then none else ids.nameOf? n) = _
    grind
  · grind

theorem evict_of_free (free : ids.nameOf? oid = none) (name : Text) :
    ids.evict name oid = .ok ids := by
  rw [evict, free]

theorem evict_of_owner {owner : Text} {own : Int} (owned : ids.nameOf? oid = some owner)
    (ne : owner ≠ name) (known : ids.idOf? owner = some own) :
    ids.evict name oid = .ok { ids with oids := ids.oids.erase owner } := by
  rw [evict, owned]
  simp [ne, known]

/-- What binding a name and an identifier to each other makes of identifiers: other names lose this
identifier, other identifiers this name, and nothing else changes. -/
structure Rebinds (ids : Identifiers) (name : Text) (oid : Int) (after : Identifiers) : Prop where
  autoAssign : after.autoAssign = ids.autoAssign
  next : after.next = ids.next
  idOf? : ∀ other, after.idOf? other =
    if other = name then some oid else if ids.idOf? other = some oid then none else ids.idOf? other
  nameOf? : ∀ n, after.nameOf? n =
    if n = oid then some name else if ids.nameOf? n = some name then none else ids.nameOf? n

/-- Where names and identifiers are in pairs, a name can be bound to any identifier that stands for
an object. -/
theorem Paired.exists_assign_eq (paired : ids.Paired) (name : Text) (ne : oid ≠ noObject) :
    ∃ after, ids.assign name oid = (.ok (), after) ∧ ids.Rebinds name oid after := by
  have named := paired.nameOf?_release name
  have known := ids.idOf?_release name
  have auto : (ids.release name).autoAssign = ids.autoAssign := by unfold release; split <;> rfl
  have next : (ids.release name).next = ids.next := by unfold release; split <;> rfl
  unfold assign
  rw [if_neg ne]
  generalize ids.release name = released at named known auto next ⊢
  dsimp only
  cases owned : released.nameOf? oid with
  | none =>
    rw [evict_of_free owned]
    refine ⟨_, rfl, auto, next, fun other => ?_, fun n => ?_⟩
    · rw [idOf?_bind, known]
      have pair := paired other oid
      grind
    · rw [nameOf?_bind, named]
  | some owner =>
    -- the name has been freed, so the owner is another one, and has the identifier
    have former : ids.nameOf? oid = some owner ∧ owner ≠ name := by grind
    have own := (paired owner oid).mp former.1
    rw [evict_of_owner owned former.2 ((known owner).trans own)]
    refine ⟨_, rfl, auto, next, fun other => ?_, fun n => ?_⟩
    · have erased : Identifiers.idOf? { released with oids := released.oids.erase owner } other =
          if other = owner then none else released.idOf? other :=
        released.oids.get?_erase owner other
      rw [idOf?_bind, erased, known]
      have pair := paired other oid
      grind
    · rw [nameOf?_bind]
      exact congrArg (fun rest => if n = oid then some name else rest) (named n)

theorem Paired.rebinds (paired : ids.Paired) {after : Identifiers}
    (rebinds : ids.Rebinds name oid after) : after.Paired := by
  intro other n
  rw [rebinds.idOf?, rebinds.nameOf?]
  have pair := paired other n
  have own := paired name n
  have shared := paired other oid
  grind

theorem Paired.assign (paired : ids.Paired) (name : Text) (oid : Int) :
    (ids.assign name oid).2.Paired := by
  by_cases reserved : oid = noObject
  · rw [Identifiers.assign, if_pos reserved]
    exact paired
  · obtain ⟨after, done, rebinds⟩ := paired.exists_assign_eq name reserved
    rw [done]
    exact paired.rebinds rebinds

def run (ids : Identifiers) : List NamingStep → Identifiers
  | [] => ids
  | step :: rest => (ids.take step).2.run rest

theorem Paired.take (paired : ids.Paired) (step : NamingStep) : (ids.take step).2.Paired := by
  cases step with
  | lookup name => exact paired.lookup name
  | assign name oid => exact paired.assign name oid
  | nameOf | contains | size | setAuto => exact paired

theorem Paired.run (paired : ids.Paired) (steps : List NamingStep) : (ids.run steps).Paired := by
  induction steps generalizing ids with
  | nil => exact paired
  | cons step rest ih => exact ih (paired.take step)

theorem eq_empty_of_start {autoAssign : Bool} {first : Int}
    (accepted : start autoAssign first = .ok ids) :
    ids = empty autoAssign first ∧ first ≠ noObject := by
  unfold start at accepted
  split at accepted
  · cases accepted
  · cases accepted
    exact ⟨rfl, ‹_›⟩

/-- Whatever steps are taken, the identifiers of names and the names of identifiers are each other
turned round. A name can then be bound to any identifier that stands for an object, and both belong
to each other only; a binding that fails changes nothing. -/
theorem pairs_of_run {autoAssign : Bool} {first : Int} {start : Identifiers}
    (accepted : Identifiers.start autoAssign first = .ok start) (steps : List NamingStep) :
    let ids := start.run steps
    (∀ name oid, ids.nameOf? oid = some name ↔ ids.idOf? name = some oid) ∧
    (∀ name other oid, ids.idOf? name = some oid → ids.idOf? other = some oid → name = other) ∧
    (∀ name oid n, ids.nameOf? oid = some name → ids.nameOf? n = some name → oid = n) ∧
    ids.size = {oid | ids.nameOf? oid ≠ none}.ncard ∧
    (∀ name oid, oid ≠ noObject → ∃ after, ids.assign name oid = (.ok (), after) ∧
      (∀ other, after.idOf? other = some oid ↔ other = name) ∧
      ∀ n, after.nameOf? n = some name ↔ n = oid) ∧
    ∀ name oid fault, (ids.assign name oid).1 = .error fault → (ids.assign name oid).2 = ids := by
  obtain ⟨rfl, -⟩ := eq_empty_of_start accepted
  have paired := (paired_empty autoAssign first).run steps
  generalize (empty autoAssign first).run steps = ids at paired
  refine ⟨paired, fun name other oid => paired.eq_of_idOf?, ?_, paired.size_eq, ?_, ?_⟩
  · intro name oid n named named'
    exact Option.some.inj (((paired name oid).mp named).symm.trans ((paired name n).mp named'))
  · intro name oid ne
    obtain ⟨after, done, rebinds⟩ := paired.exists_assign_eq name ne
    refine ⟨after, done, fun other => ?_, fun n => ?_⟩
    · rw [rebinds.idOf?]
      grind
    · rw [rebinds.nameOf?]
      grind
  · intro name oid fault failed
    by_cases reserved : oid = noObject
    · rw [assign, if_pos reserved]
    · obtain ⟨after, done, -⟩ := paired.exists_assign_eq name reserved
      rw [done] at failed
      cases failed

/-- An enemy takes the identifier of a player, who is not given that of no object for it. -/
theorem pairs_of_run_enemy :
    let steps : List NamingStep := [.lookup (Text.lit "Player"), .assign (Text.lit "Enemy") 1,
      .assign (Text.lit "Player") noObject]
    let ids := (empty true 1).run steps
    start true 1 = .ok (empty true 1) ∧ ids.nameOf? 1 = some (Text.lit "Enemy") ∧
      ids.idOf? (Text.lit "Player") = none ∧ ids.size = {oid | ids.nameOf? oid ≠ none}.ncard ∧
      ∃ after, ids.assign (Text.lit "Player") 1 = (.ok (), after) ∧
        after.idOf? (Text.lit "Enemy") ≠ some 1 := by
  intro steps ids
  have accepted : start true 1 = .ok (empty true 1) := rfl
  obtain ⟨pair, -, -, size, bound, -⟩ := pairs_of_run accepted steps
  obtain ⟨after, done, only, -⟩ := bound (Text.lit "Player") 1 (by decide)
  refine ⟨accepted, (pair _ _).mpr (by decide +kernel), by decide +kernel, size, after, done, ?_⟩
  rw [Ne, only]
  decide

end Identifiers
end SceneFormula
