import Mathlib.Data.Finset.Basic
import Mathlib.Data.Fintype.EquivFin
import SceneFormula.Proofs.Pairing

set_option autoImplicit false

namespace SceneFormula

theorem le_leastFree (taken : List Int) (counter : Int) : counter ≤ leastFree taken counter := by
  fun_induction leastFree taken counter with
  | case1 counter member ih => omega
  | case2 counter absent => exact Int.le_refl counter

theorem mem_of_lt_leastFree {taken : List Int} {counter n : Int} (from_ : counter ≤ n)
    (passed : n < leastFree taken counter) : n ∈ taken := by
  fun_induction leastFree taken counter with
  | case1 counter member ih =>
    by_cases here : n = counter
    · exact here ▸ member
    · exact ih (by omega) passed
  | case2 counter absent => omega

namespace Identifiers

variable {ids origin : Identifiers} {name other : Text} {oid : Int} {steps : List NamingStep}

/-- What looking up a name makes of identifiers that gives it a new one. -/
structure Gives (ids : Identifiers) (name : Text) (oid : Int) (after : Identifiers) : Prop where
  unknown : ids.idOf? name = none
  least : oid = leastFree ids.names.keys ids.next
  next : after.next = oid + 1
  idOf? : ∀ other, after.idOf? other = if other = name then some oid else ids.idOf? other

theorem Gives.next_le {after : Identifiers} (gives : ids.Gives name oid after) : ids.next ≤ oid :=
  gives.least ▸ le_leastFree _ _

theorem gives_lookup (assigns : ids.assigns name = true) :
    ids.Gives name (ids.lookup name).1 (ids.lookup name).2 := by
  obtain ⟨auto, unknown⟩ := assigns_eq_true_iff.mp assigns
  rcases ids.lookup_cases name with ⟨known, -⟩ | ⟨-, off, -⟩ | ⟨-, -, least, after⟩
  · cases unknown.symm.trans known
  · cases auto.symm.trans off
  · refine ⟨unknown, least, by rw [after]; rfl, fun other => ?_⟩
    rw [after, idOf?_bind]
    rfl

theorem lookup_of_not_assigns (known : ids.assigns name ≠ true) : (ids.lookup name).2 = ids := by
  rcases ids.lookup_cases name with ⟨-, same⟩ | ⟨-, -, same⟩ | ⟨unknown, auto, -, -⟩
  · exact same
  · rw [same]
  · exact absurd (assigns_eq_true_iff.mpr ⟨auto, unknown⟩) known

/-- A step gives a new identifier, binds one of choice, or leaves the identifiers of names and the
counter as they are. -/
theorem Paired.take_cases (paired : ids.Paired) (step : NamingStep) :
    (∃ name oid, step = .lookup name ∧ ids.Gives name oid (ids.take step).2) ∨
    (∃ name oid, step = .assign name oid ∧ oid ≠ noObject ∧
      ids.Rebinds name oid (ids.take step).2) ∨
    (ids.take step).2.next = ids.next ∧ ∀ name, (ids.take step).2.idOf? name = ids.idOf? name := by
  cases step with
  | lookup name =>
    by_cases assigns : ids.assigns name = true
    · exact .inl ⟨name, _, rfl, gives_lookup assigns⟩
    · have same : (ids.take (.lookup name)).2 = ids := lookup_of_not_assigns assigns
      exact .inr (.inr ⟨by rw [same], fun other => by rw [same]⟩)
  | assign name oid =>
    by_cases reserved : oid = noObject
    · have same : (ids.take (.assign name oid)).2 = ids := by
        rw [Identifiers.take, Identifiers.assign, if_pos reserved]
      exact .inr (.inr ⟨by rw [same], fun other => by rw [same]⟩)
    · obtain ⟨after, done, rebinds⟩ := paired.exists_assign_eq name reserved
      refine .inr (.inl ⟨name, oid, rfl, reserved, ?_⟩)
      rw [Identifiers.take, done]
      exact rebinds
  | nameOf | contains | size | setAuto => exact .inr (.inr ⟨rfl, fun _ => rfl⟩)

theorem Paired.next_le_take (paired : ids.Paired) (step : NamingStep) :
    ids.next ≤ (ids.take step).2.next := by
  rcases paired.take_cases step with ⟨name, oid, -, gives⟩ | ⟨name, oid, -, -, rebinds⟩ | ⟨same, -⟩
  · have := gives.next_le
    rw [gives.next]
    omega
  · rw [rebinds.next]
  · rw [same]

theorem run_concat (ids : Identifiers) (steps : List NamingStep) (step : NamingStep) :
    ids.run (steps ++ [step]) = ((ids.run steps).take step).2 := by
  induction steps generalizing ids with
  | nil => rfl
  | cons first rest ih => exact ih (ids.take first).2

/-- Whether a name has had an identifier at some time of several steps. -/
def HasHad (origin : Identifiers) (steps : List NamingStep) (name : Text) (oid : Int) : Prop :=
  ∃ earlier, earlier <+: steps ∧ (origin.run earlier).idOf? name = some oid

theorem hasHad_of_idOf? (known : (origin.run steps).idOf? name = some oid) :
    origin.HasHad steps name oid :=
  ⟨steps, List.prefix_refl steps, known⟩

theorem HasHad.mono {later : List NamingStep} (had : origin.HasHad steps name oid)
    (goes : steps <+: later) : origin.HasHad later name oid := by
  obtain ⟨earlier, before, known⟩ := had
  exact ⟨earlier, before.trans goes, known⟩

theorem hasHad_concat {step : NamingStep} :
    origin.HasHad (steps ++ [step]) name oid ↔
      origin.HasHad steps name oid ∨ (origin.run (steps ++ [step])).idOf? name = some oid := by
  constructor
  · rintro ⟨earlier, before, known⟩
    rcases List.prefix_concat_iff.mp before with rfl | before
    · exact .inr known
    · exact .inl ⟨earlier, before, known⟩
  · rintro (had | known)
    · exact had.mono (List.prefix_append steps [step])
    · exact hasHad_of_idOf? known

section Runs

variable {autoAssign : Bool} {first : Int}

theorem lt_next_or_mem_of_hasHad (had : (empty autoAssign first).HasHad steps name oid) :
    oid < ((empty autoAssign first).run steps).next ∨
      .assign name oid ∈ steps ∧ oid ≠ noObject := by
  induction steps using List.reverseRecOn with
  | nil =>
    obtain ⟨earlier, before, known⟩ := had
    rw [List.prefix_nil.mp before] at known
    cases known
  | append_singleton steps step ih =>
    have paired := (paired_empty autoAssign first).run steps
    have grows := paired.next_le_take step
    have old (before : (empty autoAssign first).HasHad steps name oid) :
        oid < ((empty autoAssign first).run (steps ++ [step])).next ∨
          .assign name oid ∈ steps ++ [step] ∧ oid ≠ noObject := by
      rw [run_concat]
      refine (ih before).imp (fun below => by omega) fun chosen => ?_
      exact ⟨List.mem_append_left _ chosen.1, chosen.2⟩
    rcases hasHad_concat.mp had with before | known
    · exact old before
    · rw [run_concat] at known
      rcases paired.take_cases step with ⟨own, given, rfl, gives⟩ |
        ⟨own, chosen, rfl, ne, rebinds⟩ | ⟨-, same⟩
      · rw [gives.idOf?] at known
        by_cases here : name = own
        · rw [if_pos here] at known
          cases known
          rw [run_concat, gives.next]
          exact .inl (Int.lt_succ _)
        · rw [if_neg here] at known
          exact old (hasHad_of_idOf? known)
      · rw [rebinds.idOf?] at known
        by_cases here : name = own
        · rw [if_pos here] at known
          cases known
          exact .inr ⟨by rw [here]; exact List.mem_append_right _ List.mem_cons_self, ne⟩
        · refine old (hasHad_of_idOf? ?_)
          grind
      · rw [same] at known
        exact old (hasHad_of_idOf? known)

theorem hasHad_of_mem (chosen : .assign name oid ∈ steps) (ne : oid ≠ noObject) :
    (empty autoAssign first).HasHad steps name oid := by
  obtain ⟨before, later, rfl⟩ := List.append_of_mem chosen
  have paired := (paired_empty autoAssign first).run before
  obtain ⟨after, done, rebinds⟩ := paired.exists_assign_eq name ne
  refine ⟨before ++ [.assign name oid], ⟨later, by simp⟩, ?_⟩
  rw [run_concat, take, done]
  exact (rebinds.idOf? name).trans (if_pos rfl)

/-- An identifier that is given to a name has been that of another one before exactly if the other
was bound to it by choice. -/
theorem hasHad_lookup_iff {start : Identifiers}
    (accepted : Identifiers.start autoAssign first = .ok start) (steps : List NamingStep)
    (name : Text) (auto : (start.run steps).autoAssign = true)
    (unknown : (start.run steps).idOf? name = none) (other : Text) :
    start.HasHad steps other ((start.run steps).lookup name).1 ↔
      .assign other ((start.run steps).lookup name).1 ∈ steps ∧
        ((start.run steps).lookup name).1 ≠ noObject := by
  obtain ⟨rfl, -⟩ := eq_empty_of_start accepted
  have gives := gives_lookup (assigns_eq_true_iff.mpr ⟨auto, unknown⟩)
  constructor
  · intro had
    rcases lt_next_or_mem_of_hasHad had with below | chosen
    · have := gives.next_le
      omega
    · exact chosen
  · rintro ⟨chosen, ne⟩
    exact hasHad_of_mem chosen ne

/-- A ghost is given the identifier that a player was bound to by choice and has lost since. -/
theorem hasHad_lookup_ghost :
    let steps : List NamingStep := [.assign (Text.lit "Player") 1, .assign (Text.lit "Player") 5]
    let ids := (empty true 1).run steps
    start true 1 = .ok (empty true 1) ∧ ids.autoAssign = true ∧
      ids.idOf? (Text.lit "Ghost") = none ∧ (ids.lookup (Text.lit "Ghost")).1 = 1 ∧
      (empty true 1).HasHad steps (Text.lit "Player") (ids.lookup (Text.lit "Ghost")).1 := by
  intro steps ids
  have accepted : start true 1 = .ok (empty true 1) := rfl
  have given : (ids.lookup (Text.lit "Ghost")).1 = 1 := by decide +kernel
  refine ⟨accepted, rfl, rfl, given, ?_⟩
  refine (hasHad_lookup_iff accepted steps _ rfl rfl _).mpr ?_
  change .assign _ (ids.lookup (Text.lit "Ghost")).1 ∈ steps ∧ _
  rw [given]
  exact ⟨List.mem_cons_self, by decide⟩

theorem first_le_next (autoAssign : Bool) (first : Int) (steps : List NamingStep) :
    first ≤ ((empty autoAssign first).run steps).next := by
  induction steps using List.reverseRecOn with
  | nil => exact Int.le_refl first
  | append_singleton steps step ih =>
    rw [run_concat]
    exact ih.trans (((paired_empty autoAssign first).run steps).next_le_take step)

/-- A step has not bound the identifier of no object unless it has given it, and gives it as soon as
the counter passes it. -/
theorem Paired.exists_idOf?_noObject_take_iff (paired : ids.Paired) (step : NamingStep) :
    (∃ name, ids.idOf? name = some noObject) ∨
        (∃ name, (ids.take step).2.idOf? name = some noObject) ↔
      (∃ name, ids.idOf? name = some noObject) ∨
        ids.next ≤ noObject ∧ noObject < (ids.take step).2.next := by
  rcases paired.take_cases step with ⟨own, oid, -, gives⟩ | ⟨own, oid, -, ne, rebinds⟩ |
    ⟨next, same⟩
  · rw [gives.next]
    constructor
    · rintro (before | ⟨name, known⟩)
      · exact .inl before
      · rw [gives.idOf?] at known
        by_cases here : name = own
        · rw [if_pos here] at known
          cases known
          exact .inr ⟨gives.next_le, Int.lt_succ _⟩
        · rw [if_neg here] at known
          exact .inl ⟨name, known⟩
    · rintro (before | ⟨from_, to_⟩)
      · exact .inl before
      · by_cases here : oid = noObject
        · exact .inr ⟨own, by rw [gives.idOf?, if_pos rfl, here]⟩
        · have passed : noObject < leastFree ids.names.keys ids.next := by
            rw [← gives.least]
            omega
          have taken : ids.nameOf? noObject ≠ none := fun free =>
            Table.get?_eq_none_iff.mp free (mem_of_lt_leastFree from_ passed)
          obtain ⟨name, named⟩ := Option.ne_none_iff_exists'.mp taken
          exact .inl ⟨name, (paired name noObject).mp named⟩
  · constructor
    · rintro (before | ⟨name, known⟩)
      · exact .inl before
      · rw [rebinds.idOf?] at known
        exact .inl ⟨name, by grind⟩
    · rintro (before | ⟨from_, to_⟩)
      · exact .inl before
      · rw [rebinds.next] at to_
        omega
  · simp only [next, same, or_self]
    have apart : ¬ (ids.next ≤ noObject ∧ noObject < ids.next) := by omega
    simp [apart]

/-- The identifier of no object has been that of a name exactly if the counter has started below it
and passed it. -/
theorem exists_hasHad_noObject_iff (accepted : first ≠ noObject) :
    (∃ name, (empty autoAssign first).HasHad steps name noObject) ↔
      first < noObject ∧ noObject < ((empty autoAssign first).run steps).next := by
  induction steps using List.reverseRecOn with
  | nil =>
    constructor
    · rintro ⟨name, earlier, before, known⟩
      rw [List.prefix_nil.mp before] at known
      cases known
    · rintro ⟨below, above⟩
      change noObject < first at above
      omega
  | append_singleton steps step ih =>
    have paired := (paired_empty autoAssign first).run steps
    have start := first_le_next autoAssign first steps
    have grows := paired.next_le_take step
    have bound := paired.exists_idOf?_noObject_take_iff step
    have held (known : ∃ name, ((empty autoAssign first).run steps).idOf? name = some noObject) :
        ∃ name, (empty autoAssign first).HasHad steps name noObject :=
      known.imp fun _ => hasHad_of_idOf?
    have now : (∃ name, (empty autoAssign first).HasHad (steps ++ [step]) name noObject) ↔
        (∃ name, (empty autoAssign first).HasHad steps name noObject) ∨
          ((empty autoAssign first).run steps).next ≤ noObject ∧
            noObject < (((empty autoAssign first).run steps).take step).2.next := by
      constructor
      · rintro ⟨name, had⟩
        rcases hasHad_concat.mp had with before | known
        · exact .inl ⟨name, before⟩
        · rw [run_concat] at known
          exact (bound.mp (.inr ⟨name, known⟩)).imp_left held
      · rintro (⟨name, had⟩ | passes)
        · exact ⟨name, had.mono (List.prefix_append steps [step])⟩
        · rcases bound.mpr (.inr passes) with known | ⟨name, known⟩
          · obtain ⟨name, had⟩ := held known
            exact ⟨name, had.mono (List.prefix_append steps [step])⟩
          · rw [← run_concat] at known
            exact ⟨name, hasHad_of_idOf? known⟩
    rw [now, ih, run_concat]
    omega

theorem exists_idOf?_eq_none (ids : Identifiers) : ∃ name, ids.idOf? name = none := by
  obtain ⟨name, absent⟩ := Infinite.exists_notMem_finset ids.oids.keys.toFinset
  exact ⟨name, Table.get?_eq_none_iff.mpr fun member => absent (List.mem_toFinset.mpr member)⟩

/-- Where names are given identifiers by themselves, looking up enough of them takes the counter as
far as one likes. -/
theorem exists_run_le_next (ids : Identifiers) (auto : ids.autoAssign = true) (far : Nat) :
    ∃ steps, (ids.run steps).autoAssign = true ∧ ids.next + far ≤ (ids.run steps).next := by
  induction far with
  | zero => exact ⟨[], auto, by rw [run]; omega⟩
  | succ far ih =>
    obtain ⟨steps, on, reached⟩ := ih
    obtain ⟨name, unknown⟩ := (ids.run steps).exists_idOf?_eq_none
    have gives := gives_lookup (assigns_eq_true_iff.mpr ⟨on, unknown⟩)
    refine ⟨steps ++ [.lookup name], ?_, ?_⟩
    · rw [run_concat, take]
      rcases (ids.run steps).lookup_cases name with ⟨-, same⟩ | ⟨-, -, same⟩ | ⟨-, -, -, after⟩
      · rw [same, on]
      · rw [same, on]
      · rw [after]
        exact on
    · have := gives.next_le
      rw [run_concat, take, gives.next]
      omega

/-- The identifier of no object is spared in all runs, by bindings and by what lookups give, exactly
if the counter starts above it. -/
theorem spares_noObject_iff {start : Identifiers}
    (accepted : Identifiers.start autoAssign first = .ok start) :
    (∀ steps name, (start.run steps).idOf? name ≠ some noObject ∧
      ((start.run steps).autoAssign = true →
        ((start.run steps).lookup name).1 ≠ noObject)) ↔ noObject < first := by
  obtain ⟨rfl, ne⟩ := eq_empty_of_start accepted
  constructor
  · intro spares
    by_contra above
    -- from below, the counter passes zero when enough names have been looked up
    obtain ⟨steps, -, reached⟩ := (empty true first).exists_run_le_next rfl
      (first.natAbs + 1)
    have passed : noObject < ((empty true first).run steps).next := by
      change first + ↑(first.natAbs + 1) ≤ _ at reached
      change 0 < _
      omega
    have switched : (empty autoAssign first).run (.setAuto true :: steps) =
        (empty true first).run steps := rfl
    rw [← switched] at passed
    have below : first < noObject := by omega
    obtain ⟨name, earlier, -, known⟩ := (exists_hasHad_noObject_iff ne).mpr ⟨below, passed⟩
    exact (spares earlier name).1 known
  · intro above steps name
    have never (later : List NamingStep) (other : Text) :
        ((empty autoAssign first).run later).idOf? other ≠ some noObject := by
      intro known
      have had := (exists_hasHad_noObject_iff ne).mp ⟨other, hasHad_of_idOf? known⟩
      omega
    refine ⟨never steps name, fun auto given => ?_⟩
    rcases ((empty autoAssign first).run steps).lookup_cases name with
      ⟨known, -⟩ | ⟨-, off, -⟩ | ⟨unknown, -, -, -⟩
    · exact never steps name (known.trans (congrArg some given))
    · cases auto.symm.trans off
    · have gives := gives_lookup (assigns_eq_true_iff.mpr ⟨auto, unknown⟩)
      have := gives.next_le
      have := first_le_next autoAssign first steps
      omega

/-- A counter that starts below the identifier of no object gives it to the second name. -/
theorem lookup_eq_noObject_ghost :
    start true (-1) = .ok (empty true (-1)) ∧
      (((empty true (-1)).run [.lookup (Text.lit "Player")]).lookup (Text.lit "Ghost")).1 =
        noObject ∧
      ¬ ∀ steps name, ((empty true (-1)).run steps).idOf? name ≠ some noObject ∧
        (((empty true (-1)).run steps).autoAssign = true →
          (((empty true (-1)).run steps).lookup name).1 ≠ noObject) := by
  have accepted : start true (-1) = .ok (empty true (-1)) := rfl
  refine ⟨accepted, by decide +kernel, fun spares => ?_⟩
  exact absurd ((spares_noObject_iff accepted).mp spares) (by decide)

end Runs

end Identifiers
end SceneFormula
