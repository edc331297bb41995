import Mathlib.Order.Bounds.Defs
import SceneFormula.Proofs.Freshness

set_option autoImplicit false

namespace SceneFormula

namespace Identifiers

variable {ids after found : Identifiers} {name : Text} {oid : Int} {turns : Nat}

/-- Whether a search passes over so many identifiers that are taken, one in each turn, and stops
with the counter at one that is free. -/
inductive Skips : Identifiers → Nat → Identifiers → Prop
  | stop {ids : Identifiers} (free : ids.nameOf? ids.next = none) : Skips ids 0 ids
  | pass {ids found : Identifiers} {turns : Nat} (taken : ids.nameOf? ids.next ≠ none)
    (later : Skips { ids with next := ids.next + 1 } turns found) : Skips ids (turns + 1) found

theorem Skips.taken (skips : Skips ids turns found) :
    ∀ k < turns, ids.nameOf? (ids.next + k) ≠ none := by
  induction skips with
  | stop free => exact fun k none => absurd none (Nat.not_lt_zero k)
  | pass taken later ih =>
    intro k below
    cases k with
    | zero => simpa using taken
    | succ k =>
      have moved := ih k (by omega)
      have same (n : Int) : n + 1 + k = n + (k + 1 : Nat) := by omega
      rwa [same] at moved

theorem Paired.length_keys (paired : ids.Paired) : ids.names.keys.length = ids.size := by
  have counted : {oid | ids.nameOf? oid ≠ none}.ncard = ids.names.size :=
    ids.names.ncard_setOf_get?_ne_none
  rw [paired.size_eq, counted]
  exact List.length_map _

theorem Skips.turns_le (paired : ids.Paired) (skips : Skips ids turns found) :
    turns ≤ ids.size := by
  let passed : List Int := (List.range turns).map fun (k : Nat) => ids.next + k
  have apart : passed.Nodup := List.nodup_range.map fun k l same => by simpa using same
  have known : passed ⊆ ids.names.keys := by
    intro n inside
    obtain ⟨k, below, rfl⟩ := List.mem_map.mp inside
    by_contra absent
    exact skips.taken k (List.mem_range.mp below) (Table.get?_eq_none_iff.mpr absent)
  have short := (apart.subperm known).length_le
  rwa [List.length_map, List.length_range, paired.length_keys] at short

theorem exists_skips (ids : Identifiers) :
    ∃ turns, Skips ids turns { ids with next := leastFree ids.names.keys ids.next } := by
  generalize known : ids.names.keys = taken
  generalize from_ : ids.next = counter
  fun_induction leastFree taken counter generalizing ids with
  | case1 counter member ih =>
    have here : ids.nameOf? ids.next ≠ none := fun free =>
      Table.get?_eq_none_iff.mp free (by rwa [from_, known])
    obtain ⟨turns, skips⟩ := ih { ids with next := ids.next + 1 } known (by rw [from_])
    exact ⟨turns + 1, .pass here skips⟩
  | case2 counter absent =>
    have free : ids.nameOf? ids.next = none :=
      Table.get?_eq_none_iff.mpr (by rwa [from_, known])
    subst from_
    exact ⟨0, .stop free⟩

theorem Paired.isLeast_lookup (paired : ids.Paired) (assigns : ids.assigns name = true) :
    IsLeast {n | ids.next ≤ n ∧ ∀ other, ids.idOf? other ≠ some n} (ids.lookup name).1 := by
  have gives := gives_lookup assigns
  have free : ids.nameOf? (ids.lookup name).1 = none := by
    rw [gives.least]
    exact ids.nameOf?_leastFree
  refine ⟨⟨gives.next_le, fun other own => ?_⟩, ?_⟩
  · rw [(paired other _).mpr own] at free
    cases free
  · rintro n ⟨from_, unowned⟩
    by_contra below
    have passed : n < leastFree ids.names.keys ids.next := by
      rw [← gives.least]
      omega
    have taken : ids.nameOf? n ≠ none := fun free =>
      Table.get?_eq_none_iff.mp free (mem_of_lt_leastFree from_ passed)
    obtain ⟨owner, named⟩ := Option.ne_none_iff_exists'.mp taken
    exact unowned owner ((paired owner n).mp named)

/-- The identifier that a step gives to a name by itself. -/
def given? (ids : Identifiers) : NamingStep → Option Int
  | .lookup name => if ids.assigns name then some (ids.lookup name).1 else none
  | _ => none

/-- The identifiers that several steps give to names by themselves, in order. -/
def given (ids : Identifiers) : List NamingStep → List Int
  | [] => []
  | step :: rest => (ids.given? step).toList ++ (ids.take step).2.given rest

theorem bounds_of_given? {step : NamingStep} (gives : ids.given? step = some oid) :
    ids.next ≤ oid ∧ oid < (ids.take step).2.next := by
  cases step with
  | lookup name =>
    rw [given?] at gives
    split at gives
    · rename_i assigns
      cases gives
      have given := gives_lookup assigns
      refine ⟨given.next_le, ?_⟩
      rw [take, given.next]
      exact Int.lt_succ _
    · cases gives
  | nameOf | assign | contains | size | setAuto => cases gives

theorem Paired.pairwise_given (paired : ids.Paired) (steps : List NamingStep) :
    (ids.given steps).Pairwise (· < ·) ∧ ∀ oid ∈ ids.given steps, ids.next ≤ oid := by
  induction steps generalizing ids with
  | nil => exact ⟨.nil, fun _ none => nomatch none⟩
  | cons step rest ih =>
    obtain ⟨grows, above⟩ := ih (paired.take step)
    have goes := paired.next_le_take step
    have here (oid : Int) (inside : oid ∈ (ids.given? step).toList) :
        ids.next ≤ oid ∧ oid < (ids.take step).2.next :=
      bounds_of_given? (Option.mem_toList.mp inside)
    rw [given]
    refine ⟨List.pairwise_append.mpr ⟨?_, grows, fun oid inside later behind => ?_⟩, ?_⟩
    · cases ids.given? step with
      | none => exact .nil
      | some oid => exact List.pairwise_singleton _ oid
    · have := (here oid inside).2
      have := above later behind
      omega
    · intro oid inside
      rcases List.mem_append.mp inside with now | later
      · exact (here oid now).1
      · have := above oid later
        omega

/-- Whether the bindings of names are as they were before, except for those of certain names. -/
structure SameBut (names : Text → Prop) (before after : Identifiers) : Prop where
  idOf? : ∀ other, ¬ names other → after.idOf? other = before.idOf? other
  nameOf? : ∀ oid other, ¬ names other →
    (after.nameOf? oid = some other ↔ before.nameOf? oid = some other)

/-- Where names and identifiers are in pairs, it is enough that the identifiers of names stay. -/
theorem Paired.sameBut {names : Text → Prop} (paired : ids.Paired) (paired' : after.Paired)
    (same : ∀ other, ¬ names other → after.idOf? other = ids.idOf? other) :
    SameBut names ids after :=
  ⟨same, fun oid other apart => by rw [paired', paired, same other apart]⟩

theorem Paired.sameBut_lookup (paired : ids.Paired) (name : Text) :
    SameBut (· = name) ids (ids.lookup name).2 := by
  refine paired.sameBut (paired.lookup name) fun other apart => ?_
  by_cases assigns : ids.assigns name = true
  · rw [(gives_lookup assigns).idOf?, if_neg apart]
  · rw [lookup_of_not_assigns assigns]

theorem Paired.sameBut_assign (paired : ids.Paired) (name : Text) (oid : Int) :
    SameBut (fun other => other = name ∨ ids.nameOf? oid = some other) ids
      (ids.assign name oid).2 := by
  refine paired.sameBut (paired.assign name oid) fun other apart => ?_
  obtain ⟨ne, unowned⟩ := not_or.mp apart
  by_cases reserved : oid = noObject
  · rw [Identifiers.assign, if_pos reserved]
  · obtain ⟨after, done, rebinds⟩ := paired.exists_assign_eq name reserved
    have apart : ids.idOf? other ≠ some oid := fun own => unowned ((paired other oid).mpr own)
    rw [done, rebinds.idOf?, if_neg ne, if_neg apart]

/-- Whatever steps are taken, a name that is given an identifier by itself is given the least one
from the counter on that no name has, and the search for it ends. What is given in a run grows, and
neither a lookup nor a binding by choice changes what other names have, but for the name that had
the identifier before. -/
theorem gives_least_of_run {autoAssign : Bool} {first : Int} {start : Identifiers}
    (accepted : Identifiers.start autoAssign first = .ok start) (steps : List NamingStep) :
    let ids := start.run steps
    (∀ name, ids.autoAssign = true → ids.idOf? name = none →
      IsLeast {n | ids.next ≤ n ∧ ∀ other, ids.idOf? other ≠ some n} (ids.lookup name).1 ∧
      ∃ turns ≤ ids.size, ∃ found, Skips ids turns found ∧ found.next = (ids.lookup name).1 ∧
        (ids.lookup name).2 = { found with next := found.next + 1 }.bind name found.next) ∧
    (start.given steps).Pairwise (· < ·) ∧
    (∀ name, SameBut (· = name) ids (ids.lookup name).2) ∧
    (∀ name oid, ids.idOf? name = some oid → ids.lookup name = (oid, ids)) ∧
    ∀ name oid, SameBut (fun other => other = name ∨ ids.nameOf? oid = some other) ids
      (ids.assign name oid).2 := by
  obtain ⟨rfl, -⟩ := eq_empty_of_start accepted
  have origin := paired_empty autoAssign first
  refine ⟨fun name auto unknown => ?_, (origin.pairwise_given steps).1, ?_, ?_, ?_⟩
  · have paired := origin.run steps
    generalize (empty autoAssign first).run steps = ids at paired auto unknown ⊢
    refine ⟨paired.isLeast_lookup (assigns_eq_true_iff.mpr ⟨auto, unknown⟩), ?_⟩
    obtain ⟨turns, skips⟩ := ids.exists_skips
    refine ⟨turns, skips.turns_le paired, _, skips, ?_⟩
    rcases ids.lookup_cases name with ⟨known, -⟩ | ⟨-, off, -⟩ | ⟨-, -, least, after⟩
    · cases unknown.symm.trans known
    · cases auto.symm.trans off
    · refine ⟨least.symm, ?_⟩
      rw [after, least]
  · exact (origin.run steps).sameBut_lookup
  · intro name oid known
    rw [Identifiers.lookup, known]
  · exact (origin.run steps).sameBut_assign

/-- An imp is given the identifier behind the one that a boss was bound to by choice. A player has
given up the first one, which is not given again. -/
theorem gives_least_of_run_imp :
    let steps : List NamingStep := [.lookup (Text.lit "Player"), .assign (Text.lit "Player") 5,
      .assign (Text.lit "Boss") 2]
    let ids := (empty true 1).run steps
    start true 1 = .ok (empty true 1) ∧ ids.autoAssign = true ∧
      ids.idOf? (Text.lit "Imp") = none ∧ ids.nameOf? 1 = none ∧
      IsLeast {n | 2 ≤ n ∧ ∀ other, ids.idOf? other ≠ some n} 3 ∧
      (∃ turns ≤ 2, ∃ found, Skips ids turns found ∧ found.next = 3) ∧
      ((empty true 1).given (steps ++ [.lookup (Text.lit "Imp")])).Pairwise (· < ·) ∧
      (ids.assign (Text.lit "Imp") 2).2.idOf? (Text.lit "Player") = some 5 := by
  intro steps ids
  have accepted : start true 1 = .ok (empty true 1) := rfl
  have auto : ids.autoAssign = true := by decide +kernel
  have unknown : ids.idOf? (Text.lit "Imp") = none := by decide +kernel
  have imp : (ids.lookup (Text.lit "Imp")).1 = 3 := by decide +kernel
  have next : ids.next = 2 := by decide +kernel
  have size : ids.size = 2 := by decide +kernel
  obtain ⟨gives, -, -, -, assigned⟩ := gives_least_of_run accepted steps
  obtain ⟨-, grows, -⟩ := gives_least_of_run accepted (steps ++ [.lookup (Text.lit "Imp")])
  obtain ⟨least, turns, short, found, skips, there, -⟩ := gives (Text.lit "Imp") auto unknown
  have kept := (assigned (Text.lit "Imp") 2).idOf? (Text.lit "Player") (by decide +kernel)
  change turns ≤ ids.size at short
  change IsLeast {n | ids.next ≤ n ∧ _} (ids.lookup _).1 at least
  change found.next = (ids.lookup _).1 at there
  rw [imp, next] at least
  rw [size] at short
  rw [imp] at there
  refine ⟨accepted, auto, unknown, by decide +kernel, least, ⟨turns, short, found, skips, there⟩,
    grows, kept.trans (by decide +kernel)⟩

end Identifiers
end SceneFormula
