import Mathlib.Data.Finset.Card
import Mathlib.Data.Finset.Image
import SceneFormula.Function.Registration

set_option autoImplicit false

namespace SceneFormula

namespace SceneFunction

theorem declare_eq_ok_iff {name returns : Text} {parameters : List Text} {isMember : Bool}
    {body : Body} {function : SceneFunction} :
    declare name returns parameters isMember body = .ok function ↔
      '.' ∉ name ∧ ∃ kind kinds, ValueKind.named? returns = some kind ∧
        parameters.mapM ParameterKind.named? = some kinds ∧
        function = ⟨name, kind, kinds, isMember, body⟩ := by
  unfold declare
  by_cases dotted : '.' ∈ name
  · simp [dotted]
  · cases ValueKind.named? returns with
    | none => simp [dotted]
    | some kind =>
      cases parameters.mapM ParameterKind.named? with
      | none => simp [dotted]
      | some kinds => simp [dotted, eq_comm]

/-- The functions of the library are as they would be declared. -/
theorem declare_declared (function : LibraryFunction) :
    declare function.name function.returns.word (function.parameters.map ParameterKind.word)
      function.isMember (.library function) = .ok function.declared := by
  cases function <;> rfl

/-- Whether a call by a name refers to the function where a value of a kind is asked for: without a
dot to a free function of the name, and with dots to one called on objects, by what comes after the
last of them. -/
structure AnswersTo (function : SceneFunction) (name : Text) (returns : ValueKind) : Prop where
  returns : function.returns = returns
  free : '.' ∉ name → function.isMember = false ∧ function.name = name
  member : '.' ∈ name → function.isMember = true ∧
    ∃ object, name = object ++ '.' :: function.name ∧ '.' ∉ function.name

end SceneFunction

/-- A change of the functions of a registry. -/
inductive RegistryChange where
  | registered (function : SceneFunction)
  | unregistered (key : FunctionKey)

namespace RegistryChange

def key : RegistryChange → FunctionKey
  | registered function => function.key
  | unregistered key => key

def function? : RegistryChange → Option SceneFunction
  | registered function => some function
  | unregistered _ => none

end RegistryChange

def RegistryStep.changes :
    RegistryStep → Except DeclarationFault RegistryAnswer → List RegistryChange
  | .register .., .ok (.function function) => [.registered function]
  | .unregister name returns isMember, .ok (.flag true) =>
    (ValueKind.named? returns).toList.map fun kind => .unregistered ⟨kind, isMember, name⟩
  | .registerLibrary, .ok _ => library.map .registered
  | _, _ => []

/-- Whether a function is left by changes: it has been registered, and no later change was about its
key. -/
def SceneFunction.Stands (function : SceneFunction) (changes : List RegistryChange) : Prop :=
  ∃ before after, changes = before ++ .registered function :: after ∧
    ∀ change ∈ after, change.key ≠ function.key

theorem SceneFunction.stands_concat_iff {function : SceneFunction} {changes : List RegistryChange}
    {last : RegistryChange} :
    function.Stands (changes ++ [last]) ↔
      last = .registered function ∨ last.key ≠ function.key ∧ function.Stands changes := by
  constructor
  · rintro ⟨before, after, whole, others⟩
    rcases List.eq_nil_or_concat' after with rfl | ⟨inner, final, rfl⟩
    · exact .inl (List.singleton_inj.mp (List.append_inj' whole rfl).2)
    · have split : changes ++ [last] = (before ++ .registered function :: inner) ++ [final] := by
        rw [whole, List.append_assoc, List.cons_append]
      obtain ⟨rfl, same⟩ := List.append_inj' split rfl
      cases same
      refine .inr ⟨others _ (by simp), before, inner, rfl, fun change member => ?_⟩
      exact others change (List.mem_append_left _ member)
  · rintro (rfl | ⟨other, before, after, rfl, others⟩)
    · exact ⟨changes, [], rfl, nofun⟩
    · refine ⟨before, after ++ [last], by simp, fun change member => ?_⟩
      rcases List.mem_append.mp member with inner | final
      · exact others change inner
      · rw [List.mem_singleton.mp final]
        exact other

namespace Registry

variable {registry : Registry}

def apply (registry : Registry) : RegistryChange → Registry
  | .registered function => registry.insert function
  | .unregistered key => ⟨registry.without key, registry.version + 1⟩

def history (registry : Registry) : List RegistryStep → List RegistryChange
  | [] => []
  | step :: rest =>
    step.changes (registry.take step).1 ++ (registry.take step).2.history rest

theorem take_eq (registry : Registry) (step : RegistryStep) :
    (registry.take step).2 = (step.changes (registry.take step).1).foldl apply registry := by
  cases step with
  | register name returns parameters isMember body =>
    cases declared : SceneFunction.declare name returns parameters isMember body <;>
      simp [take, declared, RegistryStep.changes, apply]
  | unregister name returns isMember =>
    cases known : ValueKind.named? returns with
    | none => simp [take, known, RegistryStep.changes]
    | some kind =>
      cases erased : registry.erase? ⟨kind, isMember, name⟩ with
      | none => simp [take, known, erased, RegistryStep.changes]
      | some fewer =>
        have same : fewer = registry.apply (.unregistered ⟨kind, isMember, name⟩) := by
          unfold erase? at erased
          split at erased
          · exact (Option.some.inj erased).symm
          · cases erased
        simp [take, known, erased, RegistryStep.changes, same]
  | registerLibrary => simp [take, RegistryStep.changes, insertLibrary, List.foldl_map, apply]
  | resolve name returns =>
    cases known : ValueKind.named? returns <;> simp [take, known, RegistryStep.changes]

theorem run_eq (registry : Registry) (steps : List RegistryStep) :
    registry.run steps = (registry.history steps).foldl apply registry := by
  induction steps generalizing registry with
  | nil => rfl
  | cons step rest ih => rw [run, history, List.foldl_append, ← take_eq, ih]

theorem run_append (registry : Registry) (earlier later : List RegistryStep) :
    registry.run (earlier ++ later) = (registry.run earlier).run later := by
  induction earlier generalizing registry with
  | nil => rfl
  | cons step rest ih => exact ih _

theorem not_dotted_of_mem_history {steps : List RegistryStep} {function : SceneFunction}
    (member : .registered function ∈ registry.history steps) : '.' ∉ function.name := by
  induction steps generalizing registry with
  | nil => cases member
  | cons step rest ih =>
    rcases List.mem_append.mp member with now | later
    · cases step with
      | register name returns parameters isMember body =>
        cases declared : SceneFunction.declare name returns parameters isMember body with
        | error fault => simp [take, declared, RegistryStep.changes] at now
        | ok other =>
          obtain ⟨undotted, _, _, _, _, rfl⟩ := SceneFunction.declare_eq_ok_iff.mp declared
          simp only [take, declared, RegistryStep.changes, List.mem_singleton,
            RegistryChange.registered.injEq] at now
          exact now ▸ undotted
      | unregister name returns isMember =>
        generalize (registry.take (.unregister name returns isMember)).1 = answer at now
        simp only [RegistryStep.changes] at now
        split at now <;> simp_all
      | registerLibrary =>
        obtain ⟨_, among, same⟩ := List.mem_map.mp now
        cases same
        obtain ⟨own, _, rfl⟩ := List.mem_map.mp among
        exact (SceneFunction.declare_eq_ok_iff.mp (SceneFunction.declare_declared own)).1
      | resolve name returns => simp [RegistryStep.changes] at now
    · exact ih later

section Changes

variable {changes : List RegistryChange}

@[simp] theorem version_apply (registry : Registry) (change : RegistryChange) :
    (registry.apply change).version = registry.version + 1 := by
  cases change <;> rfl

theorem get?_apply (registry : Registry) (change : RegistryChange) (key : FunctionKey) :
    (registry.apply change).get? key =
      if change.key = key then change.function? else registry.get? key := by
  cases change with
  | registered function =>
    by_cases same : function.key = key
    · subst same
      simp [apply, RegistryChange.key, RegistryChange.function?]
    · rw [apply, get?_insert_of_ne _ _ (Ne.symm same), RegistryChange.key, if_neg same]
  | unregistered other =>
    by_cases same : other = key
    · subst same
      simpa [apply, RegistryChange.key, RegistryChange.function?, get?] using
        find?_without_self registry other
    · rw [RegistryChange.key, if_neg same]
      exact find?_without_of_ne registry (Ne.symm same)

theorem version_foldl_apply (registry : Registry) (changes : List RegistryChange) :
    (changes.foldl apply registry).version = registry.version + changes.length := by
  induction changes generalizing registry with
  | nil => rfl
  | cons change rest ih =>
    rw [List.foldl_cons, ih, version_apply, List.length_cons]
    omega

/-- From an empty registry, changes leave under a key the function of that key that stands. -/
theorem get?_foldl_apply_empty {key : FunctionKey} {function : SceneFunction} :
    (changes.foldl apply empty).get? key = some function ↔
      function.key = key ∧ function.Stands changes := by
  induction changes using List.reverseRecOn with
  | nil =>
    refine iff_of_false nofun ?_
    rintro ⟨-, before, after, whole, -⟩
    simp at whole
  | append_singleton changes last ih =>
    rw [List.foldl_append, List.foldl_cons, List.foldl_nil, get?_apply,
      SceneFunction.stands_concat_iff]
    split
    · rename_i here
      subst here
      cases last with
      | registered other =>
        simp only [RegistryChange.key, RegistryChange.function?, RegistryChange.registered.injEq,
          Option.some.injEq]
        constructor
        · rintro rfl
          exact ⟨rfl, .inl rfl⟩
        · rintro ⟨same, rfl | ⟨other, -⟩⟩
          · rfl
          · exact absurd same.symm other
      | unregistered key =>
        simp only [RegistryChange.key, RegistryChange.function?, reduceCtorEq, false_iff,
          false_or]
        rintro ⟨same, other, -⟩
        exact other same.symm
    · rename_i other
      rw [ih]
      refine and_congr_right fun same => ?_
      subst same
      constructor
      · exact fun stands => .inr ⟨other, stands⟩
      · rintro (rfl | ⟨-, stands⟩)
        · exact absurd rfl other
        · exact stands

theorem nodup_foldl_apply_empty (changes : List RegistryChange) :
    ((changes.foldl apply empty).functions.map SceneFunction.key).Nodup := by
  induction changes using List.reverseRecOn with
  | nil => exact .nil
  | append_singleton changes last ih =>
    rw [List.foldl_append, List.foldl_cons, List.foldl_nil]
    generalize changes.foldl apply empty = registry at ih
    have fewer (key : FunctionKey) : ((registry.without key).map SceneFunction.key).Nodup :=
      ih.sublist (List.filter_sublist.map _)
    cases last with
    | registered function =>
      rw [apply, insert, List.map_append, List.nodup_append]
      refine ⟨fewer _, by simp, fun key member other last same => ?_⟩
      obtain ⟨held, among, rfl⟩ := List.mem_map.mp member
      rw [List.map_singleton, List.mem_singleton] at last
      exact of_decide_eq_true (List.mem_filter.mp among).2 (same.trans last)
    | unregistered key => exact fewer key

end Changes

theorem afterLastDot_append {object name : Text} (undotted : '.' ∉ name) :
    afterLastDot (object ++ '.' :: name) = name := by
  have plain : ∀ c ∈ name.reverse, decide (c ≠ '.') = true := by
    intro c member
    refine decide_eq_true fun same => undotted ?_
    exact same ▸ List.mem_reverse.mp member
  rw [afterLastDot, List.reverse_append, List.reverse_cons, List.append_assoc,
    List.takeWhile_append_of_pos plain]
  simp

/-- A call by a name looks for the functions that answer to it, as long as their names have no
dot. -/
theorem key_eq_keyOf_iff {function : SceneFunction} (undotted : '.' ∉ function.name) {name : Text}
    {returns : ValueKind} :
    function.key = keyOf name returns ↔ function.AnswersTo name returns := by
  unfold keyOf SceneFunction.key
  by_cases dotted : '.' ∈ name
  · obtain ⟨last, object, reversed, clean⟩ :=
      List.eq_append_cons_of_mem (List.mem_reverse.mpr dotted)
    have whole : name = object.reverse ++ '.' :: last.reverse := by
      rw [← List.reverse_reverse name, reversed]
      simp
    have after : afterLastDot name = last.reverse := by
      rw [whole, afterLastDot_append (by simpa using clean)]
    rw [if_pos dotted, after, FunctionKey.mk.injEq]
    constructor
    · rintro ⟨kind, own, same⟩
      exact ⟨kind, fun free => absurd dotted free, fun _ => ⟨own, _, same ▸ whole, undotted⟩⟩
    · rintro ⟨kind, -, member⟩
      obtain ⟨own, object, same, -⟩ := member dotted
      refine ⟨kind, own, ?_⟩
      rw [← after, same, afterLastDot_append undotted]
  · rw [if_neg dotted, FunctionKey.mk.injEq]
    constructor
    · rintro ⟨kind, own, same⟩
      exact ⟨kind, fun _ => ⟨own, same⟩, fun member => absurd member dotted⟩
    · rintro ⟨kind, free, -⟩
      exact ⟨kind, free dotted⟩

/-- A step that gives a fault, or gives that there is nothing to take out, makes no change. -/
theorem take_of_failed {step : RegistryStep}
    (failed : (∃ fault, (registry.take step).1 = .error fault) ∨
      (registry.take step).1 = .ok (.flag false)) :
    (registry.take step).2 = registry := by
  have none : step.changes (registry.take step).1 = [] := by
    cases step with
    | registerLibrary => rcases failed with ⟨fault, same⟩ | same <;> cases same
    | _ => rcases failed with ⟨fault, same⟩ | same <;> rw [same] <;> rfl
  rw [take_eq, none]
  rfl

/-- Where the version is the same after some more steps, so is the registry. -/
theorem run_eq_of_version {earlier later : List RegistryStep}
    (same : (registry.run (earlier ++ later)).version = (registry.run earlier).version) :
    registry.run (earlier ++ later) = registry.run earlier := by
  rw [run_append, run_eq (registry.run earlier)] at same ⊢
  rw [version_foldl_apply] at same
  have none : (registry.run earlier).history later = [] := List.eq_nil_of_length_eq_zero (by omega)
  rw [none]
  rfl

/-- Whatever steps are taken, failing ones among them: a call by a name refers to the function that
answers to it and was registered last, unless it has been unregistered since; there are as many
functions as keys with such a function; the version counts the changes made, so that the registry is
the same at two moments with equal versions; and a step that fails leaves everything as it was. -/
theorem resolve_of_run (steps : List RegistryStep) :
    let registry := empty.run steps
    let history := empty.history steps
    (∀ name returns function, registry.resolve name returns = some function ↔
      function.AnswersTo name returns ∧ function.Stands history) ∧
    (∃ live : Finset FunctionKey, registry.size = live.card ∧
      ∀ key, key ∈ live ↔
        ∃ function : SceneFunction, function.key = key ∧ function.Stands history) ∧
    registry.version = history.length ∧
    (∀ i j, (empty.run (steps.take i)).version = (empty.run (steps.take j)).version →
      empty.run (steps.take i) = empty.run (steps.take j)) ∧
    ∀ step, (∃ fault, (registry.take step).1 = .error fault) ∨
      (registry.take step).1 = .ok (.flag false) → (registry.take step).2 = registry := by
  intro registry history
  -- a registry is the replay of its history, so the version counts what is replayed
  have whole : registry = history.foldl apply empty := run_eq empty steps
  have held {key : FunctionKey} {function : SceneFunction} :
      registry.get? key = some function ↔ function.key = key ∧ function.Stands history := by
    rw [whole, get?_foldl_apply_empty]
  refine ⟨fun name returns function => ?_, ?_, ?_, fun i j => ?_, fun step => take_of_failed⟩
  · rw [resolve, held]
    refine and_congr_left fun stands => ?_
    obtain ⟨before, after, split, -⟩ := stands
    have member : .registered function ∈ history := by simp [split]
    exact key_eq_keyOf_iff (not_dotted_of_mem_history member)
  · have nodup : (registry.functions.map SceneFunction.key).Nodup := by
      rw [whole]
      exact nodup_foldl_apply_empty history
    refine ⟨(registry.functions.map SceneFunction.key).toFinset, ?_, fun key => ?_⟩
    · rw [List.toFinset_card_of_nodup nodup, List.length_map, size]
    · simp only [List.mem_toFinset, ← held, ← Option.isSome_iff_exists, get?,
        List.find?_isSome, List.mem_map, decide_eq_true_eq]
  · rw [whole, version_foldl_apply]
    exact Nat.zero_add _
  · have ordered {i j : Nat} (le : i ≤ j)
        (same : (empty.run (steps.take j)).version = (empty.run (steps.take i)).version) :
        empty.run (steps.take j) = empty.run (steps.take i) := by
      have split : steps.take j = steps.take i ++ (steps.take j).drop i := by
        conv => lhs; rw [← List.take_append_drop i (steps.take j), List.take_take, min_eq_left le]
      rw [split] at same ⊢
      exact run_eq_of_version same
    intro same
    rcases Nat.le_total i j with le | le
    · exact (ordered le same.symm).symm
    · exact ordered le same

/-- A function that replaces another one of its key, and one with a dot in its name that cannot be
registered. -/
theorem resolve_of_run_replaced :
    let register (name : String) (registration : Nat) : RegistryStep :=
      .register (Text.lit name) (Text.lit "number") [] true (.custom registration .objectId)
    let steps := [register "X" 0, register "X" 1, register "Player.X" 2]
    let registry := empty.run steps
    let last : SceneFunction := ⟨Text.lit "X", .number, [], true, .custom 1 .objectId⟩
    registry.resolve (Text.lit "Enemy.X") .number = some last ∧ registry.version = 2 ∧
      empty.run (steps.take 2) = registry ∧
      (registry.take (register "Player.X" 3)).2 = registry := by
  intro register steps registry last
  obtain ⟨resolved, -, version, moments, failing⟩ := resolve_of_run steps
  have answers : last.AnswersTo (Text.lit "Enemy.X") .number :=
    ⟨rfl, fun free => absurd (by decide) free,
      fun _ => ⟨rfl, Text.lit "Enemy", rfl, by decide⟩⟩
  have stands : last.Stands (empty.history steps) :=
    ⟨[.registered { last with body := .custom 0 .objectId }], [], rfl, nofun⟩
  exact ⟨(resolved _ _ _).mpr ⟨answers, stands⟩, version.trans rfl, moments 2 3 rfl,
    failing _ (.inl ⟨_, rfl⟩)⟩

end Registry
end SceneFormula
