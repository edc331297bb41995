import Mathlib.Data.List.Basic
import SceneFormula.Formula.Standard

set_option autoImplicit false

namespace SceneFormula

theorem SortKey.mem_of_mem_sortOn {α : Type} {keyOf : α → SortKey} {xs : List α} {x : α}
    (member : x ∈ sortOn keyOf xs) : x ∈ xs := by
  obtain ⟨⟨_, key⟩, among, rfl⟩ := List.mem_map.mp member
  obtain ⟨y, inside, same⟩ := List.mem_map.mp (List.mem_mergeSort.mp among)
  cases same
  exact inside

namespace Formula

variable {slots : List Nat} {x y : Formula slots} {xs : List (Formula slots)}

theorem subset_of_differencePair? {terms : List (Formula slots)}
    (pair : differencePair? xs = some terms) : terms ⊆ xs := by
  unfold differencePair? at pair
  extract_lets isPlain at pair
  generalize parts : xs.filter isPlain ++ xs.filter (fun x => !isPlain x) = both at pair
  have inside : both ⊆ xs := by
    rw [← parts]
    exact List.append_subset.mpr ⟨List.filter_subset_self _, List.filter_subset_self _⟩
  split at pair
  · simp only [Option.ite_none_right_eq_some, Option.some.injEq] at pair
    exact pair.2 ▸ inside
  · cases pair

theorem mem_of_mem_arrangeTerms (member : y ∈ arrangeTerms xs) : y ∈ xs := by
  rw [arrangeTerms] at member
  cases pair : differencePair? xs with
  | none =>
    rw [pair, Option.getD_none, arrangeBy] at member
    obtain ⟨_, among, rfl⟩ := List.mem_map.mp member
    obtain ⟨z, inside, rfl⟩ := List.mem_map.mp (List.mem_mergeSort.mp among)
    exact inside
  | some terms =>
    rw [pair, Option.getD_some] at member
    exact subset_of_differencePair? pair member

theorem mentioned_subset_mentionedIn (member : y ∈ xs) : y.mentioned ⊆ mentionedIn xs := by
  induction xs with
  | nil => cases member
  | cons x rest ih =>
    rw [mentionedIn]
    rcases List.mem_cons.mp member with rfl | later
    · exact List.subset_append_left _ _
    · exact List.Subset.trans (ih later) (List.subset_append_right _ _)

end Formula

namespace Code

variable {slots : List Nat} {values others : (i : Nat) → i ∈ slots → Scalar}

/-- Whether a computation has the same outcome for two choices of the slots' values. -/
def Alike (values others : (i : Nat) → i ∈ slots → Scalar) (code : Code slots) : Prop :=
  code.run values = code.run others

/-- Whether two choices of the slots' values are the same for the slots that a formula mentions. -/
def AgreeOn (values others : (i : Nat) → i ∈ slots → Scalar) (x : Formula slots) : Prop :=
  ∀ (index : Nat) (named : index ∈ slots), ⟨index, named⟩ ∈ x.mentioned →
    values index named = others index named

theorem AgreeOn.of_mem {x y : Formula slots} {xs : List (Formula slots)}
    (agree : AgreeOn values others x) (parts : x.mentioned = Formula.mentionedIn xs)
    (member : y ∈ xs) : AgreeOn values others y := fun index named mentioned =>
  agree index named (parts ▸ Formula.mentioned_subset_mentionedIn member mentioned)

section Alike

variable {code first second : Code slots} {codes : List (Code slots)}

theorem Alike.neg (alike : Alike values others code) : Alike values others (.neg code) := by
  rw [Alike, run, run, alike]

theorem Alike.root (alike : Alike values others code) : Alike values others (.root code) := by
  rw [Alike, run, run, alike]

theorem Alike.add (left : Alike values others first) (right : Alike values others second) :
    Alike values others (.add first second) := by
  rw [Alike, run, run, left, right]

theorem Alike.mul (left : Alike values others first) (right : Alike values others second) :
    Alike values others (.mul first second) := by
  rw [Alike, run, run, left, right]

theorem Alike.div (left : Alike values others first) (right : Alike values others second) :
    Alike values others (.div first second) := by
  rw [Alike, run, run, left, right]

theorem Alike.pow (left : Alike values others first) (right : Alike values others second) :
    Alike values others (.pow first second) := by
  rw [Alike, run, run, left, right]

theorem Alike.apply (f : Fn) (each : ∀ code ∈ codes, Alike values others code) :
    Alike values others (.apply f codes) := by
  have all : runAll values codes = runAll others codes := by
    induction codes with
    | nil => rw [runAll, runAll]
    | cons code rest ih =>
      rw [runAll, runAll, each code List.mem_cons_self,
        ih fun other member => each other (List.mem_cons_of_mem _ member)]
  rw [Alike, run, run, all]

theorem Alike.chain {join : Code slots → Code slots → Code slots}
    (joined : ∀ {first second}, Alike values others first → Alike values others second →
      Alike values others (join first second))
    (each : ∀ code ∈ codes, Alike values others code) : Alike values others (chain join codes) := by
  cases codes with
  | nil => rfl
  | cons code rest =>
    rw [Code.chain]
    have start := each code List.mem_cons_self
    have more : ∀ other ∈ rest, Alike values others other := fun other member =>
      each other (List.mem_cons_of_mem _ member)
    clear each
    induction rest generalizing code with
    | nil => exact start
    | cons next rest ih =>
      rw [List.foldl_cons]
      exact ih _ (joined start (more next List.mem_cons_self)) fun other member =>
        more other (List.mem_cons_of_mem _ member)

end Alike

theorem alike_ofNumber (n : Number) : Alike values others (ofNumber n) := by
  unfold ofNumber
  split
  · split <;> rfl
  · rfl
  · rfl
  · rfl
  · rfl

theorem Alike.powerOf {code : Code slots} (alike : Alike values others code) (exponent : Rat) :
    Alike values others (code.powerOf exponent) := by
  unfold Code.powerOf
  split
  · exact alike
  · split
    · exact alike.root
    · exact alike.pow (alike_ofNumber _)

theorem alike_of_mem_negated {codes : List (Code slots)}
    (each : ∀ code ∈ codes, Alike values others code) :
    ∀ code ∈ negated codes, Alike values others code := by
  intro code member
  cases codes with
  | nil =>
    rw [List.mem_singleton.mp member]
    rfl
  | cons first rest =>
    rcases List.mem_cons.mp member with rfl | later
    · exact (each first List.mem_cons_self).neg
    · exact each code (List.mem_cons_of_mem _ later)

theorem agreeOn_of_mem_unsigned {xs : List (Formula slots)}
    (each : ∀ x ∈ xs, AgreeOn values others x) :
    ∀ x ∈ (unsigned xs).2, AgreeOn values others x := by
  intro x member
  unfold unsigned at member
  split at member
  · rename_i n rest
    have later : ∀ y ∈ rest, AgreeOn values others y := fun y among =>
      each y (List.mem_cons_of_mem _ among)
    split at member
    · split at member
      · exact later x member
      · rcases List.mem_cons.mp member with rfl | among
        · exact fun _ _ mentioned => absurd mentioned List.not_mem_nil
        · exact later x among
    · exact each x member
  · exact each x member

theorem agreeOn_of_denominator? {x b : Formula slots} {exponent : Rat}
    (below : denominator? x = some (b, exponent)) (agree : AgreeOn values others x) :
    AgreeOn values others b := by
  unfold denominator? at below
  split at below
  · split at below
    · cases below
      exact fun index named mentioned => agree index named (List.mem_append_left _ mentioned)
    · cases below
  · cases below

/-- Only the slots that a formula mentions are looked at where it is computed. The induction is on
the fuel, as the parts of a formula are computed in an order of their own. -/
theorem alike_ofFormulaWith (fuel : Nat) {x : Formula slots} (agree : AgreeOn values others x) :
    Alike values others (ofFormulaWith fuel x) := by
  induction fuel generalizing x with
  | zero => rfl
  | succ fuel ih =>
    have map {xs : List (Formula slots)} (each : ∀ y ∈ xs, AgreeOn values others y) :
        ∀ code ∈ xs.map (ofFormulaWith fuel), Alike values others code := by
      intro code member
      obtain ⟨y, among, rfl⟩ := List.mem_map.mp member
      exact ih (each y among)
    cases x with
    | number n => exact alike_ofNumber n
    | constant c => cases c <;> rfl
    | slot i named =>
      rw [ofFormulaWith, Alike, run, run, agree i named (List.mem_singleton_self _)]
    | sum xs =>
      refine .chain .add (map fun y member => ?_)
      exact agree.of_mem rfl (Formula.mem_of_mem_arrangeTerms member)
    | apply f xs => exact .apply f (map fun y member => agree.of_mem rfl member)
    | power b e =>
      have base : AgreeOn values others b := fun index named mentioned =>
        agree index named (List.mem_append_left _ mentioned)
      have exponent : AgreeOn values others e := fun index named mentioned =>
        agree index named (List.mem_append_right _ mentioned)
      simp only [ofFormulaWith]
      split
      · split
        · exact .div rfl ((ih base).powerOf _)
        · exact (ih base).powerOf _
      · exact (ih base).pow (ih exponent)
    | product xs =>
      -- factors are sorted and lose a sign on the way, and none of them is new but for a number
      have ordered : ∀ y ∈ Formula.byKey (unsigned xs).2, AgreeOn values others y := fun y member =>
        agreeOn_of_mem_unsigned (fun x among => agree.of_mem rfl among) y
          (SortKey.mem_of_mem_sortOn member)
      have upper : ∀ y ∈ (Formula.byKey (unsigned xs).2).filter fun f => (denominator? f).isNone,
          AgreeOn values others y := fun y member => ordered y (List.mem_of_mem_filter member)
      have above := map upper
      have below : ∀ code ∈ ((Formula.byKey (unsigned xs).2).filterMap denominator?).map
          fun part => (ofFormulaWith fuel part.1).powerOf part.2, Alike values others code := by
        intro code member
        obtain ⟨⟨b, exponent⟩, among, rfl⟩ := List.mem_map.mp member
        obtain ⟨y, inside, known⟩ := List.mem_filterMap.mp among
        exact (ih (agreeOn_of_denominator? known (ordered y inside))).powerOf exponent
      simp only [ofFormulaWith]
      have numerator := Alike.chain .mul above
      have signed := Alike.chain .mul (alike_of_mem_negated above)
      split
      · split <;> assumption
      · refine .div ?_ (.chain .mul below)
        split <;> assumption

end Code

namespace Formula

variable {slots : List Nat} {x : Formula slots}

theorem mem_freeSlots_iff {index : Nat} :
    index ∈ x.freeSlots ↔ ∃ slot ∈ x.mentioned, slot.1 = index := by
  rw [freeSlots, List.mem_eraseDups, List.mem_map]

/-- A formula is computed from the values of its slots alone. -/
theorem compute_congr {values others : Text → Option Value}
    (agree : ∀ index ∈ x.freeSlots, values (slotName index) = others (slotName index)) :
    x.compute values = x.compute others := by
  have texts : (x.freeSlots.any fun index => (values (slotName index)).any Value.isText) =
      x.freeSlots.any fun index => (others (slotName index)).any Value.isText := by
    rw [Bool.eq_iff_iff, List.any_eq_true, List.any_eq_true]
    refine exists_congr fun index => and_congr_right fun free => ?_
    rw [agree index free]
  let numbers (given : Text → Option Value) (index : Nat) (_ : index ∈ slots) : Scalar :=
    .real (numberOf (given (slotName index)))
  have agreed : Code.AgreeOn (numbers values) (numbers others) x := fun index named mentioned =>
    congrArg (fun value? => Scalar.real (numberOf value?))
      (agree index (mem_freeSlots_iff.mpr ⟨⟨index, named⟩, mentioned, rfl⟩))
  have alike : (Code.ofFormula x).run (numbers values) = (Code.ofFormula x).run (numbers others) :=
    Code.alike_ofFormulaWith _ agreed
  simp only [numbers] at alike
  rw [compute, compute, texts, alike]

end Formula
end SceneFormula
