import SceneFormula.Proofs.Readings

set_option autoImplicit false

namespace SceneFormula

namespace Call

theorem bounds_of_front? {position : Nat} {text : Text} {cut : Call}
    (found : front? position text = .ok (some cut)) :
    3 ≤ cut.source.length ∧ cut.source.length ≤ text.length ∧
      ∀ argument ∈ cut.arguments, argument.length + 3 ≤ cut.source.length := by
  obtain ⟨name, blanks, inner, after, rfl, named, blank, balanced⟩ :=
    exists_parentheses_of_front? found
  have filled := List.length_pos_iff.mpr (Name.text_ne_nil_of_front? named)
  rw [front?_append position named blank balanced] at found
  cases lists : argumentsOf name inner with
  | error fault =>
    rw [lists] at found
    cases found
  | ok arguments =>
    rw [lists] at found
    cases found
    simp only [List.length_append, List.length_cons, List.length_nil]
    refine ⟨by omega, by omega, fun argument among => ?_⟩
    have inside := length_le_of_mem_argumentsOf lists among
    omega

end Call

namespace Text

/-- A call that is found at a position ends behind it, inside of the text, and its arguments are
shorter than the text by at least three characters. -/
theorem bounds_of_callAt {text : Text} {i next : Nat} {cut : Call}
    (found : callAt text i = .ok (some (cut, next))) :
    i < next ∧ next ≤ text.length ∧
      ∀ argument ∈ cut.arguments, argument.length + 3 ≤ text.length := by
  obtain ⟨called, past⟩ := front?_of_callAt found
  obtain ⟨filled, within, around⟩ := Call.bounds_of_front? called
  rw [List.length_drop] at within
  refine ⟨by omega, by omega, fun argument among => ?_⟩
  have := around argument among
  omega

end Text

/-- Whether the preparation of a text as an expression of a kind comes upon a call. -/
inductive Text.Meets (functions : Registry) : ValueKind → Text → Call → Prop
  | formula {text : Text} {cut : Call}
    (member : cut ∈ (Draft.ofText (isBuiltinCall functions) text).calls) :
    Meets functions .number text cut
  | term {text term : Text} {terms : List Text} {cut : Call}
    (parted : Term.parts text = .ok terms) (member : term ∈ terms)
    (called : Term.ofPart text term = .ok (.call cut)) : Meets functions .text text cut

/-- Whether a text is an argument of an argument, and so on, for a number of levels of calls that
the preparation of another text leads through. -/
inductive Text.Descends (functions : Registry) : Nat → Text → Text → Prop
  | here (text : Text) : Descends functions 0 text text
  | argument {depth : Nat} {kind : ValueKind} {text argument inner : Text} {cut : Call}
    (meets : text.Meets functions kind cut) (among : argument ∈ cut.arguments)
    (later : Descends functions depth argument inner) : Descends functions (depth + 1) text inner

namespace Text

variable {functions : Registry} {text inner : Text}

theorem Meets.exists_callAt {kind : ValueKind} {cut : Call}
    (meets : text.Meets functions kind cut) :
    ∃ part i next, part.length ≤ text.length ∧ callAt part i = .ok (some (cut, next)) := by
  cases meets with
  | formula member =>
    obtain ⟨i, found⟩ := Draft.exists_front?_drop_of_mem_scan member
    rw [Nat.zero_add] at found
    exact ⟨text, i, _, Nat.le_refl _, callAt_of_found found⟩
  | term parted member called =>
    exact ⟨_, 0, _, Term.length_le_of_mem_parts parted member,
      callAt_of_found (Term.front?_of_ofPart called)⟩

theorem Meets.length_add_three_le {kind : ValueKind} {cut : Call}
    (meets : text.Meets functions kind cut) {argument : Text} (among : argument ∈ cut.arguments) :
    argument.length + 3 ≤ text.length := by
  obtain ⟨part, i, next, shorter, found⟩ := meets.exists_callAt
  have := (bounds_of_callAt found).2.2 argument among
  omega

theorem Descends.length_add_le {depth : Nat} (descends : text.Descends functions depth inner) :
    inner.length + 3 * depth ≤ text.length := by
  induction descends with
  | here text => exact Nat.le_refl _
  | argument meets among later ih =>
    have := meets.length_add_three_le among
    omega

theorem not_descends_of_length_lt {depth : Nat} (shallow : text.length < 3 * depth) (inner : Text) :
    ¬ text.Descends functions depth inner := by
  intro descends
  have := descends.length_add_le
  omega

end Text
end SceneFormula
