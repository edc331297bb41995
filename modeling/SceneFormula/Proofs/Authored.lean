import SceneFormula.Proofs.Concatenation
import SceneFormula.Proofs.SlotOrder

set_option autoImplicit false

namespace SceneFormula

/-- Whether texts stand in a text one behind the other. -/
inductive Text.Carries : Text → List Text → Prop
  | nil (text : Text) : Carries text []
  | cons (gap : Text) {source rest : Text} {sources : List Text} (later : Carries rest sources) :
    Carries (gap ++ (source ++ rest)) (source :: sources)

theorem Text.Carries.behind {text : Text} {sources : List Text} (gap : Text)
    (carries : text.Carries sources) : Carries (gap ++ text) sources := by
  cases carries with
  | nil => exact .nil _
  | cons first later =>
    rw [← List.append_assoc]
    exact .cons _ later

theorem Draft.carries_parts (parts : List Part) :
    Text.Carries (parts.flatMap Part.text) ((parts.filterMap Part.call?).map Call.source) := by
  induction parts with
  | nil => exact .nil []
  | cons part rest ih =>
    cases part with
    | verbatim text => exact ih.behind text
    | call cut => exact .cons [] ih

theorem Text.exists_intercalate_cons (raw : Text) (more : List Text) :
    ∃ gap, List.intercalate ['+'] (raw :: more) = raw ++ (gap ++ List.intercalate ['+'] more) := by
  cases more with
  | nil => exact ⟨[], by simp [List.intercalate]⟩
  | cons next rest => exact ⟨['+'], by simp [List.intercalate]⟩

namespace Term

/-- The call of a term as it is written. -/
def source? : Term → Option Text
  | literal _ => none
  | call cut => some cut.source

theorem Concatenated.carries {terms : List Term} {text : Text}
    (concatenated : Concatenated terms text) : text.Carries (terms.filterMap source?) := by
  obtain ⟨raws, -, rfl, each⟩ := concatenated
  induction each with
  | nil => exact .nil _
  | @cons raw term more terms own later ih =>
    obtain ⟨gap, whole⟩ := Text.exists_intercalate_cons raw more
    obtain ⟨part, ⟨front, back, -, -, rfl⟩, written⟩ := own
    rw [whole]
    cases written with
    | literal stands => exact (ih.behind gap).behind _
    | call written =>
      rw [List.append_assoc, List.append_assoc]
      exact .cons front ((ih.behind gap).behind back)

end Term

namespace Plan

variable {functions : Registry} {engine : FormulaEngine} {text : Text} {plan : Plan}

theorem map_source_of_renders {prepared : ValueKind → Text → Plan → Prop} {terms : List Term}
    {segments : List Segment}
    (renders : List.Forall₂ (Segment.Renders functions prepared) terms segments) :
    (segments.filterMap Segment.call?).map Instruction.source = terms.filterMap Term.source? := by
  induction renders with
  | nil => rfl
  | @cons term segment terms segments own later ih =>
    cases term with
    | literal content =>
      cases own
      exact ih
    | call cut =>
      obtain ⟨instruction, rfl, binds⟩ := own
      exact congrArg₂ List.cons binds.source ih

/-- The calls of a plan stand in its text in order. -/
theorem carries_of_prepare {kind : ValueKind}
    (success : (prepare functions engine kind text).result = .ok plan) :
    text.Carries (plan.calls.map Instruction.source) := by
  cases kind with
  | number =>
    obtain ⟨own, compiled, rfl, faultless, bound, -⟩ := prepare_number_eq_ok_iff.mp success
    have carries := Draft.carries_parts (Draft.ofText (isBuiltinCall functions) text).parts
    rw [Draft.ofText, Draft.flatMap_text_scan faultless] at carries
    rw [calls, Instruction.map_source_of_binds bound]
    exact carries
  | text =>
    obtain ⟨terms, segments, concatenated, rfl, renders⟩ :=
      prepare_text_eq_ok_iff_concatenated.mp success
    rw [calls, map_source_of_renders renders]
    exact concatenated.carries

end Plan
end SceneFormula
