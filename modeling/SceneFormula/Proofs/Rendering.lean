import SceneFormula.Proofs.Depth
import SceneFormula.Proofs.Invocation

set_option autoImplicit false

namespace SceneFormula

namespace Piece

instance decidableNotUnclosed : (piece : Piece) → Decidable (∀ body, piece ≠ .unclosed body)
  | .outside _ | .literal _ => .isTrue (by simp)
  | .unclosed body => .isFalse fun closed => closed body rfl

instance decidableLevel (separators : List Char) :
    (outer : Int) → (pieces : List Piece) → Decidable (Level separators outer pieces)
  | _, [] => decidable_of_iff' _ level_nil_iff
  | outer, piece :: rest =>
    have := decidableLevel separators (outer + piece.turn) rest
    decidable_of_iff' _ level_cons_iff

end Piece

/-- Whether a text counts as the argument of a call: it is not empty, has no blanks at its ends, and
its pieces are level without a comma outside of all parentheses. -/
structure Text.CountsAsArgument (text : Text) : Prop where
  filled : text ≠ []
  trimmed : text.strip = text
  level : Piece.Level [','] 0 text.pieces

theorem Text.countsAsArgument_iff {text : Text} : text.CountsAsArgument ↔ text.IsArgument := by
  have ordinary : ∀ c ∈ [','], c ∉ ['(', ')'] := by decide
  have level := balanced_iff_level ordinary 0 text
  exact ⟨fun own => ⟨own.filled, own.trimmed, level.mpr own.level⟩,
    fun own => ⟨own.filled, own.trimmed, level.mp own.balanced⟩⟩

instance Text.decidableCountsAsArgument (text : Text) : Decidable text.CountsAsArgument :=
  decidable_of_iff (text ≠ [] ∧ text.strip = text ∧ Piece.Level [','] 0 text.pieces)
    ⟨fun own => ⟨own.1, own.2.1, own.2.2⟩, fun own => ⟨own.filled, own.trimmed, own.level⟩⟩

namespace Call

/-- The call of a name with arguments, written with blanks behind the name and commas between the
arguments. -/
def rendered (name : Name) (blanks : Text) (arguments : List Text) : Call :=
  ⟨name, arguments,
    name.text ++ (blanks ++ '(' :: (List.intercalate [','] arguments ++ [')']))⟩

/-- Whether a call is found where it starts in a text, verbatim up to the position just past its
closing parenthesis. -/
structure FoundBetween (cut : Call) (text : Text) (start stop : Nat) : Prop where
  found : front? start (text.drop start) = .ok (some cut)
  past : stop = start + cut.source.length
  verbatim : text.extract start stop = cut.source
  closing : text[stop - 1]? = some ')'

theorem foundBetween_of_front? {text : Text} {start : Nat} {cut : Call}
    (found : front? start (text.drop start) = .ok (some cut)) :
    cut.FoundBetween text start (start + cut.source.length) := by
  obtain ⟨written, rest, tail⟩ := front?_eq_ok_some_iff.mp found
  obtain ⟨front, closed⟩ := written.exists_concat
  refine ⟨found, rfl, ?_, ?_⟩
  · rw [List.extract_eq_take_drop, Nat.add_sub_cancel_left, ← tail, List.take_left]
  · have last : start + cut.source.length - 1 = start + front.length := by
      rw [closed, List.length_append, List.length_singleton]
      omega
    rw [last, ← List.getElem?_drop, ← tail, closed, List.append_assoc]
    simp

theorem written_rendered {name : Name} {blanks : Text} {arguments : List Text}
    (wellFormed : name.WellFormed) (blank : blanks.isAllBlank = true)
    (each : ∀ argument ∈ arguments, argument.CountsAsArgument) :
    (rendered name blanks arguments).Written := by
  refine ⟨wellFormed, blanks, List.intercalate [','] arguments, blank, ?_, rfl⟩
  by_cases empty : arguments = []
  · subst empty
    exact .none rfl
  · refine .some empty (List.forall₂_same.mpr fun argument member => ⟨?_, [], [], rfl, rfl, ?_⟩)
    · exact Text.countsAsArgument_iff.mp (each argument member)
    · simp

theorem foundBetween_rendered {name : Name} {blanks : Text} {arguments : List Text}
    (wellFormed : name.WellFormed) (blank : blanks.isAllBlank = true)
    (each : ∀ argument ∈ arguments, argument.CountsAsArgument) (front back : Text) :
    let cut := rendered name blanks arguments
    cut.FoundBetween (front ++ (cut.source ++ back)) front.length
      (front ++ cut.source).length := by
  intro cut
  rw [List.length_append]
  refine foundBetween_of_front? ?_
  rw [List.drop_left]
  exact front?_eq_ok_some_iff.mpr
    ⟨written_rendered wellFormed blank each, List.prefix_append _ _⟩

theorem Lists.isArgument {arguments : List Text} {inner : Text} (lists : Lists arguments inner) :
    ∀ argument ∈ arguments, argument.IsArgument := by
  intro argument member
  cases lists with
  | none => cases member
  | some _ each =>
    obtain ⟨raw, -, isArgument, -⟩ := exists_of_forall₂ each.flip member
    exact isArgument

/-- What is written of a call is read as that call wherever it stands, and every call that is read
is written of a name and arguments that count as such: it is read again from what is written of
these. -/
theorem front?_rendered :
    (∀ (name : Name) (blanks : Text) (arguments : List Text) (front back : Text),
      name.WellFormed → blanks.isAllBlank = true →
      (∀ argument ∈ arguments, argument.CountsAsArgument) →
      let cut := rendered name blanks arguments
      cut.FoundBetween (front ++ (cut.source ++ back)) front.length
        (front ++ cut.source).length) ∧
    (∀ (text : Text) (start : Nat) (cut : Call),
      front? start (text.drop start) = .ok (some cut) →
      cut.FoundBetween text start (start + cut.source.length) ∧ cut.name.WellFormed ∧
        (∀ argument ∈ cut.arguments, argument.CountsAsArgument) ∧
        ∀ blanks front back : Text, blanks.isAllBlank = true →
          let again := rendered cut.name blanks cut.arguments
          again.FoundBetween (front ++ (again.source ++ back)) front.length
            (front ++ again.source).length) := by
  refine ⟨fun name blanks arguments front back wellFormed blank each =>
    foundBetween_rendered wellFormed blank each front back, fun text start cut found => ?_⟩
  have written := (front?_eq_ok_some_iff.mp found).1
  obtain ⟨_, _, -, lists, -⟩ := written.source
  have each : ∀ argument ∈ cut.arguments, argument.CountsAsArgument := fun argument member =>
    Text.countsAsArgument_iff.mpr (lists.isArgument argument member)
  exact ⟨foundBetween_of_front? found, written.name, each, fun blanks front back blank =>
    foundBetween_rendered written.name blank each front back⟩

/-- Literals hide commas and parentheses, and so do parentheses with commas. -/
theorem front?_rendered_variable :
    let name : Name := ⟨some (Text.lit "Player"), Text.lit "Variable"⟩
    let arguments := [Text.lit "\"a, (\\\"\"", Text.lit "max(x, \")\")"]
    let cut := rendered name [' '] arguments
    let again := rendered name [] arguments
    cut.source = Text.lit "Player.Variable (\"a, (\\\"\",max(x, \")\"))" ∧ name.WellFormed ∧
      (∀ argument ∈ arguments, argument.CountsAsArgument) ∧
      cut.FoundBetween (Text.lit "2*" ++ (cut.source ++ Text.lit ")")) 2 40 ∧
      again.FoundBetween again.source 0 37 := by
  intro name arguments cut again
  have wellFormed : name.WellFormed :=
    ⟨by rintro _ ⟨⟩; exact ⟨_, _, rfl, by decide, by decide⟩, _, _, rfl, by decide, by decide⟩
  have each : ∀ argument ∈ arguments, argument.CountsAsArgument := by decide +kernel
  have first := front?_rendered.1 name [' '] arguments (Text.lit "2*") (Text.lit ")") wellFormed
    (by decide) each
  have second := (front?_rendered.2 _ _ cut first.found).2.2.2 [] [] [] rfl
  simp only [List.nil_append, List.append_nil] at second
  exact ⟨by decide +kernel, wellFormed, each, first, second⟩

end Call

end SceneFormula
