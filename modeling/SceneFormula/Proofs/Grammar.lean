import SceneFormula.Formula.Tree

set_option autoImplicit false

namespace SceneFormula

namespace Lexeme

theorem suffix_of_close? {run : Run} {rest lexemes : List Lexeme}
    (closed : run.close? rest = some lexemes) : rest <:+ lexemes := by
  unfold Run.close? at closed
  split at closed <;> cases closed <;> first | exact List.suffix_rfl | exact List.suffix_cons _ _

theorem ofTokensFrom_number {depth : Nat} {run : Run} {before : Before} {text : Text}
    {tokens : List Token} {lexemes : List Lexeme}
    (read : ofTokensFrom depth run before (.number text :: tokens) = some lexemes) :
    ∃ rest, ofTokensFrom depth .none .operand tokens = some rest ∧
      number text :: rest <:+ lexemes := by
  simp only [ofTokensFrom] at read
  split at read
  · obtain ⟨whole, mapped, closed⟩ := Option.bind_eq_some_iff.mp read
    obtain ⟨rest, left, rfl⟩ := Option.map_eq_some_iff.mp mapped
    exact ⟨rest, left, suffix_of_close? closed⟩
  · cases read

/-- A name is a lexeme, after the operator of the run that it ends. -/
theorem ofTokensFrom_name {depth : Nat} {run : Run} {before : Before} {text : Text}
    {tokens : List Token} {lexemes : List Lexeme}
    (read : ofTokensFrom depth run before (.name text :: tokens) = some lexemes) :
    ∃ rest, ofTokensFrom depth .none .name tokens = some rest ∧
      run.close? (name text :: rest) = some lexemes := by
  simp only [ofTokensFrom] at read
  obtain ⟨whole, mapped, closed⟩ := Option.bind_eq_some_iff.mp read
  obtain ⟨rest, left, rfl⟩ := Option.map_eq_some_iff.mp mapped
  exact ⟨rest, left, closed⟩

/-- The lexemes of the tokens after the first one end the lexemes of all. -/
theorem ofTokensFrom_cons {depth : Nat} {run : Run} {before : Before} {token : Token}
    {tokens : List Token} {lexemes : List Lexeme}
    (read : ofTokensFrom depth run before (token :: tokens) = some lexemes) :
    ∃ depth' run' before' rest, ofTokensFrom depth' run' before' tokens = some rest ∧
      rest <:+ lexemes := by
  -- A token that is a lexeme of its own.
  have single {depth' : Nat} {before' : Before} {lexeme : Lexeme}
      (read : ((ofTokensFrom depth' .none before' tokens).map (lexeme :: ·)).bind run.close? =
        some lexemes) :
      ∃ depth' run' before' rest, ofTokensFrom depth' run' before' tokens = some rest ∧
        rest <:+ lexemes := by
    obtain ⟨whole, mapped, closed⟩ := Option.bind_eq_some_iff.mp read
    obtain ⟨rest, left, rfl⟩ := Option.map_eq_some_iff.mp mapped
    exact ⟨_, _, _, rest, left, (List.suffix_cons _ _).trans (suffix_of_close? closed)⟩
  -- A token that ends the run before it, or starts another.
  have ends {depth' : Nat} {run' : Run} {before' : Before}
      (read : (ofTokensFrom depth' run' before' tokens).bind run.close? = some lexemes) :
      ∃ depth' run' before' rest, ofTokensFrom depth' run' before' tokens = some rest ∧
        rest <:+ lexemes := by
    obtain ⟨rest, left, closed⟩ := Option.bind_eq_some_iff.mp read
    exact ⟨_, _, _, rest, left, suffix_of_close? closed⟩
  cases token with
  | blank text =>
    simp only [ofTokensFrom] at read
    split at read
    · cases read
    · split at read
      · exact ends read
      · exact ⟨_, _, _, lexemes, read, List.suffix_rfl⟩
  | number text =>
    obtain ⟨rest, left, inside⟩ := ofTokensFrom_number read
    exact ⟨_, _, _, rest, left, (List.suffix_cons _ _).trans inside⟩
  | name text =>
    simp only [ofTokensFrom] at read
    exact single read
  | operator text =>
    unfold ofTokensFrom at read
    split at read
    · rename_i other
      cases other
    · rename_i other
      cases other
    · rename_i other
      cases other
    · split at read
      · cases read
      · exact single read
    · split at read
      · exact ⟨_, _, _, lexemes, read, List.suffix_rfl⟩
      · exact ends read
    · split at read
      · exact single read
      · split at read
        · exact ⟨_, _, _, lexemes, read, List.suffix_rfl⟩
        · exact ends read

theorem infix_of_ofTokensFrom {a b : Text} {tokens : List Token}
    (inside : [.number a, .name b] <:+: tokens) {depth : Nat} {run : Run} {before : Before}
    {lexemes : List Lexeme} (read : ofTokensFrom depth run before tokens = some lexemes) :
    [number a, name b] <:+: lexemes := by
  induction tokens generalizing depth run before lexemes with
  | nil => cases List.infix_nil.mp inside
  | cons token tokens ih =>
    rcases List.infix_cons_iff.mp inside with ⟨others, here⟩ | later
    · cases here
      obtain ⟨rest, left, whole⟩ := ofTokensFrom_number read
      obtain ⟨others, _, closed⟩ := ofTokensFrom_name left
      cases closed
      exact (List.prefix_append [number a, name b] others).isInfix.trans whole.isInfix
    · obtain ⟨_, _, _, rest, left, whole⟩ := ofTokensFrom_cons read
      exact (ih later left).trans whole.isInfix

/-- Dropping what comes before takes nothing from a part that starts with an item to keep. -/
theorem infix_dropWhile {α : Type} {p : α → Bool} {x : α} {tail items : List α}
    (inside : x :: tail <:+: items) (kept : p x = false) :
    x :: tail <:+: items.dropWhile p := by
  induction items with
  | nil => exact inside
  | cons item items ih =>
    rw [List.dropWhile_cons]
    split
    · rename_i dropped
      rcases List.infix_cons_iff.mp inside with ⟨others, here⟩ | later
      · cases here
        rw [kept] at dropped
        cases dropped
      · exact ih later
    · exact inside

theorem infix_trimBlanks {tokens : List Token} {a b : Text}
    (inside : [.number a, .name b] <:+: tokens) :
    [.number a, .name b] <:+: trimBlanks tokens := by
  unfold trimBlanks
  rw [← List.reverse_infix, List.reverse_reverse]
  refine infix_dropWhile ?_ rfl
  exact List.reverse_infix.mpr (infix_dropWhile inside rfl)

end Lexeme

namespace Tree

theorem run?_append (state : State) (front rest : List Lexeme) :
    state.run? (front ++ rest) = (state.run? front).bind fun next => next.run? rest := by
  induction front generalizing state with
  | nil => rfl
  | cons lexeme front ih =>
    simp only [List.cons_append, State.run?, Option.bind_assoc, ih]

theorem run?_number_name (state : State) (a b : Text) :
    state.run? [.number a, .name b] = none := by
  simp only [State.run?, Option.bind_eq_none_iff]
  intro next read
  simp only [State.step?] at read
  split at read
  · cases read
  · cases read
    rintro _ ⟨⟩

/-- The tokens of a formula have no name directly after a number. -/
theorem not_infix_of_ofTokens? {tokens : List Token} {tree : Tree}
    (read : ofTokens? tokens = some tree) (a b : Text) : ¬ [.number a, .name b] <:+: tokens := by
  intro inside
  obtain ⟨lexemes, cut, built⟩ := Option.bind_eq_some_iff.mp read
  have whole := (Option.filter_eq_some_iff.mp cut).1
  obtain ⟨front, rest, shape⟩ := Lexeme.infix_of_ofTokensFrom (Lexeme.infix_trimBlanks inside) whole
  obtain ⟨state, run, _⟩ := Option.bind_eq_some_iff.mp built
  rw [← shape, run?_append, run?_append] at run
  cases before : State.start.run? front with
  | none => simp [before] at run
  | some state => simp [before, run?_number_name] at run

end Tree
end SceneFormula
