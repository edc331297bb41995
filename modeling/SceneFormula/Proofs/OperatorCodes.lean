import SceneFormula.Expression.Operator
import SceneFormula.Proofs.LongestMatch
import SceneFormula.Proofs.Positions

set_option autoImplicit false

namespace SceneFormula

namespace Text

theorem blanked_append_of_closed {front : Text} (closed : ∀ body, .unclosed body ∉ front.pieces)
    (rest : Text) : blanked (front ++ rest) = blanked front ++ blanked rest := by
  rw [blanked, pieces_append_of_closed closed, List.flatMap_append]
  rfl

theorem blanked_ofText_append (content rest : Text) :
    blanked (Literal.ofText content ++ rest) = Literal.quote :: Literal.quote :: blanked rest := by
  have whole : Literal.ofText content ++ rest =
      Literal.quote :: (Literal.escaped content ++ Literal.quote :: rest) := by
    simp [Literal.ofText]
  rw [blanked, whole, pieces_literal (Literal.stands_escaped content)]
  rfl

theorem blanked_cons {c : Char} (unquoted : c ≠ Literal.quote) (rest : Text) :
    blanked (c :: rest) = c :: blanked rest := by
  rw [blanked, pieces_cons unquoted]
  rfl

theorem blanked_nil : blanked [] = [] := by
  rw [blanked, pieces]
  rfl

theorem blanked_blanked (text : Text) : text.blanked.blanked = text.blanked := by
  have emptied (rest : Text) : blanked (Literal.quote :: Literal.quote :: rest) =
      Literal.quote :: Literal.quote :: blanked rest := blanked_ofText_append [] rest
  unfold blanked at emptied ⊢
  fun_induction pieces text with
  | case1 => exact blanked_nil
  | case2 rest body after _ ih => exact (emptied _).trans (congrArg _ (congrArg _ ih))
  | case3 rest _ => exact (emptied []).trans (congrArg _ (congrArg _ blanked_nil))
  | case4 c rest unquoted ih => exact (blanked_cons unquoted _).trans (congrArg _ ih)

/-- A text with its literals emptied, from a position on and behind what has been written before. A
literal that is not closed takes the rest of the text. -/
def blankedFrom (text : Text) (i : Nat) (written : Text) : Except Mishap Text :=
  if _ : i < text.length then do
    let c ← charAt text i
    if c = Literal.quote then
      match _ : literalEndAt text i with
      | .ok next => blankedFrom text next (written ++ [Literal.quote, Literal.quote])
      | .error (.fault _) =>
        blankedFrom text text.length (written ++ [Literal.quote, Literal.quote])
      | .error mishap => .error mishap
    else blankedFrom text (i + 1) (written ++ [c])
  else return written
termination_by text.length - i
decreasing_by
  · have := lt_of_literalEndAt ‹_›
    omega
  all_goals omega

theorem blankedFrom_of_drop_nil {text written : Text} {i : Nat} (tail : text.drop i = []) :
    blankedFrom text i written = .ok written := by
  rw [blankedFrom, dif_neg (List.drop_eq_nil_iff.mp tail).not_gt]
  rfl

theorem blankedFrom_eq (text : Text) (i : Nat) (written : Text) :
    blankedFrom text i written = .ok (written ++ blanked (text.drop i)) := by
  rw [blanked]
  generalize tail : text.drop i = rest
  fun_induction pieces rest generalizing i written with
  | case1 => simpa using blankedFrom_of_drop_nil tail
  | case2 rest body after closed ih =>
    have ended : literalEndAt text i = .ok (i + (body.length + 2)) := by
      rw [literalEndAt_eq, literalEnd, drop_succ_of_drop tail, closed]
      rfl
    rw [blankedFrom, dif_pos (lt_length_of_drop tail), charAt_of_drop tail, Mishap.ok_bind,
      if_pos rfl]
    split
    · rename_i next found
      cases ended.symm.trans found
      rw [ih _ _ (drop_of_close? tail closed), List.append_assoc]
      rfl
    · rename_i found
      cases ended.symm.trans found
    · rename_i found
      cases ended.symm.trans found
  | case3 rest unclosed =>
    have failed : literalEndAt text i = .error (.ofNesting (.unterminated i)) := by
      rw [literalEndAt_eq, literalEnd, drop_succ_of_drop tail, unclosed]
      rfl
    rw [blankedFrom, dif_pos (lt_length_of_drop tail), charAt_of_drop tail, Mishap.ok_bind,
      if_pos rfl]
    split
    · rename_i found
      cases failed.symm.trans found
    · exact blankedFrom_of_drop_nil List.drop_length
    · rename_i uncaught found
      cases failed.symm.trans found
      exact absurd rfl (uncaught _)
  | case4 c rest unquoted ih =>
    rw [blankedFrom, dif_pos (lt_length_of_drop tail), charAt_of_drop tail, Mishap.ok_bind,
      if_neg unquoted, ih _ _ (drop_succ_of_drop tail), List.append_assoc]
    rfl

end Text

/-- What operators are written as. -/
def operatorSigns : List Text :=
  [Text.lit "<=", Text.lit ">=", Text.lit "!=", Text.lit "==", Text.lit "=", Text.lit "<",
    Text.lit ">", Text.lit "+", Text.lit "-", Text.lit "*", Text.lit "/"]

theorem mem_operatorSigns_iff {token : Text} :
    token ∈ operatorSigns ↔
      (∃ c ∈ ['<', '>', '!', '='], token = [c, '=']) ∨
        ∃ c ∈ ['=', '<', '>', '+', '-', '*', '/'], token = [c] := by
  simp [operatorSigns, Text.lit, or_assoc]

/-- A sign that starts with another character than those of two, or has no equality sign second, is
a single character. -/
theorem eq_of_sign_of_unpaired {sign : Text} {c : Char} {rest : Text}
    (unpaired : ¬ (rest.head? = some '=' ∧ c ∈ ['<', '>', '!', '=']))
    (known : sign ∈ operatorSigns) (leads : sign <+: c :: rest) :
    sign = [c] ∧ c ∈ ['=', '<', '>', '+', '-', '*', '/'] := by
  obtain ⟨own, paired, rfl⟩ | ⟨own, single, rfl⟩ := mem_operatorSigns_iff.mp known
  · obtain ⟨rfl, after⟩ := List.cons_prefix_cons.mp leads
    obtain ⟨behind, rfl⟩ := after
    exact absurd ⟨rfl, paired⟩ unpaired
  · obtain ⟨rfl, -⟩ := List.cons_prefix_cons.mp leads
    exact ⟨rfl, single⟩

theorem finds_of_single {c : Char} {rest : Text} {tokens : List Text}
    (unpaired : ¬ (rest.head? = some '=' ∧ c ∈ ['<', '>', '!', '=']))
    (single : c ∈ ['=', '<', '>', '+', '-', '*', '/'])
    (later : rest.Finds (· ∈ operatorSigns) tokens) :
    Text.Finds (· ∈ operatorSigns) (c :: rest) ([c] :: tokens) := by
  refine .token (List.cons_ne_nil c []) ⟨?_, List.prefix_append [c] rest, ?_⟩ later
  · exact mem_operatorSigns_iff.mpr (.inr ⟨c, single, rfl⟩)
  · intro other known leads
    rw [(eq_of_sign_of_unpaired unpaired known leads).1]

theorem finds_of_other {c : Char} {rest : Text} {tokens : List Text}
    (unpaired : ¬ (rest.head? = some '=' ∧ c ∈ ['<', '>', '!', '=']))
    (other : c ∉ ['=', '<', '>', '+', '-', '*', '/'])
    (later : rest.Finds (· ∈ operatorSigns) tokens) :
    Text.Finds (· ∈ operatorSigns) (c :: rest) tokens :=
  .other (fun _ known leads => other (eq_of_sign_of_unpaired unpaired known leads).2) later

theorem finds_operatorTokens (text : Text) :
    text.Finds (· ∈ operatorSigns) (operatorTokens text) := by
  fun_induction operatorTokens text with
  | case1 => exact .nil
  | case2 c single => exact finds_of_single (by simp) single .nil
  | case3 c other => exact finds_of_other (by simp) other .nil
  | case4 c d rest paired ih =>
    obtain ⟨rfl, paired⟩ := paired
    have known : [c, '='] ∈ operatorSigns := mem_operatorSigns_iff.mpr (.inl ⟨c, paired, rfl⟩)
    refine .token (List.cons_ne_nil c _) ⟨known, List.prefix_append [c, '='] rest, ?_⟩ ih
    intro other found _
    obtain ⟨own, -, rfl⟩ | ⟨own, -, rfl⟩ := mem_operatorSigns_iff.mp found <;> simp
  | case5 c d rest unpaired single ih =>
    exact finds_of_single (by simpa using unpaired) single ih
  | case6 c d rest unpaired other ih =>
    exact finds_of_other (by simpa using unpaired) other ih

section Naming

variable {Operator : Type} {ofToken? : Text → Option Operator} {undefined : Operator}

/-- Whether a token is the only one of a list that is written for an operator. -/
def IsOnly (ofToken? : Text → Option Operator) (token : Text) (tokens : List Text) : Prop :=
  ∃ front back, tokens = front ++ token :: back ∧ (ofToken? token).isSome ∧
    ∀ other ∈ front ++ back, ofToken? other = none

/-- Whether an operator is that of the only token of a list, or undefined where there are none or
several. -/
structure IsTold (ofToken? : Text → Option Operator) (undefined : Operator) (tokens : List Text)
    (operator : Operator) : Prop where
  only : ∀ token, IsOnly ofToken? token tokens → ofToken? token = some operator
  otherwise : (∀ token, ¬ IsOnly ofToken? token tokens) → operator = undefined

/-- The operator of the only token in a list of them, and the undefined one otherwise. -/
def told (ofToken? : Text → Option Operator) (undefined : Operator) (tokens : List Text) :
    Operator :=
  match tokens.filterMap ofToken? with
  | [operator] => operator
  | _ => undefined

theorem filterMap_of_isOnly {token : Text} {tokens : List Text}
    (only : IsOnly ofToken? token tokens) :
    ∃ operator, ofToken? token = some operator ∧ tokens.filterMap ofToken? = [operator] := by
  obtain ⟨front, back, rfl, known, rest⟩ := only
  obtain ⟨operator, told⟩ := Option.isSome_iff_exists.mp known
  have before : front.filterMap ofToken? = [] := List.filterMap_eq_nil_iff.mpr fun other inside =>
    rest other (List.mem_append_left back inside)
  have after : back.filterMap ofToken? = [] := List.filterMap_eq_nil_iff.mpr fun other inside =>
    rest other (List.mem_append_right front inside)
  exact ⟨operator, told, by rw [List.filterMap_append, before, List.filterMap_cons_some told, after,
    List.nil_append]⟩

theorem exists_isOnly_of_filterMap {tokens : List Text} {operator : Operator}
    (alone : tokens.filterMap ofToken? = [operator]) : ∃ token, IsOnly ofToken? token tokens := by
  obtain ⟨front, token, back, rfl, before, known, after⟩ := List.filterMap_eq_cons_iff.mp alone
  refine ⟨token, front, back, rfl, Option.isSome_iff_exists.mpr ⟨operator, known⟩, ?_⟩
  intro other inside
  obtain inside | inside := List.mem_append.mp inside
  · exact before other inside
  · exact List.filterMap_eq_nil_iff.mp after other inside

theorem isTold_told (tokens : List Text) :
    IsTold ofToken? undefined tokens (told ofToken? undefined tokens) := by
  constructor
  · intro token only
    obtain ⟨operator, known, alone⟩ := filterMap_of_isOnly only
    rw [told, alone, known]
  · intro none
    rw [told]
    split
    · rename_i alone
      obtain ⟨token, only⟩ := exists_isOnly_of_filterMap alone
      exact absurd only (none token)
    · rfl

/-- The operator that a text names, read by positions: the tokens for operators are kept, and the
first of them is taken where it is the only one. -/
def toldAt (ofToken? : Text → Option Operator) (undefined : Operator) (text : Text) :
    Except Mishap Operator := do
  let blanked ← text.blankedFrom 0 []
  let found := (operatorTokens blanked).filter fun token => (ofToken? token).isSome
  if found.length ≠ 1 then return undefined
  else
    match found[0]? with
    | none => .error .outOfRange
    | some token =>
      match ofToken? token with
      | none => .error .nameless
      | some operator => return operator

theorem toldAt_eq (text : Text) :
    toldAt ofToken? undefined text =
      .ok (told ofToken? undefined (operatorTokens text.blanked)) := by
  rw [toldAt, Text.blankedFrom_eq, Mishap.ok_bind, List.drop_zero, List.nil_append, told]
  generalize operatorTokens text.blanked = tokens
  have kept : tokens.filterMap ofToken? =
      (tokens.filter fun token => (ofToken? token).isSome).filterMap ofToken? := by
    rw [List.filterMap_filter]
    congr 1
    funext token
    cases ofToken? token <;> rfl
  have known (token : Text) (inside : token ∈ tokens.filter fun token => (ofToken? token).isSome) :
      ∃ operator, ofToken? token = some operator :=
    Option.isSome_iff_exists.mp (List.mem_filter.mp inside).2
  rw [kept]
  generalize tokens.filter (fun token => (ofToken? token).isSome) = found at known
  obtain _ | ⟨token, _ | ⟨second, rest⟩⟩ := found
  · rfl
  · obtain ⟨operator, told⟩ := known token List.mem_cons_self
    simp [told]
    rfl
  · obtain ⟨one, told⟩ := known token List.mem_cons_self
    obtain ⟨two, also⟩ := known second (List.mem_cons_of_mem _ List.mem_cons_self)
    simp [told, also]
    rfl

end Naming

theorem Comparison.ofText_eq (text : Text) :
    ofText text = told ofToken? undefined (operatorTokens text.blanked) := by
  rw [ofText, told]
  obtain _ | ⟨_, _ | _⟩ := (operatorTokens text.blanked).filterMap ofToken? <;> rfl

theorem Modification.ofText_eq (text : Text) :
    ofText text = told ofToken? undefined (operatorTokens text.blanked) := by
  rw [ofText, told]
  obtain _ | ⟨_, _ | _⟩ := (operatorTokens text.blanked).filterMap ofToken? <;> rfl

/-- Whether two texts name the same operators. -/
structure SameOperators (text other : Text) : Prop where
  comparison : Comparison.ofText text = Comparison.ofText other
  modification : Modification.ofText text = Modification.ofText other

theorem SameOperators.of_blanked_eq {text other : Text} (same : text.blanked = other.blanked) :
    SameOperators text other :=
  ⟨by rw [Comparison.ofText_eq, Comparison.ofText_eq, same],
    by rw [Modification.ofText_eq, Modification.ofText_eq, same]⟩

/-- The operators of a text are those of the only longest operator tokens for one outside its
literals, and telling them comes to no mishap. What a literal holds has no part in them, and
neither has emptying the literals, which changes nothing the second time. -/
theorem operators_outside_literals :
    (∀ text : Text, ∃ tokens,
      (∀ found, text.blanked.Finds (· ∈ operatorSigns) found ↔ found = tokens) ∧
      IsTold Comparison.ofToken? .undefined tokens (Comparison.ofText text) ∧
      IsTold Modification.ofToken? .undefined tokens (Modification.ofText text) ∧
      toldAt Comparison.ofToken? .undefined text = .ok (Comparison.ofText text) ∧
      toldAt Modification.ofToken? .undefined text = .ok (Modification.ofText text)) ∧
    (∀ front back content other : Text, (∀ body, .unclosed body ∉ front.pieces) →
      SameOperators (front ++ (Literal.ofText content ++ back))
        (front ++ (Literal.ofText other ++ back))) ∧
    ∀ text : Text, text.blanked.blanked = text.blanked ∧ SameOperators text text.blanked := by
  refine ⟨fun text => ?_, fun front back content other closed => ?_, fun text => ?_⟩
  · rw [Comparison.ofText_eq, Modification.ofText_eq]
    refine ⟨operatorTokens text.blanked, fun found => ⟨?_, ?_⟩, isTold_told _, isTold_told _,
      toldAt_eq text, toldAt_eq text⟩
    · exact fun finds => finds.eq (finds_operatorTokens _)
    · rintro rfl
      exact finds_operatorTokens _
  · apply SameOperators.of_blanked_eq
    rw [Text.blanked_append_of_closed closed, Text.blanked_append_of_closed closed,
      Text.blanked_ofText_append, Text.blanked_ofText_append]
  · have again := Text.blanked_blanked text
    exact ⟨again, .of_blanked_eq again.symm⟩

/-- A comparison with a literal is told by its own token, whatever the literal holds. -/
theorem operators_outside_literals_less :
    (∀ body, .unclosed body ∉ (Text.lit "var < ").pieces) ∧
      SameOperators (Text.lit "var < " ++ (Literal.ofText (Text.lit "=\"=") ++ Text.lit ".x"))
        (Text.lit "var < " ++ (Literal.ofText [] ++ Text.lit ".x")) ∧
      Comparison.ofText (Text.lit "var < " ++ (Literal.ofText (Text.lit "=\"=") ++ Text.lit ".x")) =
        .less := by
  have closed : ∀ body, .unclosed body ∉ (Text.lit "var < ").pieces := by
    have pieces : (Text.lit "var < ").pieces = (Text.lit "var < ").map .outside := by cbv
    simp [pieces]
  refine ⟨closed, operators_outside_literals.2.1 _ _ _ _ closed, ?_⟩
  cbv

end SceneFormula
