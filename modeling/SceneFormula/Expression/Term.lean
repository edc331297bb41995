import SceneFormula.Expression.Fault

set_option autoImplicit false

namespace SceneFormula

/-- A term of a text expression. -/
inductive Term where
  | literal (text : Text)
  | call (call : Call)

namespace Term

/-- The term that a part between plus signs is; `whole` is the expression that it is part of. -/
def ofPart (whole : Text) : Text → Except SyntaxFault Term
  | [] => .error (.emptyTerm whole)
  | c :: rest =>
    if c = Literal.quote then
      match Literal.close? rest with
      | none => .error (.call (.nesting (.unterminated 0)))
      | some (_, []) => .ok (.literal (Literal.value (c :: rest)))
      | some (_, _ :: _) => .error (.afterLiteral (c :: rest))
    else if Name.startsAfter none (c :: rest) then
      match Call.front? 0 (c :: rest) with
      | .error fault => .error (.call fault)
      | .ok none => .error (.notATerm (c :: rest))
      | .ok (some cut) =>
        if cut.source.length = (c :: rest).length then .ok (.call cut)
        else .error (.notATerm (c :: rest))
    else .error (.notATerm (c :: rest))

theorem length_lt_of_ofPart {whole part : Text} {call : Call}
    (success : ofPart whole part = .ok (.call call)) {argument : Text}
    (member : argument ∈ call.arguments) : argument.length < part.length := by
  cases part with
  | nil => simp [ofPart] at success
  | cons c rest =>
    simp only [ofPart] at success
    split at success
    · split at success <;> cases success
    · split at success
      · split at success
        · cases success
        · cases success
        · rename_i found
          split at success
          · cases success
            exact Call.length_lt_of_mem_arguments found member
          · cases success
      · cases success

def parts (text : Text) : Except SyntaxFault (List Text) :=
  if text.isAllBlank then .error .emptyText
  else (text.split '+').mapError fun fault => .call (.nesting fault)

theorem length_le_of_mem_parts {text : Text} {found : List Text} (success : parts text = .ok found)
    {part : Text} (member : part ∈ found) : part.length ≤ text.length := by
  simp only [parts] at success
  split at success
  · cases success
  · cases done : text.split '+' with
    | error fault =>
      rw [done] at success
      cases success
    | ok cut =>
      rw [done] at success
      cases success
      exact Text.length_le_of_mem_split done member

end Term
end SceneFormula
