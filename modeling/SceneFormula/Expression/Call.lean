import SceneFormula.Expression.Name
import SceneFormula.Text.Nesting

set_option autoImplicit false

namespace SceneFormula

/-- A call as it is written. -/
structure Call where
  name : Name
  arguments : List Text
  source : Text

/-- Why a call cannot be cut from a text. -/
inductive CallFault where
  | nesting (fault : NestingFault)
  | emptyArgument (name : Name)

namespace Call

def argumentsOf (name : Name) (inner : Text) : Except CallFault (List Text) :=
  if inner.isAllBlank then .ok []
  else
    match inner.split ',' with
    | .error fault => .error (.nesting fault)
    | .ok arguments =>
      if [] ∈ arguments then .error (.emptyArgument name) else .ok arguments

/-- The call at the front of a text that starts at a position. There is none without a name or
without a parenthesis after it. -/
def front? (position : Nat) (text : Text) : Except CallFault (Option Call) :=
  match Name.front? text with
  | none => .ok none
  | some name =>
    let rest := text.drop name.text.length
    let blanks := (rest.takeWhile isBlank).length
    match rest.drop blanks with
    | '(' :: inside =>
      let offset := name.text.length + blanks
      let opening := position + offset
      match Text.closingFrom opening 0 opening (Text.pieces ('(' :: inside)) with
      | .error fault => .error (.nesting fault)
      | .ok closing =>
        let size := closing - opening - 1
        match argumentsOf name (inside.take size) with
        | .error fault => .error fault
        | .ok arguments => .ok (some ⟨name, arguments, text.take (offset + size + 2)⟩)
    | _ => .ok none

theorem length_le_of_mem_argumentsOf {name : Name} {inner : Text} {arguments : List Text}
    (success : argumentsOf name inner = .ok arguments) {argument : Text}
    (member : argument ∈ arguments) : argument.length ≤ inner.length := by
  simp only [argumentsOf] at success
  split at success
  · cases success
    cases member
  · split at success
    · cases success
    · rename_i parts done
      split at success
      · cases success
      · cases success
        exact Text.length_le_of_mem_split done member

theorem length_lt_of_mem_arguments {position : Nat} {text : Text} {call : Call}
    (found : front? position text = .ok (some call)) {argument : Text}
    (member : argument ∈ call.arguments) : argument.length < text.length := by
  simp only [front?] at found
  split at found
  · cases found
  · rename_i name named
    split at found
    · rename_i inside opened
      split at found
      · cases found
      · rename_i closing _
        split at found
        · cases found
        · rename_i arguments cut
          cases found
          have inner := length_le_of_mem_argumentsOf cut member
          have outer := congrArg List.length opened
          simp only [List.length_take, List.length_drop, List.length_cons] at inner outer
          omega
    · cases found

theorem source_ne_nil_of_front? {position : Nat} {text : Text} {call : Call}
    (found : front? position text = .ok (some call)) : call.source ≠ [] := by
  simp only [front?] at found
  split at found
  · cases found
  · rename_i name named
    split at found
    · split at found
      · cases found
      · split at found
        · cases found
        · cases found
          intro empty
          rcases List.take_eq_nil_iff.mp empty with zero | rfl
          · omega
          · simp [Name.front?, Name.wordLength] at named
    · cases found

end Call
end SceneFormula
