import SceneFormula.Formula.Token

set_option autoImplicit false

namespace SceneFormula

/-- The name that a call is made by. -/
structure Name where
  object? : Option Text
  member : Text
deriving DecidableEq

namespace Name

/-- The name as it is written. -/
def text : Name → Text
  | ⟨none, member⟩ => member
  | ⟨some object, member⟩ => object ++ '.' :: member

/-- The length of the word at the front of a text; zero if there is none. -/
def wordLength : Text → Nat
  | [] => 0
  | c :: rest => if isNameStart c then 1 + (rest.takeWhile isNamePart).length else 0

def front? (text : Text) : Option Name :=
  let size := wordLength text
  if size = 0 then none
  else
    match text.drop size with
    | '.' :: rest =>
      let more := wordLength rest
      if more = 0 then some ⟨none, text.take size⟩
      else some ⟨some (text.take size), rest.take more⟩
    | _ => some ⟨none, text.take size⟩

/-- Whether a name starts here rather than inside a number or another name: what comes before is
no letter, digit, underscore or dot. -/
def startsAfter (previous : Option Char) (text : Text) : Bool :=
  text.head?.any isNameStart &&
    !previous.any fun c => isAlphanumeric c || c = '_' || c = '.'

theorem wordLength_pos_of_isNameStart {c : Char} {rest : Text} (start : isNameStart c = true) :
    0 < wordLength (c :: rest) := by
  simp only [wordLength, start, if_true]
  omega

theorem wordLength_le (text : Text) : wordLength text ≤ text.length := by
  cases text with
  | nil => simp [wordLength]
  | cons c rest =>
    have := (List.takeWhile_prefix (l := rest) isNamePart).length_le
    simp only [wordLength, List.length_cons]
    split <;> omega

theorem text_append_drop_of_front? {text : Text} {name : Name} (found : front? text = some name) :
    name.text ++ text.drop name.text.length = text := by
  have size_le := wordLength_le text
  have plain : text.take (wordLength text) ++
      text.drop (text.take (wordLength text)).length = text := by
    rw [List.length_take, Nat.min_eq_left size_le, List.take_append_drop]
  simp only [front?] at found
  split at found
  · cases found
  · split at found
    · rename_i rest dotted
      split at found
      · cases found
        exact plain
      · cases found
        have whole : text = text.take (wordLength text) ++ '.' :: rest := by
          rw [← dotted, List.take_append_drop]
        have more_le := wordLength_le rest
        have after : text.drop (wordLength text + (wordLength rest + 1)) =
            rest.drop (wordLength rest) := by
          rw [← List.drop_drop, dotted, List.drop_succ_cons]
        simp only [Name.text, List.length_append, List.length_take, List.length_cons,
          Nat.min_eq_left size_le, Nat.min_eq_left more_le, after]
        conv => rhs; rw [whole]
        simp
    · cases found
      exact plain

theorem text_ne_nil_of_front? {text : Text} {name : Name} (found : front? text = some name) :
    name.text ≠ [] := by
  simp only [front?] at found
  split at found
  · cases found
  · rename_i positive
    have some_text : text.take (wordLength text) ≠ [] := by
      intro empty
      rcases List.take_eq_nil_iff.mp empty with zero | rfl
      · exact positive zero
      · exact positive rfl
    split at found
    · split at found
      · cases found
        exact some_text
      · cases found
        simp [Name.text]
    · cases found
      exact some_text

end Name
end SceneFormula
