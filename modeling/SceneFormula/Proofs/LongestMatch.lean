import Mathlib.Data.List.Infix
import SceneFormula.Text.Blank

set_option autoImplicit false

namespace SceneFormula.Text

variable {isToken : Text → Prop}

/-- Whether a token is the longest of its class at the front of a text. -/
structure IsLongest (isToken : Text → Prop) (token text : Text) : Prop where
  member : isToken token
  leads : token <+: text
  longest : ∀ other, isToken other → other <+: text → other.length ≤ token.length

theorem IsLongest.eq {token other text : Text} (first : IsLongest isToken token text)
    (second : IsLongest isToken other text) : token = other := by
  have below := first.longest other second.member second.leads
  have above := second.longest token first.member first.leads
  have same : token.length = other.length := by omega
  exact (List.prefix_of_prefix_length_le first.leads second.leads above).eq_of_length same

/-- Whether tokens are those that a search from the front of a text finds: the longest one where
there is one, and otherwise the character is passed over. -/
inductive Finds (isToken : Text → Prop) : Text → List Text → Prop
  | nil : Finds isToken [] []
  | token {token rest : Text} {tokens : List Text} (filled : token ≠ [])
    (longest : IsLongest isToken token (token ++ rest)) (later : Finds isToken rest tokens) :
    Finds isToken (token ++ rest) (token :: tokens)
  | other {c : Char} {rest : Text} {tokens : List Text}
    (missing : ∀ token, isToken token → ¬ token <+: c :: rest)
    (later : Finds isToken rest tokens) : Finds isToken (c :: rest) tokens

theorem Finds.eq {text : Text} {tokens others : List Text} (first : Finds isToken text tokens)
    (second : Finds isToken text others) : tokens = others := by
  induction first generalizing others with
  | nil =>
    generalize empty : ([] : Text) = text at second
    cases second with
    | nil => rfl
    | token filled => exact absurd (List.append_eq_nil_iff.mp empty.symm).1 filled
    | other => cases empty
  | @token token rest tokens filled longest later ih =>
    generalize same : token ++ rest = text at second
    cases second with
    | nil => exact absurd (List.append_eq_nil_iff.mp same).1 filled
    | @token own after found _ other second =>
      rw [same] at longest
      obtain rfl := longest.eq other
      obtain rfl := List.append_cancel_left same
      rw [ih second]
    | other missing => exact absurd (same ▸ longest.leads) (missing token longest.member)
  | @other c rest tokens missing later ih =>
    generalize same : c :: rest = text at second
    cases second with
    | nil => cases same
    | @token own after _ _ other second =>
      exact absurd (same ▸ other.leads) (missing own other.member)
    | other _ second =>
      cases same
      exact ih second

end SceneFormula.Text
