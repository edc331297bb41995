import SceneFormula.Event
import SceneFormula.Expression.Fault

set_option autoImplicit false

namespace SceneFormula

/-- The events of a preparation, and its result or what ended it. -/
structure Attempt (α : Type) where
  events : List Event
  result : Except (Stop SyntaxFault) α

namespace Attempt

/-- A result without an event. -/
def pure {α : Type} (value : α) : Attempt α := ⟨[], .ok value⟩

def fail {α : Type} (fault : SyntaxFault) : Attempt α := ⟨[], .error (.fault fault)⟩

/-- One attempt after another. The first stop ends them, and what was reported before stays. -/
def bind {α β : Type} (first : Attempt α) (next : α → Attempt β) : Attempt β :=
  match first.result with
  | .error stop => ⟨first.events, .error stop⟩
  | .ok value => ⟨first.events ++ (next value).events, (next value).result⟩

instance : Monad Attempt where
  pure := pure
  bind := bind

def report (event : Event) : Attempt Unit := ⟨[event], .ok ()⟩

/-- Attempts for the members of a list, in order. -/
def forEach {α β : Type} : (xs : List α) → ((x : α) → x ∈ xs → Attempt β) → Attempt (List β)
  | [], _ => pure []
  | x :: rest, attempt =>
    bind (attempt x List.mem_cons_self) fun y =>
      bind (forEach rest fun z member => attempt z (List.mem_cons_of_mem _ member)) fun ys =>
        pure (y :: ys)

theorem bind_result_of_ok {α β : Type} {first : Attempt α} {next : α → Attempt β} {value : α}
    (success : first.result = .ok value) : (bind first next).result = (next value).result := by
  simp only [bind, success]

theorem bind_result_of_error {α β : Type} {first : Attempt α} {next : α → Attempt β}
    {stop : Stop SyntaxFault} (failed : first.result = .error stop) :
    (bind first next).result = .error stop := by
  simp only [bind, failed]

theorem bind_assoc {α β γ : Type} (first : Attempt α) (next : α → Attempt β)
    (last : β → Attempt γ) :
    bind (bind first next) last = bind first fun value => bind (next value) last := by
  simp only [bind]
  cases first.result with
  | error stop => rfl
  | ok value => cases done : (next value).result <;> simp only [done, List.append_assoc]

end Attempt
end SceneFormula
