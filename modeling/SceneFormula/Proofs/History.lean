import SceneFormula.Proofs.Naming
import SceneFormula.Proofs.SessionUse

set_option autoImplicit false

namespace SceneFormula

/-- A call that has been bound to a function that leaves the world to the library, with prepared
arguments. -/
def Instruction.Bound (call : Instruction) : Prop :=
  ∃ (functions : Registry) (engine : FormulaEngine) (returns : ValueKind) (cut : Call)
    (front : Text),
    functions.LeavesWorld ∧ Name.front? front = some cut.name ∧
      call.Binds functions returns
        (fun kind plain plan => (Plan.prepare functions engine kind plain).result = .ok plan)
        cut

/-- A plan that a text has been prepared as, with functions that leave the world to the library. -/
def Plan.Prepared (text : Text) (plan : Plan) : Prop :=
  ∃ (functions : Registry) (engine : FormulaEngine) (kind : ValueKind),
    functions.LeavesWorld ∧ (Plan.prepare functions engine kind text).result = .ok plan

namespace Plan

variable {text : Text} {plan : Plan} {call : Instruction}

theorem Prepared.bound (prepared : Prepared text plan) (member : call ∈ plan.calls) :
    call.Bound := by
  obtain ⟨functions, engine, kind, leaves, success⟩ := prepared
  obtain ⟨returns, cut, front, named, binds⟩ := exists_binds_of_mem_calls success member
  exact ⟨functions, engine, returns, cut, front, leaves, named, binds⟩

end Plan

namespace Instruction

variable {call : Instruction} (bound : call.Bound)
include bound

theorem Bound.prepared {argument : Argument} {plan : Plan} (member : argument ∈ call.arguments)
    (held : argument.plan? = some plan) : ∃ text, Plan.Prepared text plan := by
  obtain ⟨functions, engine, _, _, _, leaves, _, binds⟩ := bound
  obtain ⟨pair, _, fits⟩ := exists_of_forall₂ binds.fits member
  cases argument with
  | name text => cases held
  | prepared text own =>
    cases held
    obtain ⟨_, kind, _, success⟩ := fits
    exact ⟨_, functions, engine, kind, leaves, success⟩

theorem Bound.agrees {related : Scene → Scene → Prop} (alike : Scene.Alike related) :
    call.Agrees related := by
  obtain ⟨functions, engine, _, _, _, leaves, _, binds⟩ := bound
  exact (binds.imp fun _ _ _ _ => Plan.agrees_of_prepare alike leaves).agrees alike leaves

theorem Bound.length_arguments : call.arguments.length = call.function.parameters.length := by
  obtain ⟨_, _, _, _, _, _, _, binds⟩ := bound
  exact binds.length_arguments

theorem Bound.isSome_object? : call.object?.isSome = call.function.isMember := by
  obtain ⟨_, _, _, _, _, _, named, binds⟩ := bound
  exact binds.isSome_object? named

end Instruction

/-- The texts that expressions have been defined with, in order, each with the plan that it has been
prepared as, if it has. -/
abbrev History := List (Text × Option Plan)

namespace History

variable {history later : History} {place : Place} {call : Instruction}

/-- The name that stands at a place: the text of an expression, or a name in its plan. -/
def book (history : History) (place : Place) : Option Text :=
  match place.reverse with
  | [] => none
  | [index] => history[index]?.map (·.1)
  | index :: inner :: path => do
    let plan ← (← history[index]?).2
    (← plan.call? inner).textAt? path

/-- Whether a history goes on from another one: texts stay, and so do plans. -/
def Continues (history later : History) : Prop :=
  ∀ (index : Nat) text plan?, history[index]? = some (text, plan?) →
    ∃ plan'?, later[index]? = some (text, plan'?) ∧ ∀ plan, plan? = some plan → plan'? = some plan

/-- Whether a call stands at a place, in the plan of an expression. -/
def Has (history : History) (place : Place) (call : Instruction) : Prop :=
  ∃ (index inner : Nat) (text : Text) (plan : Plan), place = [inner, index] ∧
    history[index]? = some (text, some plan) ∧ plan.call? inner = some call

theorem continues_append (history : History) (entry : Text × Option Plan) :
    history.Continues (history ++ [entry]) := by
  intro index text plan? found
  obtain ⟨inside, _⟩ := List.getElem?_eq_some_iff.mp found
  exact ⟨plan?, by rw [List.getElem?_append_left inside, found], fun _ same => same⟩

theorem continues_set {index : Nat} {text : Text} {plan? plan'? : Option Plan}
    (found : history[index]? = some (text, plan?))
    (kept : ∀ plan, plan? = some plan → plan'? = some plan) :
    history.Continues (history.set index (text, plan'?)) := by
  intro other text' plan''? found'
  by_cases same : index = other
  · subst same
    cases found.symm.trans found'
    exact ⟨plan'?, List.getElem?_set_self (List.getElem?_eq_some_iff.mp found).1, kept⟩
  · exact ⟨plan''?, by rw [List.getElem?_set_ne same, found'], fun _ same => same⟩

theorem Continues.has (continues : history.Continues later) (has : history.Has place call) :
    later.Has place call := by
  obtain ⟨index, inner, text, plan, rfl, found, among⟩ := has
  obtain ⟨plan?, found', kept⟩ := continues index text _ found
  rw [kept plan rfl] at found'
  exact ⟨index, inner, text, plan, rfl, found', among⟩

theorem Continues.book (continues : history.Continues later) (place : Place) (name : Text)
    (booked : history.book place = some name) : later.book place = some name := by
  unfold History.book at booked ⊢
  split at booked
  · cases booked
  · obtain ⟨⟨text, plan?⟩, found, rfl⟩ := Option.map_eq_some_iff.mp booked
    obtain ⟨plan'?, found', _⟩ := continues _ text plan? found
    rw [found']
    rfl
  · obtain ⟨⟨text, plan?⟩, found, booked⟩ := Option.bind_eq_some_iff.mp booked
    obtain ⟨plan, held, booked⟩ := Option.bind_eq_some_iff.mp booked
    obtain ⟨plan'?, found', kept⟩ := continues _ text plan? found
    rw [found', kept plan held]
    exact booked

/-- The names in a call stand where the paths to them lead from the call's place. -/
theorem Has.book (has : history.Has place call) {path : List Nat} {name : Text}
    (held : call.textAt? path = some name) : history.book (path.reverse ++ place) = some name := by
  obtain ⟨index, inner, text, plan, rfl, found, among⟩ := has
  have turned : (path.reverse ++ [inner, index]).reverse = index :: inner :: path := by simp
  rw [History.book, turned]
  simp [found, among, held]

end History

namespace Session

variable {created : List Text} {history : History} {session : Session}

/-- Whether a session is tied to the names that objects were created under, and to the history of
its expressions: each of these is the latest that was defined at its place, and no other one is
there; what has been added to it are calls of the history. -/
structure Tied (created : List Text) (history : History) (session : Session) : Prop where
  defined : history.length = session.defined
  own : ∀ id expression, session.expression? id = some expression →
    ∃ index, expression.place = [index] ∧
      history[index]? = some (expression.plain, expression.plan?)
  apart : ∀ id other expression expression', session.expression? id = some expression →
    session.expression? other = some expression' → expression.place = expression'.place →
    id = other
  added : ∀ id expression, session.expression? id = some expression →
    ∀ binding ∈ expression.added, history.Has binding.place binding.instruction
  prepared : ∀ entry ∈ history, ∀ plan, entry.2 = some plan → plan.Prepared entry.1
  scene : session.scene.Tied created history.book

theorem Tied.withScene (tied : session.Tied created history) {more : List Text} {scene : Scene}
    (after : scene.Tied more history.book) : { session with scene }.Tied more history :=
  ⟨tied.defined, tied.own, tied.apart, tied.added, tied.prepared, after⟩

theorem expression?_put_eq_some {id other : Text} {expression kept : Expression}
    (held : (session.put id kept).expression? other = some expression) :
    other = id ∧ expression = kept ∨ other ≠ id ∧ session.expression? other = some expression := by
  by_cases same : other = id
  · subst same
    rw [expression?_put_self] at held
    exact .inl ⟨rfl, (Option.some.inj held).symm⟩
  · rw [expression?_put_of_ne same] at held
    exact .inr ⟨same, held⟩

/-- An expression that is kept for one at the same place, with the same text, goes on from it if a
plan of it stays and what is added stands in the history. -/
theorem Tied.put (tied : session.Tied created history) {id : Text} {before after : Expression}
    (found : session.expression? id = some before) (place : after.place = before.place)
    (plain : after.plain = before.plain)
    (added : ∀ binding ∈ after.added, history.Has binding.place binding.instruction)
    (plan : after.plan? = before.plan? ∨
      before.plan? = none ∧ ∀ plan, after.plan? = some plan → plan.Prepared before.plain) :
    ∃ later, (session.put id after).Tied created later := by
  obtain ⟨index, here, known⟩ := tied.own id before found
  have inside := (List.getElem?_eq_some_iff.mp known).1
  have kept : ∀ plan, before.plan? = some plan → after.plan? = some plan := by
    intro plan' held
    rcases plan with same | ⟨unprepared, _⟩
    · rw [same, held]
    · rw [unprepared] at held
      cases held
  have continues := History.continues_set known kept
  refine ⟨history.set index (before.plain, after.plan?), ?_, ?_, ?_, ?_, ?_, ?_⟩
  · rw [List.length_set]
    exact tied.defined
  · intro other expression held
    rcases expression?_put_eq_some held with ⟨rfl, rfl⟩ | ⟨ne, held⟩
    · exact ⟨index, place.trans here, by rw [List.getElem?_set_self inside, plain]⟩
    · obtain ⟨index', here', known'⟩ := tied.own other expression held
      have elsewhere : index ≠ index' := by
        rintro rfl
        exact ne (tied.apart other id expression before held found (here'.trans here.symm))
      exact ⟨index', here', by rw [List.getElem?_set_ne elsewhere, known']⟩
  · intro first second one two held held' same
    rcases expression?_put_eq_some held with ⟨rfl, rfl⟩ | ⟨_, old⟩ <;>
      rcases expression?_put_eq_some held' with ⟨rfl, rfl⟩ | ⟨_, old'⟩
    · rfl
    · exact tied.apart first second before two found old' (place.symm.trans same)
    · exact tied.apart first second one before old found (same.trans place)
    · exact tied.apart first second one two old old' same
  · intro other expression held binding member
    rcases expression?_put_eq_some held with ⟨rfl, rfl⟩ | ⟨_, held⟩
    · exact continues.has (added binding member)
    · exact continues.has (tied.added other expression held binding member)
  · intro entry member plan' held
    rcases List.mem_or_eq_of_mem_set member with old | rfl
    · exact tied.prepared entry old plan' held
    · rcases plan with same | ⟨_, prepared⟩
      · rw [same] at held
        exact tied.prepared _ (List.mem_of_getElem? known) plan' held
      · exact prepared plan' held
  · exact tied.scene.mono continues.book tied.scene.distinct (fun _ _ known => known)
      session.scene.events

theorem Tied.define (tied : session.Tied created history) (id plain : Text) :
    { session.put id (Expression.ofText [session.defined] plain) with
      defined := session.defined + 1 }.Tied created (history ++ [(plain, none)]) := by
  have continues := history.continues_append (plain, none)
  have within {other : Text} {expression : Expression}
      (held : session.expression? other = some expression) :
      ∃ index, index < history.length ∧ expression.place = [index] ∧
        history[index]? = some (expression.plain, expression.plan?) := by
    obtain ⟨index, here, known⟩ := tied.own other expression held
    exact ⟨index, (List.getElem?_eq_some_iff.mp known).1, here, known⟩
  have fresh {other : Text} {expression : Expression}
      (held : session.expression? other = some expression) :
      expression.place ≠ [session.defined] := by
    obtain ⟨index, inside, here, _⟩ := within held
    rw [here, ← tied.defined]
    intro same
    have := List.head_eq_of_cons_eq same
    omega
  refine ⟨?_, ?_, ?_, ?_, ?_, ?_⟩
  · rw [List.length_append, tied.defined]
    rfl
  · intro other expression held
    rcases expression?_put_eq_some held with ⟨rfl, rfl⟩ | ⟨_, held⟩
    · refine ⟨session.defined, rfl, ?_⟩
      rw [← tied.defined, List.getElem?_append_right (Nat.le_refl _), Nat.sub_self]
      rfl
    · obtain ⟨index, inside, here, known⟩ := within held
      exact ⟨index, here, by rw [List.getElem?_append_left inside, known]⟩
  · intro first second one two held held' same
    rcases expression?_put_eq_some held with ⟨rfl, rfl⟩ | ⟨_, old⟩ <;>
      rcases expression?_put_eq_some held' with ⟨rfl, rfl⟩ | ⟨_, old'⟩
    · rfl
    · exact absurd same.symm (fresh old')
    · exact absurd same (fresh old)
    · exact tied.apart first second one two old old' same
  · intro other expression held binding member
    rcases expression?_put_eq_some held with ⟨rfl, rfl⟩ | ⟨_, held⟩
    · cases member
    · exact continues.has (tied.added other expression held binding member)
  · intro entry member plan held
    rcases List.mem_append.mp member with old | new
    · exact tied.prepared entry old plan held
    · rw [List.mem_singleton.mp new] at held
      cases held
  · exact tied.scene.mono continues.book tied.scene.distinct (fun _ _ known => known)
      session.scene.events

end Session

/-- The calls of an expression with their places: those of its plan, those added to it, and calls in
the arguments of calls. -/
inductive Expression.Calls (expression : Expression) : Place → Instruction → Prop
  | own {plan : Plan} {index : Nat} {call : Instruction} (held : expression.plan? = some plan)
    (found : plan.call? index = some call) : Calls expression (index :: expression.place) call
  | added {binding : Binding} (member : binding ∈ expression.added) :
    Calls expression binding.place binding.instruction
  | argument {place : Place} {outer call : Instruction} {index inner : Nat} {argument : Argument}
    {plan : Plan} (calls : Calls expression place outer)
    (among : outer.arguments[index]? = some argument) (held : argument.plan? = some plan)
    (found : plan.call? inner = some call) :
    Calls expression (inner :: (index + 1) :: place) call

theorem Expression.mem_bindings {expression : Expression} {binding : Binding}
    (member : binding ∈ expression.bindings) :
    binding ∈ expression.added ∨ ∃ plan index, expression.plan? = some plan ∧
      plan.call? index = some binding.instruction ∧
      binding.place = index :: expression.place := by
  refine (List.mem_append.mp member).imp_right fun own => ?_
  cases held : expression.plan? with
  | none =>
    rw [held] at own
    cases own
  | some plan =>
    rw [held] at own
    cases plan with
    | text segments => cases own
    | formula compiled calls =>
      obtain ⟨⟨call, index⟩, among, rfl⟩ := List.mem_map.mp own
      exact ⟨_, index, rfl, List.mem_zipIdx_iff_getElem?.mp among, rfl⟩

theorem Expression.calls_of_mem_bindings {expression : Expression} {binding : Binding}
    (member : binding ∈ expression.bindings) :
    expression.Calls binding.place binding.instruction := by
  rcases mem_bindings member with added | ⟨plan, index, held, found, place⟩
  · exact .added added
  · rw [place]
    exact .own held found

namespace Session

variable {created : List Text} {history : History} {session : Session} {id : Text}
  {expression : Expression} {place : Place} {call : Instruction}

theorem Tied.has_of_call? (tied : session.Tied created history)
    (found : session.expression? id = some expression) {plan : Plan} {inner : Nat}
    (held : expression.plan? = some plan) (among : plan.call? inner = some call) :
    history.Has (inner :: expression.place) call := by
  obtain ⟨index, here, known⟩ := tied.own id expression found
  rw [held] at known
  exact ⟨index, inner, _, plan, by rw [here], known, among⟩

theorem Tied.has_of_mem_bindings (tied : session.Tied created history)
    (found : session.expression? id = some expression) {binding : Binding}
    (member : binding ∈ expression.bindings) :
    history.Has binding.place binding.instruction := by
  rcases Expression.mem_bindings member with added | ⟨plan, index, held, among, place⟩
  · exact tied.added id expression found binding added
  · rw [place]
    exact tied.has_of_call? found held among

/-- The calls of an expression are bound, and the book has the names in them. -/
theorem Tied.bound_of_calls (tied : session.Tied created history)
    (found : session.expression? id = some expression) (calls : expression.Calls place call) :
    call.Bound ∧ ∀ path name, call.textAt? path = some name →
      history.book (path.reverse ++ place) = some name := by
  have has {place : Place} {call : Instruction} (has : history.Has place call) :
      call.Bound ∧ ∀ path name, call.textAt? path = some name →
        history.book (path.reverse ++ place) = some name := by
    refine ⟨?_, fun path name held => has.book held⟩
    obtain ⟨index, inner, text, plan, _, known, among⟩ := has
    exact (tied.prepared _ (List.mem_of_getElem? known) plan rfl).bound
      (Plan.mem_calls_of_call? among)
  induction calls with
  | own held among => exact has (tied.has_of_call? found held among)
  | added member => exact has (tied.added id expression found _ member)
  | @argument place outer call index inner argument plan _ among held among' ih =>
    obtain ⟨bound, booked⟩ := ih
    obtain ⟨text, prepared⟩ := bound.prepared (List.mem_of_getElem? among) held
    refine ⟨prepared.bound (Plan.mem_calls_of_call? among'), fun path name stands => ?_⟩
    have outer := booked ((index + 1) :: inner :: path) name
      (by simp [Instruction.textAt?, among, held, among', stands])
    simpa using outer

theorem Tied.agrees_value (tied : session.Tied created history)
    (found : session.expression? id = some expression) (calls : expression.Calls place call)
    (who : Participants) :
    (call.value who place).Agrees (Scene.Stays created history.book) (call.value who place) := by
  obtain ⟨bound, booked⟩ := tied.bound_of_calls found calls
  exact bound.agrees Scene.alike_stays who place place fun path name held =>
    Scene.identifies_stays (booked path name held)

theorem Tied.agrees_number (tied : session.Tied created history)
    (found : session.expression? id = some expression) (who : Participants) :
    (expression.number who).Agrees (Scene.Stays created history.book) (expression.number who) :=
  Expression.compares_number Evaluation.composes_agrees fun _ member =>
    tied.agrees_value found (Expression.calls_of_mem_bindings member) who

theorem Tied.agrees_content (tied : session.Tied created history)
    (found : session.expression? id = some expression) (who : Participants) :
    (expression.content who).Agrees (Scene.Stays created history.book)
      (expression.content who) := by
  refine Expression.compares_content Evaluation.composes_agrees fun plan held plain => ?_
  obtain ⟨index, _, known⟩ := tied.own id expression found
  rw [held] at known
  have prepared : plan.Prepared expression.plain :=
    tied.prepared _ (List.mem_of_getElem? known) plan rfl
  have agrees : plan.Agrees (Scene.Stays created history.book) :=
    Plan.agrees_of_calls fun call member => (prepared.bound member).agrees Scene.alike_stays
  refine agrees who expression.place expression.place plain ?_
  intro inner call among path name stands
  have booked := (tied.bound_of_calls found (.own held among)).2 path name stands
  exact Scene.identifies_stays booked

end Session

end SceneFormula
