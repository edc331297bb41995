import SceneFormula.Proofs.Drafting
import SceneFormula.Proofs.NameTokens
import SceneFormula.Proofs.Registrations

set_option autoImplicit false

namespace SceneFormula

/-- Texts with gaps around and between them. -/
def Text.filled : List Text → List Text → Text
  | gap :: gaps, fill :: fills => gap ++ (fill ++ filled gaps fills)
  | gap :: _, [] => gap
  | [], _ => []

theorem Text.filled_modifyHead {gaps : List Text} (first : gaps ≠ []) (front : Text)
    (fills : List Text) :
    filled (gaps.modifyHead (front ++ ·)) fills = front ++ filled gaps fills := by
  cases gaps with
  | nil => exact absurd rfl first
  | cons gap gaps => cases fills <;> simp [filled]

theorem Text.getLast?_append_or {front : Text} (ne : front ≠ []) (rest : Text)
    (previous : Option Char) :
    (front ++ rest).getLast?.or previous = rest.getLast?.or front.getLast? := by
  rw [List.getLast?_append, Option.or_assoc, List.getLast?_eq_some_getLast ne, Option.some_or]

namespace Draft

def gaps : List Part → List Text
  | [] => [[]]
  | .verbatim text :: rest => (gaps rest).modifyHead (text ++ ·)
  | .call _ :: rest => [] :: gaps rest

theorem length_gaps (parts : List Part) :
    (gaps parts).length = (parts.filterMap Part.call?).length + 1 := by
  induction parts with
  | nil => rfl
  | cons part parts ih =>
    cases part with
    | verbatim text =>
      rw [gaps, List.length_modifyHead]
      exact ih
    | call cut => exact congrArg (· + 1) ih

theorem gaps_ne_nil (parts : List Part) : gaps parts ≠ [] :=
  List.ne_nil_of_length_pos (by rw [length_gaps]; omega)

theorem filled_gaps_source (parts : List Part) :
    Text.filled (gaps parts) ((parts.filterMap Part.call?).map Call.source) =
      parts.flatMap Part.text := by
  induction parts with
  | nil => rfl
  | cons part parts ih =>
    cases part with
    | verbatim text =>
      rw [gaps, Text.filled_modifyHead (gaps_ne_nil parts)]
      exact congrArg (text ++ ·) ih
    | call cut => exact congrArg (cut.source ++ ·) ih

theorem filled_gaps_slotName (index : Nat) (parts : List Part) :
    Text.filled (gaps parts)
        ((List.range' index (parts.filterMap Part.call?).length).map slotName) =
      rewriteFrom index parts := by
  induction parts generalizing index with
  | nil => rfl
  | cons part parts ih =>
    cases part with
    | verbatim text =>
      rw [gaps, Text.filled_modifyHead (gaps_ne_nil parts)]
      exact congrArg (text ++ ·) (ih index)
    | call cut => exact congrArg (slotName index ++ ·) (ih (index + 1))

/-- With only the calls before one in them, the gaps are the text before that one. -/
theorem filled_gaps_append (before : List Part) (cut : Call) (after : List Part) :
    Text.filled (gaps (before ++ .call cut :: after))
        ((before.filterMap Part.call?).map Call.source) = before.flatMap Part.text := by
  induction before with
  | nil => rfl
  | cons part before ih =>
    cases part with
    | verbatim text =>
      rw [List.cons_append, gaps, Text.filled_modifyHead (gaps_ne_nil _)]
      exact congrArg (text ++ ·) ih
    | call first => exact congrArg (first.source ++ ·) ih

theorem exists_append_of_getElem? {parts : List Part} {i : Nat} {cut : Call}
    (found : (parts.filterMap Part.call?)[i]? = some cut) :
    ∃ before after, parts = before ++ .call cut :: after ∧
      before.filterMap Part.call? = (parts.filterMap Part.call?).take i := by
  induction parts generalizing i with
  | nil => cases found
  | cons part parts ih =>
    cases part with
    | verbatim text =>
      obtain ⟨before, after, rfl, same⟩ := ih found
      exact ⟨.verbatim text :: before, after, rfl, same⟩
    | call first =>
      cases i with
      | zero =>
        cases found
        exact ⟨[], parts, rfl, rfl⟩
      | succ i =>
        obtain ⟨before, after, rfl, same⟩ := ih found
        exact ⟨.call first :: before, after, rfl, congrArg (first :: ·) same⟩

theorem not_mem_of_mem_gaps {c : Char} {parts : List Part}
    (each : ∀ text, Part.verbatim text ∈ parts → c ∉ text) {gap : Text}
    (member : gap ∈ gaps parts) : c ∉ gap := by
  induction parts generalizing gap with
  | nil =>
    cases List.mem_singleton.mp member
    exact List.not_mem_nil
  | cons part parts ih =>
    have later {gap : Text} (member : gap ∈ gaps parts) : c ∉ gap :=
      ih (fun text among => each text (List.mem_cons_of_mem part among)) member
    cases part with
    | verbatim text =>
      rw [gaps] at member
      cases shape : gaps parts with
      | nil => exact absurd shape (gaps_ne_nil parts)
      | cons first others =>
        rw [shape, List.modifyHead_cons] at member
        rw [shape] at later
        rcases List.mem_cons.mp member with rfl | among
        · rw [List.mem_append]
          exact fun inside => inside.elim (each text List.mem_cons_self)
            (later List.mem_cons_self)
        · exact later (List.mem_cons_of_mem first among)
    | call cut =>
      rcases List.mem_cons.mp member with rfl | among
      · exact List.not_mem_nil
      · exact later among

section Cuts

variable {isBuiltin : Name → Bool} {previous : Option Char} {text : Text}

theorem Cuts.quote_not_mem {parts : List Part} (cuts : Cuts isBuiltin previous text parts)
    {kept : Text} (member : .verbatim kept ∈ parts) : Literal.quote ∉ kept := by
  induction cuts with
  | nil => cases member
  | character unquoted _ _ ih =>
    rcases List.mem_cons.mp member with same | later
    · cases same
      simpa [eq_comm] using unquoted
    · exact ih later
  | name _ named _ _ ih =>
    rcases List.mem_cons.mp member with same | later
    · cases same
      intro inside
      exact absurd (Name.blocks_of_mem_text named inside) (by decide)
    · exact ih later
  | call _ _ _ _ ih =>
    rcases List.mem_cons.mp member with same | later
    · cases same
    · exact ih later

theorem Cuts.flatMap_text {parts : List Part} (cuts : Cuts isBuiltin previous text parts) :
    parts.flatMap Part.text = text := by
  induction cuts with
  | nil => rfl
  | character _ _ _ ih => exact congrArg ([_] ++ ·) ih
  | name _ _ _ _ ih => exact congrArg (_ ++ ·) ih
  | call _ _ _ _ ih => exact congrArg (_ ++ ·) ih

/-- A call among the parts of a text stands, as it is written, behind the parts before it, and at a
place where a name starts. -/
theorem Cuts.exists_rest {before after : List Part} {cut : Call}
    (cuts : Cuts isBuiltin previous text (before ++ .call cut :: after)) :
    ∃ rest, text = before.flatMap Part.text ++ (cut.source ++ rest) ∧ cut.Written ∧
      Name.startsAfter ((before.flatMap Part.text).getLast?.or previous) (cut.source ++ rest) =
        true := by
  generalize shape : before ++ .call cut :: after = parts at cuts
  induction cuts generalizing before with
  | nil => simp at shape
  | character _ _ _ ih =>
    cases before with
    | nil => cases shape
    | cons part before =>
      cases shape
      obtain ⟨rest, rfl, written, starts⟩ := ih rfl
      refine ⟨rest, rfl, written, ?_⟩
      rw [List.flatMap_cons, Part.text, Text.getLast?_append_or (List.cons_ne_nil _ _)]
      exact starts
  | name _ named _ _ ih =>
    cases before with
    | nil => cases shape
    | cons part before =>
      cases shape
      obtain ⟨rest, rfl, written, starts⟩ := ih rfl
      refine ⟨rest, by simp [Part.text], written, ?_⟩
      rw [List.flatMap_cons, Part.text, Text.getLast?_append_or (Name.text_ne_nil_of_front? named)]
      exact starts
  | @call previous first text parts here written _ _ ih =>
    cases before with
    | nil =>
      cases shape
      exact ⟨text, rfl, written, here⟩
    | cons part before =>
      cases shape
      obtain ⟨c, source, same, -⟩ := written.exists_cons
      obtain ⟨rest, rfl, written, starts⟩ := ih rfl
      refine ⟨rest, by simp [Part.text], written, ?_⟩
      rw [List.flatMap_cons, Part.text, Text.getLast?_append_or (by simp [same])]
      exact starts

theorem Cuts.exists_rest_of_getElem? {parts : List Part} {i : Nat} {cut : Call}
    (cuts : Cuts isBuiltin previous text parts)
    (found : (parts.filterMap Part.call?)[i]? = some cut) :
    let front := Text.filled (gaps parts) (((parts.filterMap Part.call?).take i).map Call.source)
    ∃ rest, text = front ++ (cut.source ++ rest) ∧ cut.Written ∧
      Name.startsAfter (front.getLast?.or previous) (cut.source ++ rest) = true := by
  obtain ⟨before, after, rfl, same⟩ := exists_append_of_getElem? found
  rw [← same, filled_gaps_append]
  exact cuts.exists_rest

end Cuts

/-- What holds of all names that start in a text without quotes holds of the calls in its draft. If
none of the names is a slot's, only a call can be at fault. -/
theorem scan_of_names {isBuiltin : Name → Bool} {holds : Name → Prop} {previous : Option Char}
    {position : Nat} {text : Text} (unquoted : Literal.quote ∉ text)
    (each : ∀ front rest name, text = front ++ rest →
      Name.startsAfter (front.getLast?.or previous) rest = true → Name.front? rest = some name →
      holds name ∧ slotPrefix.isPrefixOf name.text = false) :
    (∀ cut ∈ (scan isBuiltin previous position text).calls,
      holds cut.name ∧ isBuiltin cut.name = false) ∧
    ∀ fault, (scan isBuiltin previous position text).fault? = some fault →
      ∃ cause, fault = .call cause := by
  -- every name that the scan comes to starts in the text, so the hypothesis speaks of it
  fun_induction scan isBuiltin previous position text with
  | case1 =>
    refine ⟨List.forall_mem_nil _, ?_⟩
    rintro _ ⟨⟩
  | case2 => exact absurd List.mem_cons_self unquoted
  | case3 previous position c rest _ _ ih =>
    refine ih (fun inside => unquoted (List.mem_cons_of_mem c inside)) ?_
    intro front behind name split starts
    exact each (c :: front) behind name (by rw [split, List.cons_append])
      (by rwa [Text.getLast?_cons_or])
  | case4 previous position c rest _ name _ fault =>
    refine ⟨List.forall_mem_nil _, ?_⟩
    rintro _ ⟨⟩
    exact ⟨fault, rfl⟩
  | case5 previous position c rest _ name named found _ _ ih =>
    obtain ⟨-, first⟩ := startsAfter_of_named named
    have whole := Name.text_append_drop_of_front? first
    refine ih (fun inside => unquoted (List.mem_of_mem_drop inside)) ?_
    intro front behind other split starts
    refine each (name.text ++ front) behind other ?_ ?_
    · rw [List.append_assoc, ← split, whole]
    · rwa [Text.getLast?_append_or (Name.text_ne_nil_of_front? first)]
  | case6 previous position c rest _ name named _ _ changed =>
    obtain ⟨starts, first⟩ := startsAfter_of_named named
    obtain ⟨-, unslotted⟩ := each [] (c :: rest) name rfl starts first
    simp [unslotted] at changed
  | case7 previous position c rest _ name named cut called _ changed ih =>
    obtain ⟨starts, first⟩ := startsAfter_of_named named
    have same : cut.name = name := Option.some.inj ((Call.front?_name called).symm.trans first)
    have whole := Call.source_append_drop_of_front? called
    obtain ⟨later, faults⟩ := ih (fun inside => unquoted (List.mem_of_mem_drop inside)) <| by
      intro front behind other split starts
      refine each (cut.source ++ front) behind other ?_ ?_
      · rw [List.append_assoc, ← split, whole]
      · rwa [Text.getLast?_append_or (Call.source_ne_nil_of_front? called)]
    refine ⟨fun other member => ?_, faults⟩
    rcases List.mem_cons.mp member with rfl | among
    · rw [same]
      exact ⟨(each [] (c :: rest) name rfl starts first).1, by simpa using changed⟩
    · exact later other among

end Draft

namespace Plan

/-- What a formula's text and its calls are when they are handed over to be compiled. -/
def handOver (functions : Registry) (engine : FormulaEngine) (plain : Text) :
    Attempt (Text × List Instruction) := do
  let draft := Draft.ofText (isBuiltinCall functions) plain
  let calls ← Attempt.forEach draft.calls fun cut _ =>
    Instruction.ofCall functions .number cut fun argument _ kind =>
      prepare functions engine kind argument
  match draft.fault? with
  | some fault => Attempt.fail fault
  | none => return (draft.rewritten, calls)

variable {functions : Registry} {engine : FormulaEngine} {plain source : Text}
  {calls : List Instruction}

theorem handOver_result_eq_ok_iff :
    (handOver functions engine plain).result = .ok (source, calls) ↔
      (Draft.ofText (isBuiltinCall functions) plain).fault? = none ∧
      source = (Draft.ofText (isBuiltinCall functions) plain).rewritten ∧
      List.Forall₂ (fun cut call => call.Binds functions .number
          (fun kind plain plan => (prepare functions engine kind plain).result = .ok plan) cut)
        (Draft.ofText (isBuiltinCall functions) plain).calls calls := by
  rw [handOver]
  simp only [Attempt.bind_result_eq_ok_iff, Attempt.forEach_result_eq_ok_iff,
    Instruction.ofCall_result_eq_ok_iff]
  constructor
  · rintro ⟨found, bound, done⟩
    split at done
    · cases done
    · rename_i faultless
      cases done
      exact ⟨faultless, rfl, bound⟩
  · rintro ⟨faultless, rfl, bound⟩
    refine ⟨calls, bound, ?_⟩
    rw [faultless]
    rfl

theorem handOver_of_fault {fault : SyntaxFault}
    (uncalled : (Draft.ofText (isBuiltinCall functions) plain).calls = [])
    (known : (Draft.ofText (isBuiltinCall functions) plain).fault? = some fault) :
    (handOver functions engine plain).result = .error (.fault fault) := by
  have done : (Attempt.forEach (Draft.ofText (isBuiltinCall functions) plain).calls fun cut _ =>
      Instruction.ofCall functions .number cut fun argument _ kind =>
        prepare functions engine kind argument).result = .ok [] := by
    rw [Attempt.forEach_result_eq_ok_iff, uncalled]
    exact .nil
  rw [handOver]
  refine (Attempt.bind_result_of_ok done).trans ?_
  rw [known]
  rfl

theorem handOver_of_unresolved {cut : Call} {others : List Call}
    (calls : (Draft.ofText (isBuiltinCall functions) plain).calls = cut :: others)
    (unresolved : functions.resolve cut.name.text .number = none) :
    (handOver functions engine plain).result =
      .error (.fault (.unknownFunction cut.name .number)) := by
  have failed : (Attempt.forEach (Draft.ofText (isBuiltinCall functions) plain).calls fun cut _ =>
      Instruction.ofCall functions .number cut fun argument _ kind =>
        prepare functions engine kind argument).result =
          .error (.fault (.unknownFunction cut.name .number)) := by
    rw [calls]
    refine Attempt.bind_result_of_error ?_
    simp only [Instruction.ofCall, unresolved]
    rfl
  rw [handOver]
  exact Attempt.bind_result_of_error failed

theorem prepare_eq_handOver_bind (functions : Registry) (engine : FormulaEngine) (plain : Text) :
    prepare functions engine .number plain = (do
      let (source, calls) ← handOver functions engine plain
      return .formula (← Compiled.attempt engine source calls.length) calls) := by
  rw [prepare, handOver]
  refine Eq.trans ?_ (Attempt.bind_assoc _ _ _).symm
  refine congrArg (Attempt.bind _) (funext fun calls => ?_)
  cases (Draft.ofText (isBuiltinCall functions) plain).fault? <;> rfl

end Plan

/-- Whether a call is bound as it is found at a position of a text. -/
structure Instruction.FoundAt (call : Instruction) (text : Text) (position : Nat) (cut : Call) :
    Prop where
  found : Call.front? position (text.drop position) = .ok (some cut)
  source : call.source = cut.source
  object : call.object? = cut.name.object?
  name : call.function.name = cut.name.member
  arguments : call.arguments.map Argument.plain = cut.arguments

namespace Instruction.Binds

variable {functions : Registry} {returns : ValueKind} {prepared : ValueKind → Text → Plan → Prop}
  {cut : Call} {call : Instruction}

theorem name_function (binds : call.Binds functions returns prepared cut)
    (wellFormed : cut.name.WellFormed) : call.function.name = cut.name.member := by
  have undotted : '.' ∉ cut.name.member := fun inside =>
    absurd (Name.isNamePart_of_mem wellFormed.member inside) (by decide)
  have key := List.find?_some binds.resolved
  rw [decide_eq_true_eq, Registry.keyOf] at key
  have same := congrArg FunctionKey.name key
  generalize cut.name = made at undotted same ⊢
  obtain ⟨object?, member⟩ := made
  cases object? with
  | none => rwa [Name.text, if_neg undotted] at same
  | some object => rwa [Name.text, if_pos (by simp), Registry.afterLastDot_append undotted] at same

/-- The arguments of a call are kept as they are written. -/
theorem map_plain_arguments (binds : call.Binds functions returns prepared cut) :
    call.arguments.map Argument.plain = cut.arguments := by
  have each : List.Forall₂ Eq (call.arguments.map Argument.plain)
      ((cut.arguments.zip call.function.parameters).map Prod.fst) := by
    refine List.forall₂_map_left_iff.mpr (List.forall₂_map_right_iff.mpr ?_)
    refine binds.fits.flip.imp fun argument pair fits => ?_
    cases argument with
    | name text => exact fits.1
    | prepared text plan => exact fits.1
  rw [List.forall₂_eq_eq_eq] at each
  rw [each, List.map_fst_zip (by rw [binds.arity])]

end Instruction.Binds

theorem Instruction.exists_of_getElem? {functions : Registry} {returns : ValueKind}
    {prepared : ValueKind → Text → Plan → Prop} {cuts : List Call} {calls : List Instruction}
    (bound : List.Forall₂ (fun cut call => call.Binds functions returns prepared cut) cuts calls)
    {i : Nat} {call : Instruction} (found : calls[i]? = some call) :
    ∃ cut, cuts[i]? = some cut ∧ call.Binds functions returns prepared cut := by
  obtain ⟨inside, rfl⟩ := List.getElem?_eq_some_iff.mp found
  have size := bound.length_eq
  exact ⟨_, List.getElem?_eq_getElem (by omega), bound.get (by omega) inside⟩

namespace Plan

variable {functions : Registry} {engine : FormulaEngine} {plain source : Text}
  {calls : List Instruction}

theorem exists_parts_of_handOver
    (reached : (handOver functions engine plain).result = .ok (source, calls)) :
    ∃ parts, Draft.Cuts (isBuiltinCall functions) none plain parts ∧
      source = Draft.rewriteFrom 0 parts ∧
      List.Forall₂ (fun cut call => call.Binds functions .number
          (fun kind plain plan => (prepare functions engine kind plain).result = .ok plan) cut)
        (parts.filterMap Part.call?) calls := by
  obtain ⟨faultless, rfl, bound⟩ := handOver_result_eq_ok_iff.mp reached
  exact ⟨_, Draft.cuts_of_faultless faultless, rfl, bound⟩

/-- Whether the text that is handed over is as it is written, but for slots in the places of its
calls. The gaps between them hold no quote, and each call is bound as it is found where it
stands. -/
structure Substitutes (plain source : Text) (calls : List Instruction) (gaps : List Text) :
    Prop where
  count : gaps.length = calls.length + 1
  unquoted : ∀ gap ∈ gaps, Literal.quote ∉ gap
  written : plain = Text.filled gaps (calls.map Instruction.source)
  slotted : source = Text.filled gaps ((List.range calls.length).map slotName)
  bound : ∀ i call, calls[i]? = some call → ∃ cut, Instruction.FoundAt call plain
    (Text.filled gaps ((calls.take i).map Instruction.source)).length cut

theorem substitutes_gaps {parts : List Part}
    (cuts : Draft.Cuts (isBuiltinCall functions) none plain parts)
    (bound : List.Forall₂ (fun cut call => call.Binds functions .number
        (fun kind plain plan => (prepare functions engine kind plain).result = .ok plan) cut)
      (parts.filterMap Part.call?) calls) :
    Substitutes plain (Draft.rewriteFrom 0 parts) calls (Draft.gaps parts) := by
  have size : (parts.filterMap Part.call?).length = calls.length := bound.length_eq
  have sources := Instruction.map_source_of_binds bound
  constructor
  · rw [Draft.length_gaps, size]
  · exact fun gap => Draft.not_mem_of_mem_gaps fun text => cuts.quote_not_mem
  · rw [sources, Draft.filled_gaps_source, cuts.flatMap_text]
  · rw [← Draft.filled_gaps_slotName, size, List.range_eq_range']
  · intro i call found
    obtain ⟨cut, among, binds⟩ := Instruction.exists_of_getElem? bound found
    obtain ⟨rest, here, spelled, -⟩ := cuts.exists_rest_of_getElem? among
    rw [List.map_take, sources, ← List.map_take]
    refine ⟨cut, ?_, binds.source, binds.object, binds.name_function spelled.name,
      binds.map_plain_arguments⟩
    rw [here, List.drop_left]
    exact Call.front?_eq_ok_some_iff.mpr ⟨spelled, List.prefix_append _ _⟩

theorem calls_eq_nil_of_unshadowed
    (reached : (handOver functions engine plain).result = .ok (source, calls))
    (whole : (Token.cut plain).2 = [])
    (unshadowed : ∀ word ∈ Token.names (Token.cut plain).1, functions.resolve word .number = none) :
    calls = [] := by
  obtain ⟨parts, cuts, -, bound⟩ := exists_parts_of_handOver reached
  cases calls with
  | nil => rfl
  | cons call calls =>
    exfalso
    obtain ⟨cut, among, binds⟩ := Instruction.exists_of_getElem? bound List.getElem?_cons_zero
    obtain ⟨rest, here, spelled, starts⟩ := cuts.exists_rest_of_getElem? among
    have called : Call.front? 0 (cut.source ++ rest) = .ok (some cut) :=
      Call.front?_eq_ok_some_iff.mpr ⟨spelled, List.prefix_append _ _⟩
    obtain ⟨-, word⟩ := Token.mem_names_of_startsAfter whole here starts (Call.front?_name called)
    have unresolved := unshadowed _ word
    rw [binds.resolved] at unresolved
    cases unresolved

/-- A text without calls is handed over as it is. -/
theorem Substitutes.eq_of_nil {gaps : List Text} (substitutes : Substitutes plain source [] gaps) :
    source = plain := by
  rw [substitutes.slotted, substitutes.written]
  rfl

theorem isPrefixOf_eq_false_of_isKnownName {word : Text} (known : isKnownName 0 word = true) :
    slotPrefix.isPrefixOf word = false := by
  rw [Bool.eq_false_iff]
  intro slotted
  obtain ⟨rest, rfl⟩ := List.isPrefixOf_iff_prefix.mp slotted
  rw [isKnownName_append_slotPrefix] at known
  cases known

/-- A call by a known word that is not left to the formula is that of a constant. -/
theorem isSome_constant_of_foreign {made : Name} (free : made.object? = none)
    (known : isKnownName 0 made.text = true)
    (unshadowed : functions.resolve made.text .number = none)
    (foreign : isBuiltinCall functions made = false) :
    (Constant.named? made.text).isSome = true := by
  obtain ⟨object?, member⟩ := made
  subst free
  have unbuilt : (Builtin.named? member).isSome = false := by
    simpa [isBuiltinCall, unshadowed] using foreign
  have unslotted : slotNamed? 0 member = none := rfl
  change isKnownName 0 member = true at known
  change (Constant.named? member).isSome = true
  simpa [isKnownName, unbuilt, unslotted] using known

/-- In a text of tokens whose words are known by themselves, and not as functions of the scene, only
constants are called, and only a call can be at fault. -/
theorem draft_of_known (whole : (Token.cut plain).2 = [])
    (known : ∀ word ∈ Token.names (Token.cut plain).1,
      isKnownName 0 word = true ∧ functions.resolve word .number = none) :
    (∀ cut ∈ (Draft.ofText (isBuiltinCall functions) plain).calls,
      (Constant.named? cut.name.text).isSome = true ∧
        functions.resolve cut.name.text .number = none) ∧
    ∀ fault, (Draft.ofText (isBuiltinCall functions) plain).fault? = some fault →
      ∃ cause, fault = .call cause := by
  have each : ∀ front rest made, plain = front ++ rest →
      Name.startsAfter (front.getLast?.or none) rest = true → Name.front? rest = some made →
      (made.object? = none ∧ isKnownName 0 made.text = true ∧
        functions.resolve made.text .number = none) ∧
        slotPrefix.isPrefixOf made.text = false := by
    intro front rest made split starts named
    obtain ⟨free, word⟩ := Token.mem_names_of_startsAfter whole split starts named
    obtain ⟨own, unshadowed⟩ := known _ word
    exact ⟨⟨free, own, unshadowed⟩, isPrefixOf_eq_false_of_isKnownName own⟩
  obtain ⟨foreign, faults⟩ := Draft.scan_of_names (Token.quote_not_mem_of_cut whole) each
  refine ⟨fun cut member => ?_, faults⟩
  obtain ⟨⟨free, own, unshadowed⟩, strange⟩ := foreign cut member
  exact ⟨isSome_constant_of_foreign free own unshadowed strange, unshadowed⟩

/-- A text of tokens whose words are known by themselves, and not as functions of the scene, is
handed over as it is, unless a call in it is at fault or made by the name of a constant. -/
theorem handOver_of_known (whole : (Token.cut plain).2 = [])
    (known : ∀ word ∈ Token.names (Token.cut plain).1,
      isKnownName 0 word = true ∧ functions.resolve word .number = none) :
    (handOver functions engine plain).result = .ok (plain, []) ∨
      (∃ cause, (handOver functions engine plain).result = .error (.fault (.call cause))) ∨
      ∃ made, (Constant.named? made.text).isSome = true ∧
        (handOver functions engine plain).result =
          .error (.fault (.unknownFunction made .number)) := by
  obtain ⟨foreign, faults⟩ := draft_of_known whole known
  cases calls : (Draft.ofText (isBuiltinCall functions) plain).calls with
  | nil =>
    cases known : (Draft.ofText (isBuiltinCall functions) plain).fault? with
    | none =>
      have reached : (handOver functions engine plain).result =
          .ok ((Draft.ofText (isBuiltinCall functions) plain).rewritten, []) :=
        handOver_result_eq_ok_iff.mpr ⟨known, rfl, calls ▸ .nil⟩
      obtain ⟨parts, cuts, same, bound⟩ := exists_parts_of_handOver reached
      rw [same, (substitutes_gaps cuts bound).eq_of_nil] at reached
      exact .inl reached
    | some fault =>
      obtain ⟨cause, rfl⟩ := faults fault known
      exact .inr (.inl ⟨cause, handOver_of_fault calls known⟩)
  | cons cut others =>
    obtain ⟨constant, unshadowed⟩ := foreign cut (calls ▸ List.mem_cons_self)
    exact .inr (.inr ⟨cut.name, constant, handOver_of_unresolved calls unshadowed⟩)

/-- A formula is compiled as it is written but for slots in the places of its calls. A text of
tokens whose words are no functions of the scene has no calls, and where its words are built in,
it is compiled unchanged unless a call in it is at fault or made by the name of a constant. -/
theorem substitutes_of_handOver (functions : Registry) (engine : FormulaEngine) (plain : Text) :
    prepare functions engine .number plain = (do
      let (source, calls) ← handOver functions engine plain
      return .formula (← Compiled.attempt engine source calls.length) calls) ∧
    (∀ source calls, (handOver functions engine plain).result = .ok (source, calls) →
      (∃ gaps, Substitutes plain source calls gaps) ∧
      ((Token.cut plain).2 = [] →
        (∀ word ∈ Token.names (Token.cut plain).1, functions.resolve word .number = none) →
        source = plain ∧ calls = [])) ∧
    ((Token.cut plain).2 = [] →
      (∀ word ∈ Token.names (Token.cut plain).1,
        isKnownName 0 word = true ∧ functions.resolve word .number = none) →
      (handOver functions engine plain).result = .ok (plain, []) ∨
        (∃ cause, (handOver functions engine plain).result = .error (.fault (.call cause))) ∨
        ∃ made, (Constant.named? made.text).isSome = true ∧
          (handOver functions engine plain).result =
            .error (.fault (.unknownFunction made .number))) := by
  refine ⟨prepare_eq_handOver_bind functions engine plain,
    fun source calls reached => ⟨?_, ?_⟩, handOver_of_known⟩
  · obtain ⟨parts, cuts, rfl, bound⟩ := exists_parts_of_handOver reached
    exact ⟨_, substitutes_gaps cuts bound⟩
  · intro whole unshadowed
    obtain rfl := calls_eq_nil_of_unshadowed reached whole unshadowed
    obtain ⟨parts, cuts, rfl, bound⟩ := exists_parts_of_handOver reached
    exact ⟨(substitutes_gaps cuts bound).eq_of_nil, rfl⟩

/-- Two calls inside of one that is built in. -/
theorem substitutes_of_handOver_wrapped :
    let plain := Text.lit "max(Random(10), Player.X()) * 2"
    ∃ source calls gaps,
      (handOver Registry.empty.insertLibrary .standard plain).result = .ok (source, calls) ∧
      source = Text.lit "max(_slot0, _slot1) * 2" ∧
      calls.map Instruction.source = [Text.lit "Random(10)", Text.lit "Player.X()"] ∧
      Substitutes plain source calls gaps := by
  intro plain
  have handed : (handOver Registry.empty.insertLibrary .standard plain).result.toOption.map
        (fun (source, calls) => (source, calls.map Instruction.source)) =
      some (Text.lit "max(_slot0, _slot1) * 2",
        [Text.lit "Random(10)", Text.lit "Player.X()"]) := by decide +kernel
  cases reached : (handOver Registry.empty.insertLibrary .standard plain).result with
  | error fault =>
    rw [reached] at handed
    cases handed
  | ok found =>
    obtain ⟨source, calls⟩ := found
    rw [reached] at handed
    obtain ⟨-, substituted, -⟩ :=
      substitutes_of_handOver Registry.empty.insertLibrary .standard plain
    obtain ⟨⟨gaps, substitutes⟩, -⟩ := substituted source calls reached
    simp only [Except.toOption, Option.map_some, Option.some.injEq, Prod.mk.injEq] at handed
    exact ⟨source, calls, gaps, rfl, handed.1, handed.2, substitutes⟩

end Plan

end SceneFormula
