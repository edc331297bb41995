import SceneFormula.Function.Library
import SceneFormula.Proofs.StandardEngine

set_option autoImplicit false

namespace SceneFormula

theorem isNamePart_of_mem_slotName {index : Nat} {c : Char} (member : c ∈ slotName index) :
    isNamePart c = true := by
  rcases List.mem_append.mp member with front | digits
  · have each : slotPrefix.all isNamePart = true := by decide
    exact List.all_eq_true.mp each c front
  · have digit := Nat.isDigit_of_mem_toDigits (by decide) (by decide) digits
    simp [isNamePart, Char.isAlphanum, digit]

theorem isKnownName_append_slotPrefix {count : Nat} {rest : Text} :
    isKnownName count (slotPrefix ++ rest) = (slotNamed? count (slotPrefix ++ rest)).isSome := by
  have builtin : Builtin.named? (slotPrefix ++ rest) = none := by
    rw [Builtin.named?, List.find?_eq_none]
    have each : ∀ b ∈ Builtin.all, b.name.head? ≠ some '_' := by decide
    intro b member same
    apply each b member
    rw [of_decide_eq_true same]
    rfl
  have constant : Constant.named? (slotPrefix ++ rest) = none := by
    rfl
  rw [isKnownName, builtin, constant]
  simp

theorem isDigit_of_isKnownName {count index : Nat} {tail : Text}
    (known : isKnownName count (slotName index ++ tail) = true) {c : Char} (member : c ∈ tail) :
    c.isDigit = true := by
  rw [slotName, List.append_assoc, isKnownName_append_slotPrefix] at known
  obtain ⟨other, found⟩ := Option.isSome_iff_exists.mp known
  have same := List.find?_some found
  simp only [slotName, decide_eq_true_eq, List.append_cancel_left_eq] at same
  refine Nat.isDigit_of_mem_toDigits (b := 10) (n := other) (by decide) (by decide) ?_
  rw [same]
  exact List.mem_append_right _ member

/-- A name that is no slot's stays so in front of another text, if that starts as what followed the
name before. -/
theorem Text.wordsAfter_name_append {previous : Option Char} {text rest : Text} {name : Name}
    (starts : Name.startsAfter previous text = true) (first : Name.front? text = some name)
    (unslotted : slotPrefix.isPrefixOf name.text = false)
    (same : rest.head? = (text.drop name.text.length).head?) :
    ∃ word, wordsAfter previous (name.text ++ rest) =
        word :: wordsAfter name.text.getLast? rest ∧ slotPrefix.isPrefixOf word = false := by
  have starts : Name.startsAfter previous name.text = true :=
    (Name.startsAfter_eq_of_head? (Name.head?_text_of_front? first) previous).trans starts
  have split :=
    wordsAfter_append_of_startsAfter rest starts fun _ => Name.blocks_of_mem_text first
  refine ⟨_, split, ?_⟩
  rw [Bool.eq_false_iff] at unslotted ⊢
  intro slotted
  exact unslotted (List.isPrefixOf_iff_prefix.mpr
    ((List.isPrefixOf_iff_prefix.mp slotted).trans (Name.takeWhile_text_append first same)))

/-- A slot's name and what goes on with it is a word. If the word is known no other starts right
after the slot: its first character would be part of this word. -/
theorem Text.wordsAfter_slotName_append {count index : Nat} {previous : Option Char} {text : Text}
    (starts : Name.startsAfter previous text = true) (rest : Text) (next : Option Char)
    (known : ∀ word ∈ wordsAfter previous (slotName index ++ rest), isKnownName count word = true) :
    wordsAfter previous (slotName index ++ rest) =
      (slotName index ++ rest.takeWhile isNamePart) :: wordsAfter next rest := by
  have starts : Name.startsAfter previous (slotName index) = true := by
    simp only [Name.startsAfter, Bool.and_eq_true] at starts ⊢
    exact ⟨rfl, starts.2⟩
  have split := wordsAfter_append_of_startsAfter rest starts fun c member =>
    blocks_of_isNamePart (isNamePart_of_mem_slotName member)
  rw [List.takeWhile_append_of_pos fun c => isNamePart_of_mem_slotName] at split
  rw [split] at known ⊢
  refine congrArg _ (wordsAfter_eq_of_not_start ?_ _ _)
  intro c head
  rw [Bool.eq_false_iff]
  intro start
  obtain ⟨others, rfl⟩ := List.head?_eq_some_iff.mp head
  rw [List.takeWhile_cons_of_pos (isNamePart_of_isNameStart start)] at known
  have digit := isDigit_of_isKnownName (known _ List.mem_cons_self) List.mem_cons_self
  simp only [isNameStart, Bool.or_eq_true, isAlpha_iff, decide_eq_true_eq,
    eq_underscore_iff] at start
  rw [isDigit_iff] at digit
  omega

theorem Call.source_append_drop_of_front? {position : Nat} {text : Text} {call : Call}
    (found : front? position text = .ok (some call)) :
    call.source ++ text.drop call.source.length = text := by
  simp only [front?] at found
  split at found
  · cases found
  · split at found
    · split at found
      · cases found
      · split at found
        · cases found
        · cases found
          exact List.prefix_iff_eq_append.mp (List.take_prefix _ _)
    · cases found

namespace Draft

def slotWordsFrom (index : Nat) : List Part → List Text
  | [] => []
  | .verbatim _ :: rest => slotWordsFrom index rest
  | .call _ :: rest =>
    (slotName index ++ (rewriteFrom (index + 1) rest).takeWhile isNamePart) ::
      slotWordsFrom (index + 1) rest

/-- Whether a digit stands directly after a call. -/
def digitFollowsCall : List Part → Bool
  | [] => false
  | .verbatim _ :: rest => digitFollowsCall rest
  | .call _ :: rest =>
    (rest.flatMap Part.text).head?.any Char.isDigit || digitFollowsCall rest

theorem startsAfter_of_named {previous : Option Char} {text : Text} {name : Name}
    (named : (if _ : Name.startsAfter previous text = true then Name.front? text else none) =
      some name) :
    Name.startsAfter previous text = true ∧ Name.front? text = some name := by
  split at named
  · exact ⟨‹_›, named⟩
  · cases named

theorem startsAfter_of_unnamed {previous : Option Char} {text : Text}
    (unnamed : (if _ : Name.startsAfter previous text = true then Name.front? text else none) =
      none) :
    Name.startsAfter previous text = false := by
  split at unnamed
  · have named := Name.isSome_front?_of_startsAfter ‹_›
    rw [unnamed] at named
    cases named
  · exact Bool.eq_false_iff.mpr ‹_›

section Scan

variable {isBuiltin : Name → Bool} {previous : Option Char} {position : Nat} {text : Text}

theorem flatMap_text_scan (faultless : (scan isBuiltin previous position text).fault? = none) :
    (scan isBuiltin previous position text).parts.flatMap Part.text = text := by
  fun_induction scan isBuiltin previous position text with
  | case1 => rfl
  | case2 => cases faultless
  | case3 previous position c rest _ _ ih =>
    exact congrArg (c :: ·) (ih faultless)
  | case4 => cases faultless
  | case5 previous position c rest _ name named found _ _ ih =>
    rw [after, List.flatMap_cons, ih faultless]
    exact Name.text_append_drop_of_front? (startsAfter_of_named named).2
  | case6 => cases faultless
  | case7 previous position c rest _ name _ found called _ _ ih =>
    rw [after, List.flatMap_cons, ih faultless]
    exact Call.source_append_drop_of_front? called

theorem text_ne_nil_of_mem_scan {part : Part}
    (member : part ∈ (scan isBuiltin previous position text).parts) : part.text ≠ [] := by
  fun_induction scan isBuiltin previous position text with
  | case1 => cases member
  | case2 => cases member
  | case3 previous position c rest _ _ ih =>
    rcases List.mem_cons.mp member with rfl | later
    · exact List.cons_ne_nil c []
    · exact ih later
  | case4 => cases member
  | case5 previous position c rest _ name named _ _ _ ih =>
    rcases List.mem_cons.mp member with rfl | later
    · exact Name.text_ne_nil_of_front? (startsAfter_of_named named).2
    · exact ih later
  | case6 => cases member
  | case7 previous position c rest _ name _ found called _ _ ih =>
    rcases List.mem_cons.mp member with rfl | later
    · exact Call.source_ne_nil_of_front? called
    · exact ih later

theorem head?_rewriteFrom_scan (index : Nat)
    (faultless : (scan isBuiltin previous position text).fault? = none)
    (blocked : Name.startsAfter previous text = false) :
    (rewriteFrom index (scan isBuiltin previous position text).parts).head? = text.head? := by
  fun_induction scan isBuiltin previous position text with
  | case1 => rfl
  | case2 => cases faultless
  | case3 => rfl
  | case4 => cases faultless
  | case5 _ _ _ _ _ _ named =>
    rw [blocked] at named
    cases named
  | case6 => cases faultless
  | case7 _ _ _ _ _ _ named =>
    rw [blocked] at named
    cases named

/-- No slot stands directly before a word if every word is known: the words are then those of the
slots in the places of the calls, and others that name no slot. -/
theorem filter_wordsAfter_rewriteFrom {count index : Nat}
    (builtins : ∀ name, isBuiltin name = true → slotPrefix.isPrefixOf name.text = false)
    (faultless : (scan isBuiltin previous position text).fault? = none)
    (known : ∀ word ∈ Text.wordsAfter previous
        (rewriteFrom index (scan isBuiltin previous position text).parts),
      isKnownName count word = true) :
    (Text.wordsAfter previous
        (rewriteFrom index (scan isBuiltin previous position text).parts)).filter
        slotPrefix.isPrefixOf =
      slotWordsFrom index (scan isBuiltin previous position text).parts := by
  -- a slot's word is known only if nothing is glued to it, which is what rules out a digit behind
  -- it
  fun_induction scan isBuiltin previous position text generalizing index with
  | case1 => rfl
  | case2 => cases faultless
  | case3 previous position c rest _ unnamed ih =>
    have unstarted := startsAfter_of_unnamed unnamed
    have none (others : Text) : Name.startsAfter previous (c :: others) = false :=
      (Name.startsAfter_eq_of_head? rfl previous).trans unstarted
    simp only [after, rewriteFrom, List.singleton_append, Text.wordsAfter, none, Bool.false_eq_true,
      if_false, slotWordsFrom] at known ⊢
    exact ih faultless known
  | case4 => cases faultless
  | case5 previous position c rest _ name named found _ verbatim ih =>
    obtain ⟨starts, first⟩ := startsAfter_of_named named
    have unslotted : slotPrefix.isPrefixOf name.text = false := by
      simp only [Bool.or_eq_true, Bool.and_eq_true, Bool.not_eq_true'] at verbatim
      exact verbatim.elim And.right fun builtin => builtins name builtin.2
    have blocked : Name.startsAfter name.text.getLast? ((c :: rest).drop name.text.length) =
        false := by
      have last := List.getLast?_eq_some_getLast (Name.text_ne_nil_of_front? first)
      rw [Name.startsAfter, last, Option.any_some, Bool.and_eq_false_iff, Bool.not_eq_false']
      exact .inr (Name.blocks_of_mem_text first (List.getLast_mem _))
    obtain ⟨word, split, other⟩ := Text.wordsAfter_name_append starts first unslotted
      (head?_rewriteFrom_scan index faultless blocked)
    simp only [after, rewriteFrom, split, slotWordsFrom] at known ⊢
    rw [List.filter_cons_of_neg (by simp [other])]
    exact ih faultless fun word member => known word (List.mem_cons_of_mem _ member)
  | case6 => cases faultless
  | case7 previous position c rest _ name named found called _ _ ih =>
    obtain ⟨starts, first⟩ := startsAfter_of_named named
    have split := Text.wordsAfter_slotName_append starts _ found.source.getLast? known
    simp only [after, rewriteFrom, split, slotWordsFrom] at known ⊢
    have slotted (rest : Text) : slotPrefix.isPrefixOf (slotName index ++ rest) = true := by
      rw [List.isPrefixOf_iff_prefix, slotName, List.append_assoc]
      exact List.prefix_append _ _
    rw [List.filter_cons_of_pos (slotted _)]
    exact congrArg _ (ih faultless fun word member => known word (List.mem_cons_of_mem _ member))

end Scan

/-- A slot's word ends with the slot's name unless a digit comes directly after the call. -/
theorem takeWhile_rewriteFrom_eq_nil_iff {count index next : Nat} {parts : List Part}
    (filled : ∀ part ∈ parts, part.text ≠ [])
    (known : isKnownName count
      (slotName index ++ (rewriteFrom next parts).takeWhile isNamePart) = true) :
    (rewriteFrom next parts).takeWhile isNamePart = [] ↔
      (parts.flatMap Part.text).head?.any Char.isDigit = false := by
  have digits {c : Char} := isDigit_of_isKnownName known (c := c)
  cases parts with
  | nil => simp [rewriteFrom]
  | cons part rest =>
    cases part with
    | verbatim text =>
      cases text with
      | nil => exact absurd rfl (filled _ List.mem_cons_self)
      | cons c text =>
        simp only [rewriteFrom, List.cons_append, List.flatMap_cons, Part.text, List.head?_cons,
          Option.any_some]
        rw [← Bool.not_eq_true]
        constructor
        · intro ends digit
          have part : isNamePart c = true := by simp [isNamePart, Char.isAlphanum, digit]
          rw [List.takeWhile_cons_of_pos part] at ends
          cases ends
        · intro other
          rw [List.takeWhile_cons]
          split
          · rename_i part
            refine absurd (digits ?_) other
            rw [rewriteFrom, List.cons_append, List.takeWhile_cons_of_pos part]
            exact List.mem_cons_self
          · rfl
    | call cut =>
      exact absurd (digits (c := '_') List.mem_cons_self) (by decide)

/-- The words of the slots are the slots' names if and only if no digit directly follows a call. -/
theorem slotWordsFrom_eq_iff {count index : Nat} {parts : List Part}
    (filled : ∀ part ∈ parts, part.text ≠ [])
    (known : ∀ word ∈ slotWordsFrom index parts, isKnownName count word = true) :
    slotWordsFrom index parts =
        (List.range' index (parts.filterMap Part.call?).length).map slotName ↔
      digitFollowsCall parts = false := by
  induction parts generalizing index with
  | nil => simp [slotWordsFrom, digitFollowsCall]
  | cons part rest ih =>
    have others : ∀ part ∈ rest, part.text ≠ [] := fun part member =>
      filled part (List.mem_cons_of_mem _ member)
    cases part with
    | verbatim text => exact ih others known
    | call cut =>
      have first := takeWhile_rewriteFrom_eq_nil_iff others (known _ List.mem_cons_self)
      have later := ih others fun word member => known word (List.mem_cons_of_mem _ member)
      simp only [slotWordsFrom, Part.call?, List.filterMap_cons, List.length_cons,
        List.range'_succ, List.map_cons, List.cons.injEq, List.append_right_eq_self, first, later,
        digitFollowsCall, Bool.or_eq_false_iff]

end Draft

namespace Compiled

/-- The names of slots in the source, as the source is cut into tokens. -/
def slotTokens (compiled : Compiled) : List Text :=
  (Token.names (Token.cut compiled.source).1).filter slotPrefix.isPrefixOf

end Compiled

theorem isPrefixOf_eq_false_of_isBuiltinCall {functions : Registry} {name : Name}
    (builtin : isBuiltinCall functions name = true) :
    slotPrefix.isPrefixOf name.text = false := by
  simp only [isBuiltinCall, Bool.and_eq_true, Option.isNone_iff_eq_none] at builtin
  obtain ⟨⟨free, named⟩, -⟩ := builtin
  obtain ⟨object, member⟩ := name
  subst free
  obtain ⟨b, found⟩ := Option.isSome_iff_exists.mp named
  have same : b.name = member := by simpa using List.find?_some found
  have each : ∀ b ∈ Builtin.all, slotPrefix.isPrefixOf b.name = false := by decide
  change slotPrefix.isPrefixOf member = false
  exact same ▸ each b (List.mem_of_find?_eq_some found)

theorem Draft.slotTokens_eq_iff_of_parse {functions : Registry} {engine : FormulaEngine}
    {text : Text} {compiled : Compiled} (apart : engine.KeepsNamesApart)
    (faultless : (ofText (isBuiltinCall functions) text).fault? = none)
    (parsed : Compiled.parse engine (ofText (isBuiltinCall functions) text).rewritten
      (ofText (isBuiltinCall functions) text).calls.length = .ok compiled) :
    compiled.slotTokens =
        (List.range (ofText (isBuiltinCall functions) text).calls.length).map slotName ↔
      digitFollowsCall (ofText (isBuiltinCall functions) text).parts = false := by
  obtain ⟨source, -, -, -⟩ := Compiled.of_parse parsed
  obtain ⟨names, known⟩ := Compiled.names_eq_wordsAfter apart parsed
  have slots : compiled.slotTokens =
      slotWordsFrom 0 (ofText (isBuiltinCall functions) text).parts := by
    rw [Compiled.slotTokens, source, names]
    exact filter_wordsAfter_rewriteFrom (fun _ => isPrefixOf_eq_false_of_isBuiltinCall)
      faultless known
  have among : ∀ word ∈ slotWordsFrom 0 (ofText (isBuiltinCall functions) text).parts,
      isKnownName (max (ofText (isBuiltinCall functions) text).calls.length 1) word = true := by
    intro word member
    rw [← slots, Compiled.slotTokens, source, names] at member
    exact known word (List.mem_of_mem_filter member)
  rw [slots, List.range_eq_range']
  exact slotWordsFrom_eq_iff (fun _ => text_ne_nil_of_mem_scan) among

namespace Expression

end Expression

end SceneFormula
