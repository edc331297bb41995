import SceneFormula.Expression.Fault

set_option autoImplicit false

namespace SceneFormula

/-- A part of a formula's text. -/
inductive Part where
  | verbatim (text : Text)
  | call (call : Call)

namespace Part

/-- The part as it is written. -/
def text : Part → Text
  | verbatim text => text
  | call cut => cut.source

def call? : Part → Option Call
  | verbatim _ => none
  | call cut => some cut

end Part

/-- The parts of a formula's text, up to the fault that ends them if there is one. -/
structure Draft where
  parts : List Part
  fault? : Option SyntaxFault

namespace Draft

def after (part : Part) (draft : Draft) : Draft :=
  ⟨part :: draft.parts, draft.fault?⟩

def stop (fault : SyntaxFault) : Draft := ⟨[], some fault⟩

/-- The draft of a text that starts at a position, after a character. Calls of the names that are
built in stay in the text, so that their arguments are read as parts of the formula. -/
def scan (isBuiltin : Name → Bool) (previous : Option Char) (position : Nat) : Text → Draft
  | [] => ⟨[], none⟩
  | c :: rest =>
    if c = Literal.quote then stop .literalInFormula
    else
      match named : if Name.startsAfter previous (c :: rest) then Name.front? (c :: rest) else none
      with
      | none => after (.verbatim [c]) (scan isBuiltin (some c) (position + 1) rest)
      | some name =>
        match _ : Call.front? position (c :: rest) with
        | .error fault => stop (.call fault)
        | .ok found =>
          if (found.isNone && !slotPrefix.isPrefixOf name.text) ||
              (found.isSome && isBuiltin name) then
            after (.verbatim name.text)
              (scan isBuiltin name.text.getLast? (position + name.text.length)
                ((c :: rest).drop name.text.length))
          else
            match found with
            | none => stop (.reservedName name)
            | some call =>
              after (.call call)
                (scan isBuiltin call.source.getLast? (position + call.source.length)
                  ((c :: rest).drop call.source.length))
termination_by text => text.length
decreasing_by
  · simp
  · have found : Name.front? (c :: rest) = some name := by
      split at named
      · exact named
      · cases named
    have := List.length_pos_iff.mpr (Name.text_ne_nil_of_front? found)
    simp only [List.length_drop, List.length_cons]
    omega
  · have := List.length_pos_iff.mpr (Call.source_ne_nil_of_front? ‹_›)
    simp only [List.length_drop, List.length_cons]
    omega

/-- The draft of a whole text. -/
def ofText (isBuiltin : Name → Bool) (text : Text) : Draft :=
  scan isBuiltin none 0 text

def calls (draft : Draft) : List Call :=
  draft.parts.filterMap Part.call?

/-- The text of parts with slots for their calls, counted from an index. -/
def rewriteFrom (index : Nat) : List Part → Text
  | [] => []
  | .verbatim text :: rest => text ++ rewriteFrom index rest
  | .call _ :: rest => slotName index ++ rewriteFrom (index + 1) rest

def rewritten (draft : Draft) : Text :=
  rewriteFrom 0 draft.parts

theorem length_lt_of_mem_scan {isBuiltin : Name → Bool} {previous : Option Char} {position : Nat}
    {text : Text} {call : Call} (member : call ∈ (scan isBuiltin previous position text).calls)
    {argument : Text} (among : argument ∈ call.arguments) : argument.length < text.length := by
  fun_induction scan isBuiltin previous position text with
  | case1 => simp [calls] at member
  | case2 => simp [calls, stop] at member
  | case3 previous position c rest _ _ ih =>
    have := ih (by simpa [calls, after, Part.call?] using member)
    simp only [List.length_cons]
    omega
  | case4 => simp [calls, stop] at member
  | case5 previous position c rest _ name _ found _ _ ih =>
    have shorter := ih (by simpa [calls, after, Part.call?] using member)
    simp only [List.length_drop, List.length_cons] at shorter ⊢
    omega
  | case6 => simp [calls, stop] at member
  | case7 previous position c rest _ name _ found called _ _ ih =>
    have member : call ∈ found :: calls _ := member
    rcases List.mem_cons.mp member with rfl | later
    · exact Call.length_lt_of_mem_arguments called among
    · have shorter := ih later
      simp only [List.length_drop, List.length_cons] at shorter ⊢
      omega

theorem length_lt_of_mem_calls {isBuiltin : Name → Bool} {text : Text} {call : Call}
    (member : call ∈ (ofText isBuiltin text).calls) {argument : Text}
    (among : argument ∈ call.arguments) : argument.length < text.length :=
  length_lt_of_mem_scan member among

end Draft
end SceneFormula
