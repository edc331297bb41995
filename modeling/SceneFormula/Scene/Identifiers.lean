import SceneFormula.Scene.Table
import SceneFormula.Text.Quoted

set_option autoImplicit false

namespace SceneFormula

/-- Why an identifier cannot be used. -/
inductive IdentifierFault where
  | reservedFirst
  | reservedIdentifier
  | unknownOwner (name : Text)
deriving DecidableEq

def noObject : Int := 0

namespace IdentifierFault

def message : IdentifierFault → Text
  | reservedFirst => Text.lit "first_id must differ from NO_OBJECT"
  | reservedIdentifier => Text.lit "Cannot assign the NO_OBJECT identifier"
  | unknownOwner name => name.quoted

end IdentifierFault

/-- The least number from a counter on that is not taken. -/
def leastFree (taken : List Int) (counter : Int) : Int :=
  if counter ∈ taken then leastFree taken (counter + 1) else counter
termination_by taken.countP (counter ≤ ·)
decreasing_by
  rename_i member
  have split : taken.countP (fun n => decide (counter ≤ n)) =
      taken.countP (fun n => decide (counter + 1 ≤ n)) + taken.count counter := by
    clear member
    induction taken with
    | nil => rfl
    | cons n rest ih =>
      simp only [List.countP_cons, List.count_cons, beq_iff_eq, decide_eq_true_eq]
      split <;> split <;> split <;> omega
  have := List.count_pos_iff.mpr member
  omega

/-- The names of objects with their identifiers, and the identifiers with their names. -/
structure Identifiers where
  autoAssign : Bool
  next : Int
  oids : Table Text Int
  names : Table Int Text

namespace Identifiers

def empty (autoAssign : Bool) (first : Int) : Identifiers := ⟨autoAssign, first, .empty, .empty⟩

def start (autoAssign : Bool) (first : Int) : Except IdentifierFault Identifiers :=
  if first = noObject then .error .reservedFirst else .ok (empty autoAssign first)

def size (ids : Identifiers) : Nat := ids.oids.size

def idOf? (ids : Identifiers) (name : Text) : Option Int := ids.oids.get? name

def nameOf? (ids : Identifiers) (oid : Int) : Option Text := ids.names.get? oid

def bind (ids : Identifiers) (name : Text) (oid : Int) : Identifiers :=
  { ids with oids := ids.oids.set name oid, names := ids.names.set oid name }

theorem idOf?_bind (ids : Identifiers) (name other : Text) (oid : Int) :
    (ids.bind name oid).idOf? other = if other = name then some oid else ids.idOf? other :=
  ids.oids.get?_set name other oid

theorem nameOf?_bind (ids : Identifiers) (name : Text) (oid other : Int) :
    (ids.bind name oid).nameOf? other = if other = oid then some name else ids.nameOf? other :=
  ids.names.get?_set oid other name

def release (ids : Identifiers) (name : Text) : Identifiers :=
  match ids.idOf? name with
  | some previous => { ids with names := ids.names.erase previous }
  | none => ids

/-- Take an identifier from the name that it belongs to, unless this is a certain name. -/
def evict (ids : Identifiers) (name : Text) (oid : Int) : Except IdentifierFault Identifiers :=
  match ids.nameOf? oid with
  | some owner =>
    if owner = name then .ok ids
    else if (ids.idOf? owner).isNone then .error (.unknownOwner owner)
    else .ok { ids with oids := ids.oids.erase owner }
  | none => .ok ids

/-- Bind a name to an identifier of choice, in place of what both were bound to. What has been
freed for this stays free if it fails later. -/
def assign (ids : Identifiers) (name : Text) (oid : Int) :
    Except IdentifierFault Unit × Identifiers :=
  if oid = noObject then (.error .reservedIdentifier, ids)
  else
    let released := ids.release name
    match released.evict name oid with
    | .ok evicted => (.ok (), evicted.bind name oid)
    | .error fault => (.error fault, released)

def assigns (ids : Identifiers) (name : Text) : Bool :=
  ids.autoAssign && (ids.idOf? name).isNone

/-- The identifier of a name: its own, a new one, or that of no object. -/
def lookup (ids : Identifiers) (name : Text) : Int × Identifiers :=
  match ids.idOf? name with
  | some oid => (oid, ids)
  | none =>
    if ids.autoAssign then
      let oid := leastFree ids.names.keys ids.next
      (oid, { ids with next := oid + 1 }.bind name oid)
    else (noObject, ids)

end Identifiers

/-- A step with names and identifiers. -/
inductive NamingStep where
  | lookup (name : Text)
  | nameOf (oid : Int)
  | assign (name : Text) (oid : Int)
  | contains (name : Text)
  | size
  | setAuto (autoAssign : Bool)

/-- What a step with names and identifiers gives. -/
inductive NamingAnswer where
  | oid (n : Int)
  | name (name? : Option Text)
  | flag (b : Bool)
  | count (n : Nat)
  | done

namespace Identifiers

def take (ids : Identifiers) : NamingStep → Except IdentifierFault NamingAnswer × Identifiers
  | .lookup name => ((.ok (.oid (ids.lookup name).1)), (ids.lookup name).2)
  | .nameOf oid => (.ok (.name (ids.nameOf? oid)), ids)
  | .assign name oid => ((ids.assign name oid).1.map fun _ => .done, (ids.assign name oid).2)
  | .contains name => (.ok (.flag (ids.idOf? name).isSome), ids)
  | .size => (.ok (.count ids.size), ids)
  | .setAuto autoAssign => (.ok .done, { ids with autoAssign })

end Identifiers
end SceneFormula
