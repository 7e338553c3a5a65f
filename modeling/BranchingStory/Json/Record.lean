import BranchingStory.Json.Basic

/-!
Records in data trees. A record is written as an object with named fields, or as a list with the
fields in their fixed order. Reading is strict: a field of the wrong kind refuses the whole record,
and unknown names are passed over.
-/

namespace BranchingStory.Json

/-- The parts of a record. -/
inductive Record where
  | named (fields : List (String × Json))
  | placed (items : List Json)

namespace Record

/-- A tree as a record with the given field names. A known name may be written only once, and a list
may not be longer than the record. -/
def of? (names : List String) : Json → Option Record
  | .object fields =>
    if names.all (fun name => decide ((Keyed.keys fields).count name ≤ 1)) then some (.named fields)
    else none
  | .list items => if items.length ≤ names.length then some (.placed items) else none
  | _ => none

/-- What is written for the field `name`, which stands at `place` in a list. -/
def find? (r : Record) (place : Nat) (name : String) : Option Json :=
  match r with
  | .named fields => Keyed.get? name fields
  | .placed items => items[place]?

/-- A field that must be written. -/
def required {α : Type} (r : Record) (place : Nat) (name : String) (read : Json → Option α) :
    Option α := do
  read (← r.find? place name)

/-- A field with a default for when it is not written. -/
def withDefault {α : Type} (r : Record) (place : Nat) (name : String) (default : α)
    (read : Json → Option α) : Option α :=
  match r.find? place name with
  | some tree => read tree
  | none => some default

/-- A field that may be missing from an object, but not from a list. -/
def optional {α : Type} (r : Record) (place : Nat) (name : String) (read : Json → Option α) :
    Option (Option α) :=
  match r, r.find? place name with
  | _, some .null => some none
  | _, some tree => (read tree).map some
  | .named _, none => some none
  | .placed _, none => none

end Record

/-- A value that may be null. -/
def nullable {α : Type} (read : Json → Option α) : Json → Option (Option α)
  | .null => some none
  | tree => (read tree).map some

/-- A list of values of one kind. -/
def listOf {α : Type} (read : Json → Option α) : Json → Option (List α)
  | .list items => items.mapM read
  | _ => none

end BranchingStory.Json
