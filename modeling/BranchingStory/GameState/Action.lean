import BranchingStory.Fault
import BranchingStory.GameState.Basic

/-!
Actions that change the state of a game. A descriptor is checked before anything is changed, and a
list of descriptors is carried out as a whole or not at all.
-/

namespace BranchingStory

/-- A checked change of the state. -/
inductive Action where
  | setVariable (key : String) (value : Value)
  | addToVariable (key : String) (amount : Float)
  | setFlag (flag : String)
  | clearFlag (flag : String)
  | addToList (list : String) (item : Value)
  | setList (list : String) (items : List Value)
  | addTime (minutes : Float)

namespace Action

/-- What is written under the first of several names that is written at all; null counts as
nothing. -/
def field? (names : List String) (fields : List (String × Json)) : Option Json :=
  (names.findSome? (fun name => Keyed.get? name fields)).filter (fun tree => !tree.isNull)

/-- A text that must not be empty; `name` is the one to complain about. -/
def requiredText (name other : String) (fields : List (String × Json)) :
    Except ActionFault String :=
  match field? [name, other] fields with
  | some (.text s) => if s = "" then .error (.missingText name) else .ok s
  | _ => .error (.missingText name)

/-- A value that must be there. -/
def requiredValue (name : String) (others : List String) (fields : List (String × Json)) :
    Except ActionFault Value :=
  match (field? (name :: others) fields).bind Value.ofJson? with
  | some v => .ok v
  | none => .error (.missingValue name)

/-- A number that must be there. -/
def requiredNumber (name other : String) (fields : List (String × Json)) :
    Except ActionFault Float :=
  match (field? [name, other] fields).bind Json.float? with
  | some x => .ok x
  | none => .error (.missingNumber name)

/-- The kinds of actions. -/
inductive Kind where
  | setVariable
  | addToVariable
  | setFlag
  | clearFlag
  | addToList
  | setList
  | addTime
  deriving Repr, DecidableEq

/-- The kind of a name. -/
def Kind.ofText? (type : String) : Option Kind :=
  if type = "setVariable" || type = "set_variable" then some .setVariable
  else if type = "addToVariable" || type = "add_to_variable" then some .addToVariable
  else if type = "setFlag" || type = "set_flag" then some .setFlag
  else if type = "clearFlag" || type = "clear_flag" then some .clearFlag
  else if type = "addToList" || type = "add_to_list" then some .addToList
  else if type = "setList" || type = "set_list" then some .setList
  else if type = "addTime" || type = "add_time" then some .addTime
  else none

/-- The action of a kind with the parts in the fields of its descriptor. -/
def ofFields (kind : Kind) (fields : List (String × Json)) : Except ActionFault Action :=
  match kind with
  | .setVariable => do
    return .setVariable (← requiredText "key" "variable" fields) (← requiredValue "value" [] fields)
  | .addToVariable => do
    return .addToVariable (← requiredText "key" "variable" fields)
      (← requiredNumber "value" "amount" fields)
  | .setFlag => do return .setFlag (← requiredText "flag" "key" fields)
  | .clearFlag => do return .clearFlag (← requiredText "flag" "key" fields)
  | .addToList => do
    return .addToList (← requiredText "list" "key" fields) (← requiredValue "value" ["item"] fields)
  | .setList => do
    let list ← requiredText "list" "key" fields
    match ← requiredValue "values" ["value"] fields with
    | .list items => return .setList list items
    | other => throw (.notAList other.kind)
  | .addTime => do return .addTime (← requiredNumber "minutes" "value" fields)

/-- The kind that is named in the fields of a descriptor. -/
def kindOf (fields : List (String × Json)) : Except ActionFault Kind :=
  match (Keyed.get? "type" fields).bind Json.text? with
  | none => .error .missingType
  | some type =>
    match Kind.ofText? type with
    | none => .error (.unknownType type)
    | some kind => .ok kind

/-- Checks a descriptor, naming only the cause of a failure. -/
def check : Json → Except ActionFault Action
  | .object fields => do ofFields (← kindOf fields) fields
  | _ => .error .notAnObject

/-- The action of a descriptor. -/
def ofDescriptor (descriptor : Json) : Except Fault Action :=
  match check descriptor with
  | .ok action => .ok action
  | .error cause => .error (.action descriptor cause)

/-- The actions of a list of descriptors, or the failure of the first that is none. -/
def ofDescriptors : List Json → Except Fault (List Action)
  | [] => .ok []
  | descriptor :: rest =>
    match ofDescriptor descriptor with
    | .error fault => .error fault
    | .ok action =>
      match ofDescriptors rest with
      | .error fault => .error fault
      | .ok actions => .ok (action :: actions)

/-- The state after an action. -/
def apply (s : GameState) : Action → GameState
  | .setVariable key value => s.setVariable key value
  | .addToVariable key amount => (s.addToVariable key amount).2
  | .setFlag flag => s.setFlag flag
  | .clearFlag flag => s.clearFlag flag
  | .addToList list item => s.addToList list item
  | .setList list items => s.setList list items
  | .addTime minutes => (s.addTime minutes).2

/-- The state after a list of actions. -/
def applyAll (s : GameState) (actions : List Action) : GameState := actions.foldl apply s

/-- Checks all descriptors, then carries them out in order. -/
def run (s : GameState) (descriptors : List Json) : Except Fault GameState :=
  match ofDescriptors descriptors with
  | .error fault => .error fault
  | .ok actions => .ok (applyAll s actions)

end Action

end BranchingStory
