import BranchingStory.Fault

/-!
Reading the entries of a script. An entry is read by the first rule whose key it has: actions, a
condition with its branches, a jump, and last a dialogue with its choices. Every instruction inside
an entry, however deep, carries the location of the entry.
-/

namespace BranchingStory.Script

/-- A field that is written and not null. -/
def present? (key : String) (fields : List (String × Json)) : Option Json :=
  (Keyed.get? key fields).filter (fun tree => !tree.isNull)

/-- The first of several keys that is written. -/
def firstWritten? (keys : List String) (fields : List (String × Json)) : Option Json :=
  keys.findSome? (fun key => Keyed.get? key fields)

/-- The first of several keys that is written and not null. -/
def firstPresent? (keys : List String) (fields : List (String × Json)) : Option Json :=
  keys.findSome? (fun key => present? key fields)

/-- The actions that are written in a field, if it is there. -/
def actionsOf (written : Option Json) : List Json := (written.map Json.asList).getD []

/-- The choice of an object, with actions that are read apart from the rest. -/
def choiceWith (location : Location) (fields : List (String × Json)) (actions : List Json) :
    Except Fault ChoiceOption :=
  match (firstPresent? ["text", "say"] fields).bind Json.scalarText? with
  | none => .error (.script .choiceWithoutText location)
  | some text =>
    .ok
      { text
        target := (firstPresent? ["target", "goto", "jump"] fields).bind Json.scalarText?
        condition := (Keyed.get? "if" fields).bind Json.scalarText?
        actions }

/-- A choice of a dialogue. -/
def readChoice (location : Location) : Json → Except Fault ChoiceOption
  | .text text => .ok (.plain text)
  | .object fields =>
    choiceWith location fields (actionsOf (firstWritten? ["actions", "action"] fields))
  | _ => .error (.script .invalidChoice location)

/-- The choices in a list, up to the first that is none. -/
def readChoices (location : Location) : List Json → Except Fault (List ChoiceOption)
  | [] => .ok []
  | entry :: rest =>
    match readChoice location entry with
    | .error fault => .error fault
    | .ok choice =>
      match readChoices location rest with
      | .error fault => .error fault
      | .ok choices => .ok (choice :: choices)

/-- The keys that make an entry a dialogue. -/
def dialogueKeys : List String := ["say", "text", "speaker", "choices", "choice"]

/-- A dialogue. A list of no choices counts as none. -/
def readDialogue (location : Location) (fields : List (String × Json)) :
    Except Fault Instruction :=
  let text := ((firstPresent? ["say", "text"] fields).bind Json.scalarText?).getD ""
  let speaker := (Keyed.get? "speaker" fields).bind Json.scalarText?
  match firstPresent? ["choices", "choice"] fields with
  | none => .ok (.dialogue speaker text [] none location)
  | some written =>
    match readChoices location written.asList with
    | .error fault => .error fault
    | .ok [] => .ok (.dialogue speaker text [] none location)
    | .ok choices => .ok (.dialogue speaker text [] (some choices) location)

mutual

/-- The instruction of an entry. -/
def readInstruction (location : Location) (entry : Json) : Except Fault Instruction :=
  match entry with
  | .text text => .ok (.dialogue none text [] none location)
  | .object fields =>
    match firstWritten? ["actions", "action"] fields with
    | some written => .ok (.action written.asList location)
    | none =>
      match Keyed.get? "if" fields with
      | some condition =>
        match condition.scalarText? with
        | none => .error (.script .conditionNotText location)
        | some condition =>
          match readBranch location fields "then" with
          | .error fault => .error fault
          | .ok thenBranch =>
            match readBranch location fields "else" with
            | .error fault => .error fault
            | .ok elseBranch =>
              .ok (.conditional condition (thenBranch.getD []) elseBranch location)
      | none =>
        match firstWritten? ["goto", "jump"] fields with
        | some target =>
          match target.scalarText? with
          | none => .error (.script .targetNotText location)
          | some target => .ok (.jump target location)
        | none =>
          if dialogueKeys.any (fun key => Keyed.contains key fields) then
            readDialogue location fields
          else .error (.script .invalidInstruction location)
  | _ => .error (.script .invalidInstruction location)
termination_by (sizeOf entry, 1)

/-- The instructions of a branch, if it is written. -/
def readBranch (location : Location) (fields : List (String × Json)) (key : String) :
    Except Fault (Option (List Instruction)) :=
  match _found : Keyed.get? key fields with
  | none => .ok none
  | some written =>
    match readSequence location written.asList with
    | .error fault => .error fault
    | .ok instructions => .ok (some instructions)
termination_by (sizeOf (Json.object fields), 0)
decreasing_by exact Prod.Lex.left _ _ (Json.sizeOf_asList_lt _found)

/-- The instructions of a list of entries, up to the first that is none. -/
def readSequence (location : Location) (entries : List Json) : Except Fault (List Instruction) :=
  match entries with
  | [] => .ok []
  | entry :: rest =>
    match readInstruction location entry with
    | .error fault => .error fault
    | .ok instruction =>
      match readSequence location rest with
      | .error fault => .error fault
      | .ok instructions => .ok (instruction :: instructions)
termination_by (sizeOf entries, 0)

end

end BranchingStory.Script
