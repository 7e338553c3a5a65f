import BranchingStory.Template.Expression
import BranchingStory.Template.Standard

/-!
Rendering of templates. A slot is an expression in two or three braces on either side; everything
else in a template stands for itself. What a slot renders is never looked at again.
-/

namespace BranchingStory.Template

/-! ### Evaluation -/

mutual

/-- The value of an expression. Arguments are evaluated from the left, and the first fault ends
it. -/
def value (r : Registry) (context : Context) : Expression → Except ExpressionFault (Option Value)
  | .absent => .ok none
  | .literal v => .ok (some v)
  | .path path => .ok (context.state.lookup? path)
  | .call name arguments =>
    match values r context arguments with
    | .error fault => .error fault
    | .ok vs =>
      match r.resolve? name with
      | none => .error (.missingHelper name)
      | some (name, helper) =>
        match helper context vs with
        | .error cause => .error (.helper name cause)
        | .ok v => .ok v

def values (r : Registry) (context : Context) :
    List Expression → Except ExpressionFault (List (Option Value))
  | [] => .ok []
  | e :: rest =>
    match value r context e with
    | .error fault => .error fault
    | .ok v =>
      match values r context rest with
      | .error fault => .error fault
      | .ok vs => .ok (v :: vs)

end

/-- The value of an expression that is given as text. Calls that nest too deep are refused before
anything is evaluated. -/
def valueOfText (r : Registry) (context : Context) (text : String) :
    Except ExpressionFault (Option Value) :=
  match Expression.parse r.contains text with
  | .error fault => .error fault
  | .ok e => if Expression.maxDepth < e.depth then .error .tooDeep else value r context e

/-! ### Slots -/

def isBrace (c : Char) : Bool := c = '\x7b' || c = '\x7d'

/-- The rest of a slot after its opening braces: the expression and how many characters were
taken. -/
def slotBody? (cs : List Char) : Option (List Char × Nat) :=
  let body := cs.takeWhile (fun c => !isBrace c)
  match cs.dropWhile (fun c => !isBrace c) with
  | '\x7d' :: '\x7d' :: '\x7d' :: _ => some (body, body.length + 3)
  | '\x7d' :: '\x7d' :: _ => some (body, body.length + 2)
  | _ => none

/-- A slot that begins with the first character: its expression and how long it is. -/
def slot? : List Char → Option (List Char × Nat)
  | '\x7b' :: '\x7b' :: '\x7b' :: rest => (slotBody? rest).map (fun s => (s.1, s.2 + 3))
  | '\x7b' :: '\x7b' :: rest => (slotBody? rest).map (fun s => (s.1, s.2 + 2))
  | _ => none

/-- A piece of a template. -/
inductive Segment where
  | literal (c : Char)
  | slot (expression : String)
  deriving Repr, DecidableEq

/-- The pieces of a template after `taken` characters that belong to the slot before. -/
def segmentsAfter : Nat → List Char → List Segment
  | _, [] => []
  | taken + 1, _ :: rest => segmentsAfter taken rest
  | 0, c :: rest =>
    match slot? (c :: rest) with
    | some (expression, size) => .slot (String.ofList expression) :: segmentsAfter (size - 1) rest
    | none => .literal c :: segmentsAfter 0 rest

/-- The pieces of a template. -/
def segments (template : String) : List Segment := segmentsAfter 0 template.toList

/-- The text of a slot's value, empty if there is none. -/
def slotText : Option Value → String
  | some v => v.toText
  | none => ""

/-- The characters that pieces render, or the first fault. -/
def renderSegments (r : Registry) (context : Context) :
    List Segment → Except ExpressionFault (List Char)
  | [] => .ok []
  | .literal c :: rest =>
    match renderSegments r context rest with
    | .error fault => .error fault
    | .ok cs => .ok (c :: cs)
  | .slot expression :: rest =>
    match valueOfText r context expression with
    | .error fault => .error fault
    | .ok v =>
      match renderSegments r context rest with
      | .error fault => .error fault
      | .ok cs => .ok ((slotText v).toList ++ cs)

/-! ### Templates and conditions -/

/-- The text of a template. -/
def render (r : Registry) (context : Context) (template : String) : Except Fault String :=
  match renderSegments r context (segments template) with
  | .error cause => .error (.template template cause)
  | .ok cs => .ok (String.ofList cs)

/-- An expression without the white space and the two braces around it. -/
def withoutBraces (expression : String) : String :=
  let trimmed := Text.trimChars expression.toList
  match trimmed with
  | '\x7b' :: '\x7b' :: rest =>
    match rest.reverse with
    | '\x7d' :: '\x7d' :: inner => String.ofList inner.reverse
    | _ => String.ofList trimmed
  | _ => String.ofList trimmed

/-- The value of an expression, with or without braces. -/
def evaluate (r : Registry) (context : Context) (expression : String) :
    Except Fault (Option Value) :=
  match valueOfText r context (withoutBraces expression) with
  | .error cause => .error (.template expression cause)
  | .ok v => .ok v

/-- Whether a condition holds: its value is there and counts as true. -/
def holds (r : Registry) (context : Context) (condition : String) : Except Fault Bool :=
  match evaluate r context condition with
  | .error fault => .error fault
  | .ok v => .ok (Standard.truthy v)

end BranchingStory.Template
