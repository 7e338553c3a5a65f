import BranchingStory.Template.Helper
import BranchingStory.Text.Case

/-!
The helpers that every story has: arithmetic, comparison, logic, collections, the state of the game,
texts and assets.
-/

namespace BranchingStory.Template.Standard

/-! ### Arguments -/

/-- The argument at a place; one that is not given counts as absent. -/
def argument? (arguments : List (Option Value)) (i : Nat) : Option Value := (arguments[i]?).join

/-- The text of the argument at a place, empty if it is absent. -/
def textArgument (arguments : List (Option Value)) (i : Nat) : String :=
  ((argument? arguments i).map Value.toText).getD ""

def truthy : Option Value → Bool
  | some v => v.truthy
  | none => false

/-- A value as a number: truth values count one and zero, and a text counts if it writes a
number. -/
def coerce? : Value → Option Float
  | .number x => some x
  | .bool b => some (if b then 1 else 0)
  | .text s => Decimal.float? (Text.trim s)
  | .list _ => none
  | .map _ => none

/-! ### Arithmetic -/

/-- All arguments as numbers, or the fault of the first that is none. -/
def numbers (helper : String) : List (Option Value) → Except HelperFault (List Float)
  | [] => .ok []
  | argument :: rest =>
    match argument.bind coerce? with
    | none => .error (.notNumeric helper (argument.map Value.kind))
    | some x =>
      match numbers helper rest with
      | .error fault => .error fault
      | .ok xs => .ok (x :: xs)

/-- Takes numbers together from the left. -/
def foldNumbers (op : Float → Float → Except HelperFault Float) :
    Float → List Float → Except HelperFault Float
  | total, [] => .ok total
  | total, x :: rest =>
    match op total x with
    | .error fault => .error fault
    | .ok next => foldNumbers op next rest

/-- A helper that takes two or more numbers together. -/
def arithmetic (helper : String) (op : Float → Float → Except HelperFault Float) : Helper :=
  fun _ arguments =>
    match numbers helper arguments with
    | .error fault => .error fault
    | .ok (first :: second :: rest) =>
      (foldNumbers op first (second :: rest)).map (fun total => some (.number total))
    | .ok _ => .error (.tooFewArguments helper)

def quotient (x y : Float) : Except HelperFault Float :=
  if y == 0 then .error .divisionByZero else .ok (x / y)

/-! ### Comparison -/

/-- Whether two arguments are the same; absent ones are. -/
def equal : Option Value → Option Value → Bool
  | none, none => true
  | some v, some w => v.same w
  | _, _ => false

/-- The order of two texts by code points. -/
def orderOfTexts (s t : String) : Ordering :=
  if s < t then .lt else if s = t then .eq else .gt

/-- The order of two numbers; not-a-number has none. -/
def orderOfNumbers? (x y : Float) : Option Ordering :=
  if x < y then some .lt
  else if x == y then some .eq
  else if y < x then some .gt
  else none

/-- The order of two values, if they have one. -/
def order? : Value → Value → Option Ordering
  | .text s, .text t => some (orderOfTexts s t)
  | v, w =>
    match coerce? v, coerce? w with
    | some x, some y => orderOfNumbers? x y
    | _, _ => none

/-- A helper that gives a truth value. -/
def predicate (test : Context → List (Option Value) → Bool) : Helper :=
  fun context arguments => .ok (some (.bool (test context arguments)))

/-- A helper that tests the order of its first two arguments. -/
def comparison (test : Ordering → Bool) : Helper :=
  predicate fun _ arguments =>
    match argument? arguments 0, argument? arguments 1 with
    | some v, some w =>
      match order? v w with
      | some o => test o
      | none => false
    | _, _ => false

/-! ### Collections -/

/-- How many characters, items or entries a value has. -/
def length : Option Value → Nat
  | some (.text s) => s.length
  | some (.list items) => items.length
  | some (.map entries) => entries.length
  | _ => 0

/-- The items of a list; any other value has none. -/
def items : Option Value → List Value
  | some (.list vs) => vs
  | _ => []

/-- The text of all arguments together. -/
def joined (arguments : List (Option Value)) : String :=
  String.join (arguments.map (fun argument => (argument.map Value.toText).getD ""))

/-! ### The registry -/

/-- The helpers of every story. -/
def helpers : List (String × Helper) := [
  ("add", arithmetic "add" (fun x y => .ok (x + y))),
  ("subtract", arithmetic "subtract" (fun x y => .ok (x - y))),
  ("multiply", arithmetic "multiply" (fun x y => .ok (x * y))),
  ("divide", arithmetic "divide" quotient),
  ("eq", predicate fun _ as => equal (argument? as 0) (argument? as 1)),
  ("neq", predicate fun _ as => !equal (argument? as 0) (argument? as 1)),
  ("gt", comparison Ordering.isGT),
  ("lt", comparison Ordering.isLT),
  ("gte", comparison Ordering.isGE),
  ("lte", comparison Ordering.isLE),
  ("and", predicate fun _ as => !as.isEmpty && as.all truthy),
  ("or", predicate fun _ as => as.any truthy),
  ("not", predicate fun _ as => !truthy (argument? as 0)),
  ("length", fun _ as => .ok (some (.number (Float.ofNat (length (argument? as 0)))))),
  ("first", fun _ as => .ok (items (argument? as 0)).head?),
  ("last", fun _ as => .ok (items (argument? as 0)).getLast?),
  ("hasFlag", predicate fun context as => context.state.hasFlag (textArgument as 0)),
  ("getVar", fun context as =>
    .ok (context.state.lookup? (textArgument as 0) <|> argument? as 1)),
  ("playerChose", predicate fun context as =>
    context.state.playerChose (textArgument as 0) ((argument? as 1).map Value.toText)),
  ("currentTime", fun context _ => .ok (some (.number context.state.currentTime))),
  ("getList", fun context as => .ok (some (.list (context.state.getList (textArgument as 0))))),
  ("concat", fun _ as => .ok (some (.text (joined as)))),
  ("uppercase", fun _ as => .ok (some (.text (Text.upper (textArgument as 0))))),
  ("lowercase", fun _ as => .ok (some (.text (Text.lower (textArgument as 0))))),
  ("asset", fun context as =>
    .ok (((Asset.find? context.assets (textArgument as 0)).bind Asset.source?).map .text)),
  ("hasAsset", predicate fun context as =>
    (Asset.find? context.assets (textArgument as 0)).isSome)]

def registry : Registry := Registry.extend [] helpers

end BranchingStory.Template.Standard
