import BranchingStory.Decimal.Reading
import BranchingStory.Fault
import BranchingStory.Text.Blank
import BranchingStory.Value

/-!
Expressions in templates and conditions: literals, variable paths, and calls of helpers with their
arguments. A text is first cut into tokens, and parentheses then group the tokens. Both passes go
once through their input from left to right, so of two faults the one further left is reported.
-/

namespace BranchingStory

/-- An expression. -/
inductive Expression where
  | absent
  | literal (value : Value)
  | path (path : String)
  | call (helper : String) (arguments : List Expression)

namespace Expression

instance : Inhabited Expression := ⟨.absent⟩

/-! ### Tokens -/

/-- A token of an expression. -/
inductive Token where
  | openGroup
  | closeGroup
  | quoted (text : String)
  | word (text : String)
  deriving Repr, DecidableEq

/-- What is being read: nothing yet, a word, a quoted text, or the character after a backslash in
one. Characters read so far stand last first. -/
inductive Reading where
  | between
  | word (read : List Char)
  | quoted (mark : Char) (read : List Char)
  | escaped (mark : Char) (read : List Char)

def isQuote (c : Char) : Bool := c = '"' || c = '\x27'

/-- Whether a character ends a word. -/
def isBoundary (c : Char) : Bool := Text.isBlank c || c = '(' || c = ')' || isQuote c

/-- What a character between tokens gives: the token that it is, if any, and what is read next. -/
def begin (c : Char) : List Token × Reading :=
  if Text.isBlank c then ([], .between)
  else if c = '(' then ([.openGroup], .between)
  else if c = ')' then ([.closeGroup], .between)
  else if isQuote c then ([], .quoted c [])
  else ([], .word [c])

/-- The tokens that a character completes, and what is read next. -/
def advance (c : Char) : Reading → List Token × Reading
  | .between => begin c
  | .word read =>
    if isBoundary c then
      let next := begin c
      (.word (String.ofList read.reverse) :: next.1, next.2)
    else ([], .word (c :: read))
  | .quoted mark read =>
    if c = '\\' then ([], .escaped mark read)
    else if c = mark then ([.quoted (String.ofList read.reverse)], .between)
    else ([], .quoted mark (c :: read))
  | .escaped mark read => ([], .quoted mark (c :: read))

/-- The tokens of the characters that are left; none if a quoted text does not end. -/
def tokensFrom (reading : Reading) : List Char → Option (List Token)
  | [] =>
    match reading with
    | .between => some []
    | .word read => some [.word (String.ofList read.reverse)]
    | .quoted _ _ => none
    | .escaped _ _ => none
  | c :: rest =>
    let next := advance c reading
    (tokensFrom next.2 rest).map (next.1 ++ ·)

def tokens? (text : String) : Option (List Token) := tokensFrom .between text.toList

/-! ### Groups -/

/-- A word as an expression: a truth value, nothing, a finite number, or else a path. -/
def ofWord (word : String) : Expression :=
  if word = "true" then .literal (.bool true)
  else if word = "false" then .literal (.bool false)
  else if word = "null" || word = "undefined" then .absent
  else
    match Decimal.float? word with
    | some x => if x.isFinite then .literal (.number x) else .path word
    | none => .path word

/-- The expression of the items in a group: a call if the first is the name of a helper, else the
only item there is. -/
def ofItems (isHelper : String → Bool) : List Expression → Except ExpressionFault Expression
  | [] => .error .empty
  | .path name :: arguments =>
    if isHelper name then .ok (.call name arguments)
    else if arguments.isEmpty then .ok (.path name)
    else .error (.missingHelper name)
  | [item] => .ok item
  | _ => .error .notAHelper

/-- Groups the tokens that are left. The items of the current group and of the groups around it,
innermost first, stand last first. -/
def group (isHelper : String → Bool) (items : List Expression) (outer : List (List Expression)) :
    List Token → Except ExpressionFault Expression
  | [] =>
    match outer with
    | [] => ofItems isHelper items.reverse
    | _ :: _ => .error .missingClosing
  | .openGroup :: rest => group isHelper [] (items :: outer) rest
  | .closeGroup :: rest =>
    match outer with
    | [] => .error .unexpectedClosing
    | around :: outer =>
      match ofItems isHelper items.reverse with
      | .error fault => .error fault
      | .ok item => group isHelper (item :: around) outer rest
  | .quoted text :: rest => group isHelper (.literal (.text text) :: items) outer rest
  | .word word :: rest => group isHelper (ofWord word :: items) outer rest

/-- The expression that a text writes. -/
def parse (isHelper : String → Bool) (text : String) : Except ExpressionFault Expression :=
  match tokens? text with
  | none => .error (.unterminatedText text)
  | some tokens => group isHelper [] [] tokens

mutual

/-- How deep calls nest. -/
def depth : Expression → Nat
  | .call _ arguments => depthOfAll arguments + 1
  | _ => 0

def depthOfAll : List Expression → Nat
  | [] => 0
  | e :: rest => max e.depth (depthOfAll rest)

end

/-- How deep calls may nest. -/
def maxDepth : Nat := 8

end Expression

end BranchingStory
