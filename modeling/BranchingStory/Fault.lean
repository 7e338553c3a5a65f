import BranchingStory.Json.Printer
import BranchingStory.Script.Instruction

/-!
Everything that can go wrong, as causes with their wording. Each cause belongs to a code that
programs can test; the message is for people.
-/

namespace BranchingStory

/-- The forms in which a document may be written. -/
inductive Format where
  | json
  | yaml
  deriving Repr, DecidableEq

/-- Why a document is no script. -/
inductive ScriptFault where
  | notAMapping
  | sceneNotAList (scene : String)
  | invalidInstruction
  | conditionNotText
  | targetNotText
  | invalidChoice
  | choiceWithoutText
  | duplicateScene (scene : String)
  deriving Repr, DecidableEq

def ScriptFault.message : ScriptFault → String
  | .notAMapping => "Script document must be a mapping from scene name to instruction list"
  | .sceneNotAList scene => "Scene \"" ++ scene ++ "\" must be a list of instructions"
  | .invalidInstruction => "Invalid instruction format"
  | .conditionNotText => "Conditional \"if\" must be an expression string"
  | .targetNotText => "Jump target must be a scene name"
  | .invalidChoice => "Invalid choice format"
  | .choiceWithoutText => "Choice entry must have text"
  | .duplicateScene scene => "Scene \"" ++ scene ++ "\" is defined more than once"

/-- Why a tree is no action. -/
inductive ActionFault where
  | notAnObject
  | missingType
  | unknownType (type : String)
  | missingText (field : String)
  | missingValue (field : String)
  | missingNumber (field : String)
  | notAList (kind : String)
  deriving Repr, DecidableEq

def ActionFault.message : ActionFault → String
  | .notAnObject => "Action descriptor must be an object."
  | .missingType => "Action is missing its \"type\"."
  | .unknownType type => "Unknown action type \"" ++ type ++ "\"."
  | .missingText field => "Action requires a non-empty string \"" ++ field ++ "\"."
  | .missingValue field => "Action requires a \"" ++ field ++ "\" value."
  | .missingNumber field => "Action requires a numeric \"" ++ field ++ "\"."
  | .notAList kind => "setList expects a list value, got " ++ kind ++ "."

/-- Why a helper gives no answer. -/
inductive HelperFault where
  | missing (name : String)
  | notNumeric (helper : String) (kind : Option String)
  | tooFewArguments (helper : String)
  | divisionByZero
  | custom (message : String)
  deriving Repr, DecidableEq

def HelperFault.message : HelperFault → String
  | .missing name => "Missing helper \"" ++ name ++ "\"."
  | .notNumeric helper kind =>
    "Helper \"" ++ helper ++ "\" expects numeric arguments, got " ++ kind.getD "undefined" ++ "."
  | .tooFewArguments helper => "Helper \"" ++ helper ++ "\" expects at least two arguments."
  | .divisionByZero => "Division by zero."
  | .custom message => message

/-- Why an expression has no value. -/
inductive ExpressionFault where
  | unterminatedText (expression : String)
  | missingClosing
  | unexpectedClosing
  | empty
  | missingHelper (name : String)
  | notAHelper
  | tooDeep
  | helper (name : String) (cause : HelperFault)
  deriving Repr, DecidableEq

def ExpressionFault.message : ExpressionFault → String
  | .unterminatedText expression => "Unterminated string literal in \"" ++ expression ++ "\"."
  | .missingClosing => "Missing closing parenthesis."
  | .unexpectedClosing => "Unexpected closing parenthesis."
  | .empty => "Empty expression."
  | .missingHelper name => (HelperFault.missing name).message
  | .notAHelper => "Only a helper name can take arguments."
  | .tooDeep => "Syntax error: Expression exceeds maximum complexity"
  | .helper name cause => name ++ ": " ++ cause.message

/-- Why a story cannot go on. -/
inductive EngineFault where
  | sceneNotFound (scene : String)
  | noActiveScene
  | jumpTargetNotFound (scene : String)
  | guardExceeded (limit : Nat)
  | noPendingChoice
  | choiceIndex (index count : Nat)
  deriving Repr, DecidableEq

def EngineFault.code : EngineFault → String
  | .sceneNotFound _ => "ENGINE_SCENE_NOT_FOUND"
  | .noActiveScene => "ENGINE_NO_ACTIVE_SCENE"
  | .jumpTargetNotFound _ => "ENGINE_JUMP_TARGET_NOT_FOUND"
  | .guardExceeded _ => "ENGINE_GUARD_EXCEEDED"
  | .noPendingChoice => "ENGINE_NO_PENDING_CHOICE"
  | .choiceIndex _ _ => "ENGINE_CHOICE_INDEX"

def EngineFault.detail : EngineFault → String
  | .sceneNotFound scene => "Scene \"" ++ scene ++ "\" not found."
  | .noActiveScene => "No scene is active."
  | .jumpTargetNotFound scene => "Jump target scene \"" ++ scene ++ "\" not found."
  | .guardExceeded limit =>
    "Execution guard exceeded " ++ toString limit ++ " instructions without reaching a step."
  | .noPendingChoice => "No pending choice is available."
  | .choiceIndex index count =>
    "Choice index \"" ++ toString index ++ "\" is out of range (0.." ++ toString count ++ ")."

/-- Why a command of the console fails. -/
inductive ConsoleFault where
  | sourceNotFound (path : String)
  | sourceUnsupported (path : String)
  | sourceUnreadable
  | sourceEmpty (folder : String)
  | unknownReference (reference : String)
  | stateNotFound (path : String)
  | stateUnreadable
  | stateInvalid
  | stateUnwritable
  | stateSchema (schema : String)
  | stateWithoutChoice (step : String)
  | otherScenario (expected actual : String)
  | tooManyLines (limit : Nat)
  | notAnIndex (input : String)
  | inputUnreadable
  deriving Repr, DecidableEq

def ConsoleFault.code : ConsoleFault → String
  | .sourceNotFound _ => "CLI_SOURCE_NOT_FOUND"
  | .sourceUnsupported _ => "CLI_SOURCE_UNSUPPORTED"
  | .sourceUnreadable => "CLI_SOURCE_READ"
  | .sourceEmpty _ => "CLI_SOURCE_EMPTY"
  | .unknownReference _ => "CLI_SOURCE_REF_INVALID"
  | .stateNotFound _ => "CLI_STATE_NOT_FOUND"
  | .stateUnreadable => "CLI_STATE_READ"
  | .stateInvalid => "CLI_STATE_INVALID"
  | .stateUnwritable => "CLI_STATE_WRITE"
  | .stateSchema _ => "CLI_STATE_SCHEMA"
  | .stateWithoutChoice _ => "CLI_STATE_NO_CHOICE"
  | .otherScenario _ _ => "CLI_STATE_SCENARIO_MISMATCH"
  | .tooManyLines _ => "CLI_BOUNDARY_GUARD"
  | .notAnIndex _ => "PLAY_CHOICE_PARSE"
  | .inputUnreadable => "PLAY_IO"

/-- What there is to say beyond the code; causes outside the program have nothing to add. -/
def ConsoleFault.detail? : ConsoleFault → Option String
  | .sourceNotFound path => some ("scripts path does not exist: " ++ path)
  | .sourceUnsupported path => some ("scripts file is not .yaml/.yml/.json: " ++ path)
  | .sourceUnreadable => none
  | .sourceEmpty folder => some ("No .yaml/.yml/.json files under " ++ folder)
  | .unknownReference reference => some ("Unsupported scenario ref: " ++ reference)
  | .stateNotFound path => some ("State file does not exist: " ++ path)
  | .stateUnreadable => none
  | .stateInvalid => none
  | .stateUnwritable => none
  | .stateSchema schema => some ("Unsupported player state schema: " ++ schema)
  | .stateWithoutChoice step =>
    some ("Saved state does not resume at a choice (got " ++ step ++ ").")
  | .otherScenario expected actual =>
    some ("State scenario mismatch. expected=" ++ expected ++ " actual=" ++ actual)
  | .tooManyLines limit => some ("No choice or end within " ++ toString limit ++ " dialogue lines.")
  | .notAnIndex input => some ("Invalid choice index: " ++ input)
  | .inputUnreadable => none

/-- A failure of the library. -/
inductive Fault where
  | script (cause : ScriptFault) (location : Location)
  | document (format : Format) (file : String) (line : Option Nat)
  | action (descriptor : Json) (cause : ActionFault)
  | template (source : String) (cause : ExpressionFault)
  | engine (cause : EngineFault)
  | stateNotJson
  | console (cause : ConsoleFault)

namespace Fault

/-- The code that programs can test. -/
def code : Fault → String
  | .script _ _ => "SCRIPT_PARSE_ERROR"
  | .document _ _ _ => "SCRIPT_PARSE_ERROR"
  | .action _ _ => "ACTION_VALIDATION_ERROR"
  | .template _ _ => "TEMPLATE_RENDER_ERROR"
  | .engine cause => cause.code
  | .stateNotJson => "API_STATE_PARSE"
  | .console cause => cause.code

/-- The message for people. -/
def message : Fault → String
  | .script cause location => cause.message ++ " (at " ++ location.toText ++ ")"
  | .document .json _ _ => "Invalid JSON document"
  | .document .yaml _ _ => "Invalid YAML document"
  | .action descriptor cause => "Invalid action \"" ++ descriptor.compact ++ "\": " ++ cause.message
  | .template source cause => "Template render failed for \"" ++ source ++ "\": " ++ cause.message
  | .engine cause => cause.code ++ ": " ++ cause.detail
  | .stateNotJson => "API_STATE_PARSE: Game state is not valid JSON"
  | .console cause =>
    match cause.detail? with
    | some detail => cause.code ++ ": " ++ detail
    | none => cause.code

/-- The message with the code in front of it, once. -/
def codedMessage (f : Fault) : String :=
  match f with
  | .script _ _ => f.code ++ ": " ++ f.message
  | .document _ _ _ => f.code ++ ": " ++ f.message
  | .action _ _ => f.code ++ ": " ++ f.message
  | .template _ _ => f.code ++ ": " ++ f.message
  | .engine _ => f.message
  | .stateNotJson => f.message
  | .console _ => f.message

/-- Where in a script the cause lies: file, line as far as known, and scene. -/
def place? : Fault → Option (String × Option Nat × String)
  | .script _ l => some (l.file, some l.line, l.scene)
  | .document _ file line => some (file, line, "")
  | _ => none

end Fault

end BranchingStory
