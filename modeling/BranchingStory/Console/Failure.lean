import BranchingStory.Fault

/-!
How commands fail, and how that is written.
-/

namespace BranchingStory.Console

/-- A failure of a command, either outside the story or in a step of it. -/
inductive Failure where
  | fault (cause : Fault)
  | step (cause : Fault)

namespace Failure

def console (cause : ConsoleFault) : Failure := .fault (.console cause)

def code : Failure → String
  | .fault cause => cause.code
  | .step cause => cause.code

/-- The message; that of a step always starts with its code. -/
def message : Failure → String
  | .fault cause => cause.message
  | .step cause => cause.codedMessage

/-- The lines that report a failure. -/
def report (f : Failure) : String :=
  "RESULT:ERROR\n" ++ "ERROR_CODE:" ++ f.code ++ "\n" ++
    "ERROR_MSG_JSON:" ++ Json.quote f.message ++ "\n"

end Failure

end BranchingStory.Console
