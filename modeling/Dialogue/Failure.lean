/-!
# Failures

The causes for which a step of a conversation fails. Each has two wordings: `message` says what
happened, `notice` is what the user of a session is told, which leaves out the details of a backend
that is away, of rate limits and of credentials.
-/

namespace Dialogue

/-- Why a step failed. -/
inductive Failure where
  /-- The backend answered with an error. -/
  | backend (detail : String)
  /-- The backend is away or does not answer in time. -/
  | backendUnavailable (detail : String)
  /-- Tools should run but the last message asks for none. -/
  | noPendingCalls
  | toolNotFound (name : String)
  | duplicateTool (name : String)
  /-- The arguments of a call do not fit its tool. -/
  | badArguments (detail : String)
  /-- A tool ran and failed. -/
  | toolFailed (detail : String)
  /-- Text of the model cannot be read. -/
  | unreadable (detail : String)
  | badSettings (detail : String)
  | rateLimited (detail : String)
  | unauthorized (detail : String)
  /-- A tool server broke its protocol or is away. -/
  | toolServer (detail : String)
deriving DecidableEq, Repr

namespace Failure

/-- What happened. -/
def message : Failure → String
  | .backend detail => "Provider error: " ++ detail
  | .backendUnavailable detail => "Provider unavailable: " ++ detail
  | .noPendingCalls => "No tool calls found in the last message"
  | .toolNotFound name => "Tool not found: " ++ name
  | .duplicateTool name => "Duplicate tool name: " ++ name
  | .badArguments detail => "Tool validation error: " ++ detail
  | .toolFailed detail => "Tool execution error: " ++ detail
  | .unreadable detail => "Parse error: " ++ detail
  | .badSettings detail => "Configuration error: " ++ detail
  | .rateLimited detail => "Rate limited: " ++ detail
  | .unauthorized detail => "Authentication failed: " ++ detail
  | .toolServer detail => "Tool server error: " ++ detail

/-- What the user is told. -/
def notice : Failure → String
  | .backend detail => "The AI service encountered an error: " ++ detail
  | .backendUnavailable _ => "The AI service is currently unavailable. Please try again."
  | .noPendingCalls => "The agent tried to run tools without any pending tool calls."
  | .toolNotFound name => "The tool '" ++ name ++ "' is not available."
  | .duplicateTool _ => "An unexpected error occurred."
  | .badArguments detail => "Invalid tool input: " ++ detail
  | .toolFailed detail => "Tool error: " ++ detail
  | .unreadable _ => "An unexpected error occurred."
  | .badSettings detail => "Invalid configuration: " ++ detail
  | .rateLimited _ => "You've made too many requests. Please wait a moment."
  | .unauthorized _ => "Authentication failed. Please check your credentials."
  | .toolServer detail => "Remote tool server error: " ++ detail

end Failure

end Dialogue
