/-!
# Failures

What can go wrong while graphs are planned, checked and run: the causes, which
of them may pass when the same call is made again, which of them never do, and
their wording.
-/

namespace Dataflow

/-- The cause of a failure. -/
inductive Failure where
  /-- A provider answered with an error, or was not reached (status zero). -/
  | provider (provider : String) (status : UInt16) (message : String) (retryable : Bool)
  /-- A provider asks to wait. -/
  | rateLimited (provider : String) (retryAfterMs : UInt64)
  /-- A provider does not accept the key. -/
  | unauthorized (provider : String)
  /-- A provider did not answer in time. -/
  | timedOut (provider : String) (timeoutMs : UInt64)
  /-- A model's answer holds no usable graph. -/
  | unusableOutput (model : String) (message : String)
  /-- A manifest cannot be read. -/
  | manifest (message : String)
  /-- A graph is not valid. -/
  | invalidGraph (message : String)
  /-- No executor is registered for a node type. -/
  | noExecutor (nodeType : String)
  /-- An executor failed on a node. -/
  | executor (node nodeType message : String)
  /-- A file cannot be read or written. -/
  | file (message : String)
  /-- A text is not JSON, or JSON of another shape. -/
  | json (message : String)
  /-- Any other cause. -/
  | other (message : String)
  deriving DecidableEq

namespace Failure

def message : Failure → String
  | .provider name status text _ =>
    "Provider " ++ name ++ " returned HTTP " ++ status.toNat.repr ++ ": " ++ text
  | .rateLimited name ms =>
    "Rate limited by " ++ name ++ ", retry after " ++ ms.toNat.repr ++ "ms"
  | .unauthorized name => "Authentication failed for provider " ++ name
  | .timedOut name ms =>
    "Request to " ++ name ++ " timed out after " ++ ms.toNat.repr ++ "ms"
  | .unusableOutput model text => "Model " ++ model ++ " returned unusable output: " ++ text
  | .manifest text => "Manifest error: " ++ text
  | .invalidGraph text => "Graph validation failed: " ++ text
  | .noExecutor nodeType => "No executor registered for node type '" ++ nodeType ++ "'"
  | .executor node nodeType text =>
    "Executor '" ++ nodeType ++ "' failed on node '" ++ node ++ "': " ++ text
  | .file text => "IO error: " ++ text
  | .json text => "JSON error: " ++ text
  | .other text => text

/-- Whether the same call may succeed later. -/
def isRetryable : Failure → Bool
  | .rateLimited .. | .timedOut .. => true
  | .provider _ _ _ retryable => retryable
  | _ => false

/-- Whether making the same call again is of no use. -/
def isTerminal : Failure → Bool
  | .unauthorized _ | .invalidGraph _ | .manifest _ | .noExecutor _ => true
  | _ => false

/-- The provider a failure came from, if it came from one. -/
def provider? : Failure → Option String
  | .provider name .. | .rateLimited name _ | .unauthorized name | .timedOut name _ => some name
  | _ => none

end Failure

end Dataflow
