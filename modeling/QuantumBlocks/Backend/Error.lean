/-!
# Errors of backends

Why a backend did not do what it was asked to.
-/

namespace QuantumBlocks

/-- Why a backend failed. -/
inductive BackendError where
  | backendUnavailable (detail : String)
  | submissionFailed (detail : String)
  | jobFailed (detail : String)
  | jobNotFound (detail : String)
  | invalidCircuit (detail : String)
  | timeout (job : String)
  | circuitTooLarge (detail : String)
  | invalidShots (detail : String)
  | backend (detail : String)
  deriving DecidableEq, Repr

/-- An error in words. -/
def BackendError.message : BackendError → String
  | .backendUnavailable detail => "Backend not available: " ++ detail
  | .submissionFailed detail => "Job submission failed: " ++ detail
  | .jobFailed detail => "Job failed: " ++ detail
  | .jobNotFound detail => "Job not found: " ++ detail
  | .invalidCircuit detail => "Invalid circuit: " ++ detail
  | .timeout job => "Timeout waiting for job " ++ job
  | .circuitTooLarge detail => "Circuit exceeds backend capabilities: " ++ detail
  | .invalidShots detail => "Invalid shots: " ++ detail
  | .backend detail => "Backend error: " ++ detail

end QuantumBlocks
