import QuantumBlocks.Chart.Picture
import QuantumBlocks.Service.Http

/-!
# The service

The service answers requests at four paths: a banner, the state of its health, running a program
and drawing a histogram. Browsers may ask from which origins it can be used. Main statement: a
request to run a program is refused before the backend is asked anything.
-/

namespace QuantumBlocks.Service

open Json Chart

/-! ## Routes -/

/-- What the service can be asked. -/
inductive Route where
  | root
  | health
  | execute
  | histogram
  deriving DecidableEq, Repr

namespace Route

/-- The route of a path. -/
def ofPath? : String → Option Route
  | "/" => some .root
  | "/api/quantum/health" => some .health
  | "/api/quantum/execute" => some .execute
  | "/api/visualization/histogram" => some .histogram
  | _ => none

/-- The methods of a route. -/
def methods : Route → List String
  | .root | .health => ["GET", "HEAD"]
  | .execute | .histogram => ["POST"]

/-- The header that lists the methods of a route. -/
def allowHeader (route : Route) : String × String :=
  ("allow", String.intercalate "," route.methods)

end Route

/-! ## The service -/

/-- A server that runs programs on a backend with state `σ`. -/
structure Server (σ : Type) where
  executor : Executor σ
  allowAnyOrigin : Bool := true

namespace Server

variable {σ : Type} (s : Server σ)

/-! ## Running programs -/

/-- The number of shots of a request, or why it is refused. -/
def checkRequest (r : ExecuteRequest) : Except Refusal Nat :=
  if r.blocks.isEmpty then .error .noBlocks
  else if Refusal.minShots ≤ r.shots ∧ r.shots ≤ Refusal.maxShots then .ok r.shots.toNat
  else .error .shotsOutOfRange

/-- Runs a program, unless the request is refused. -/
def execute (r : ExecuteRequest) : StateM σ (Except Refusal ExecutionOutcome) :=
  match checkRequest r with
  | .error refusal => return .error refusal
  | .ok shots => do return .ok (← s.executor.execute r.blocks shots)

/-- A refused request leaves the backend alone. -/
theorem execute_of_refused {r : ExecuteRequest} {refusal : Refusal}
    (h : checkRequest r = .error refusal) (state : σ) :
    (s.execute r).run state = (.error refusal, state) := by
  unfold execute
  rw [h]
  rfl

/-- The response to a request to run a program. -/
def executeResponse (r : ExecuteRequest) : StateM σ Response := do
  match ← s.execute r with
  | .ok outcome => return .ofBody 200 (.outcome outcome)
  | .error refusal => return .ofBody 400 (.refusal refusal)

/-! ## Drawing histograms -/

/-- Draws the counts of a text. Whatever goes wrong is an answer too. -/
def drawHistogram (r : HistogramRequest) : HistogramResponse Raster :=
  match readHistogram r.data with
  | .error e => .failed e.message
  | .ok h =>
    match Chart.render h with
    | .ok image => .drawn image
    | .error e => .failed e.message

/-! ## Responses -/

/-- Reads the body of a request and answers it, or answers that it cannot be read. -/
def answer {α : Type} (d : Decoder α) (r : Request) (respond : α → StateM σ Response) :
    StateM σ Response :=
  match r.read d with
  | .ok a => respond a
  | .error rejection => return .ofRejection rejection

/-- The response of a route. -/
def visit (route : Route) (r : Request) : StateM σ Response := do
  match route with
  | .root => return .ofBody 200 (.root .banner)
  | .health =>
    return .ofBody 200 (.health (.ofAvailability (← s.executor.backend.isAvailable)))
  | .execute => answer ExecuteRequest.decoder r s.executeResponse
  | .histogram =>
    answer HistogramRequest.decoder r fun body =>
      return .ofBody 200 (.histogram (drawHistogram body))

/-- The headers that let a page of any origin read a response. -/
def originHeaders : List (String × String) :=
  if s.allowAnyOrigin then [("access-control-allow-origin", "*")] else []

/-- The headers that tell a browser what a page of another origin may send. -/
def preflightHeaders : List (String × String) :=
  if s.allowAnyOrigin then
    [("access-control-allow-methods", "*"), ("access-control-allow-headers", "*")]
  else []

/-- The response to a request at a route, which is one of its methods or none. -/
def respondAt (route : Route) (r : Request) : StateM σ Response := do
  if r.method = "OPTIONS" then
    return (Response.ofStatus 200).withHeaders (s.preflightHeaders ++ [route.allowHeader])
  else if r.method ∈ route.methods then
    let response ← s.visit route r
    return if r.method = "HEAD" then response.withoutBody else response
  else return (Response.ofStatus 405).withHeaders [route.allowHeader]

/-- The response to a request at no route. -/
def respondNowhere (r : Request) : Response :=
  if r.method = "OPTIONS" then (Response.ofStatus 200).withHeaders s.preflightHeaders
  else .ofStatus 404

/-- The response to a request. -/
def respond (r : Request) : StateM σ Response := do
  let response ← match Route.ofPath? r.path with
    | some route => s.respondAt route r
    | none => pure (s.respondNowhere r)
  return response.withHeaders s.originHeaders

end Server

end QuantumBlocks.Service
