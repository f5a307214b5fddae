import QuantumBlocks.Execution
import QuantumBlocks.Histogram.Reading

/-!
# What the service is asked and answers

The bodies of requests and answers and their forms as JSON. A request to run a program may leave
out the number of shots.
-/

namespace QuantumBlocks.Service

open Json

/-! ## Requests -/

/-- A program to run. -/
structure ExecuteRequest where
  blocks : List Block
  shots : Int
  deriving DecidableEq, Repr

namespace ExecuteRequest

/-- How many shots are run if nothing is said. -/
def defaultShots : Int := 1024

/-- The parts of a request that were read so far. -/
structure Parts where
  blocks : Option (List Block) := none
  shots : Option Int := none

/-- The form of a request to run a program. -/
def form : Form Parts ExecuteRequest where
  name := "ExecuteRequest"
  fields :=
    [.slot "blocks" Block.listDecoder Parts.blocks fun v p => { p with blocks := some v },
      .slot "shots" .signed64 Parts.shots (fun v p => { p with shots := some v }) true]
  empty := {}
  complete p :=
    match p.blocks with
    | some blocks => .ok ⟨blocks, p.shots.getD defaultShots⟩
    | none => .error "blocks"

/-- Reads a request to run a program. -/
def decoder : Decoder ExecuteRequest := .record form

end ExecuteRequest

/-- A text with counts to draw. -/
structure HistogramRequest where
  data : String
  deriving DecidableEq, Repr

namespace HistogramRequest

/-- The form of a request to draw counts. -/
def form : Form (Option String) HistogramRequest where
  name := "HistogramRequest"
  fields := [.slot "data" .string id fun v _ => some v]
  empty := none
  complete data :=
    match data with
    | some data => .ok ⟨data⟩
    | none => .error "data"

/-- Reads a request to draw counts. -/
def decoder : Decoder HistogramRequest := .record form

end HistogramRequest

/-! ## Answers -/

/-- The answer to a request to draw counts: a picture, or the text of an error. -/
structure HistogramResponse (ι : Type) where
  success : Bool
  image : Option ι
  error : Option String
  deriving DecidableEq, Repr

namespace HistogramResponse

variable {ι : Type}

/-- The answer with a picture. -/
def drawn (image : ι) : HistogramResponse ι := ⟨true, some image, none⟩

/-- The answer with an error. -/
def failed (error : String) : HistogramResponse ι := ⟨false, none, some error⟩

/-- The answer as an object; what is not known is null. -/
def toValue (imageValue : ι → Value) (r : HistogramResponse ι) : Value :=
  .object (membersOf
    [("success", .bool r.success), ("image_base64", (r.image.map imageValue).getD .null),
      ("error", (r.error.map Value.string).getD .null)])

/-- The parts of an answer that were read so far. -/
structure Parts where
  success : Option Bool := none
  image : Option (Option String) := none
  error : Option (Option String) := none

/-- The form of an answer whose picture is a text. -/
def form : Form Parts (HistogramResponse String) where
  name := "HistogramResponse"
  fields :=
    [.slot "success" .bool Parts.success fun v p => { p with success := some v },
      .slot "image_base64" (.optional .string) Parts.image fun v p => { p with image := some v },
      .slot "error" (.optional .string) Parts.error fun v p => { p with error := some v }]
  empty := {}
  complete p :=
    match p.success with
    | some success => .ok ⟨success, p.image.join, p.error.join⟩
    | none => .error "success"

/-- Reads an answer whose picture is a text. -/
def decoder : Decoder (HistogramResponse String) := .record form

end HistogramResponse

/-- Whether the service is well. -/
structure HealthResponse where
  status : String
  service : String
  simulatorAvailable : Bool
  deriving DecidableEq, Repr

namespace HealthResponse

/-- A service that answers is well; its simulator may not be. -/
def ofAvailability (isAvailable : Bool) : HealthResponse := ⟨"ok", "quantum-backend", isAvailable⟩

/-- The answer as an object. -/
def toValue (r : HealthResponse) : Value :=
  .object (membersOf
    [("status", .string r.status), ("service", .string r.service),
      ("simulator_available", .bool r.simulatorAvailable)])

/-- The parts of an answer that were read so far. -/
structure Parts where
  status : Option String := none
  service : Option String := none
  simulatorAvailable : Option Bool := none

/-- The form of the answer. -/
def form : Form Parts HealthResponse where
  name := "HealthResponse"
  fields :=
    [.slot "status" .string Parts.status fun v p => { p with status := some v },
      .slot "service" .string Parts.service fun v p => { p with service := some v },
      .slot "simulator_available" .bool Parts.simulatorAvailable fun v p =>
        { p with simulatorAvailable := some v }]
  empty := {}
  complete p := do
    let some status := p.status | throw "status"
    let some service := p.service | throw "service"
    let some simulatorAvailable := p.simulatorAvailable | throw "simulator_available"
    return ⟨status, service, simulatorAvailable⟩

/-- Reads the answer. -/
def decoder : Decoder HealthResponse := .record form

end HealthResponse

/-- What the service says of itself. -/
structure RootResponse where
  message : String
  status : String
  deriving DecidableEq, Repr

namespace RootResponse

/-- The banner of the service. -/
def banner : RootResponse := ⟨"Scratch Quantum API", "running"⟩

/-- The answer as an object. -/
def toValue (r : RootResponse) : Value :=
  .object [("message", .string r.message), ("status", .string r.status)]

/-- The parts of an answer that were read so far. -/
structure Parts where
  message : Option String := none
  status : Option String := none

/-- The form of the answer. -/
def form : Form Parts RootResponse where
  name := "RootResponse"
  fields :=
    [.slot "message" .string Parts.message fun v p => { p with message := some v },
      .slot "status" .string Parts.status fun v p => { p with status := some v }]
  empty := {}
  complete p := do
    let some message := p.message | throw "message"
    let some status := p.status | throw "status"
    return ⟨message, status⟩

/-- Reads the answer. -/
def decoder : Decoder RootResponse := .record form

end RootResponse

/-! ## Refusals -/

/-- Why a request to run a program is refused. -/
inductive Refusal where
  | noBlocks
  | shotsOutOfRange
  deriving DecidableEq, Repr

namespace Refusal

/-- The least number of shots that may be asked for. -/
def minShots : Int := 1

/-- The greatest number of shots that may be asked for. -/
def maxShots : Int := 10000

/-- A refusal in words. -/
def message : Refusal → String
  | .noBlocks => "No blocks provided"
  | .shotsOutOfRange =>
    "Shots must be between " ++ toString minShots ++ " and " ++ toString maxShots

/-- A refusal as an object. -/
def toValue (r : Refusal) : Value :=
  .object [("detail", .string r.message), ("error", .string "bad_request")]

end Refusal

end QuantumBlocks.Service
