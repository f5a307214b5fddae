import QuantumBlocks.Chart.Raster
import QuantumBlocks.Service.MediaType
import QuantumBlocks.Service.Message

/-!
# Requests and responses

What comes in and goes out over HTTP, apart from how it is written on the wire. The body of a
response keeps what it stands for; how times and pictures are shown is up to whoever writes it
down.
-/

namespace QuantumBlocks.Service

open Json Chart

/-! ## Requests -/

/-- A request. -/
structure Request where
  method : String
  target : String
  headers : List (String × String)
  body : String
  deriving DecidableEq, Repr

namespace Request

/-- The value of a header, whose name is given in small letters. -/
def header? (r : Request) (name : String) : Option String :=
  (r.headers.find? fun h => h.1.map Char.toLower = name).map Prod.snd

/-- The target without the scheme and the host that may stand in front of the path. -/
def dropOrigin (cs : List Char) : List Char :=
  match cs with
  | '/' :: _ => cs
  | _ =>
    match cs.dropWhile (· ≠ ':') with
    | ':' :: '/' :: '/' :: rest =>
      match rest.dropWhile fun c => c ≠ '/' && c ≠ '?' && c ≠ '#' with
      | '/' :: path => '/' :: path
      | tail => '/' :: tail
    | _ => cs

/-- The path of the target, without its query. -/
def path (r : Request) : String :=
  String.ofList ((dropOrigin r.target.toList).takeWhile fun c => c ≠ '?' && c ≠ '#')

/-- Whether the headers say that the body is JSON. -/
def hasJson (r : Request) : Bool :=
  ((r.header? "content-type").bind MediaType.read?).any MediaType.isJson

end Request

/-! ## Rejections -/

/-- Why the body of a request cannot be taken. -/
inductive Rejection where
  | noJson
  | tooLong
  | badSyntax (reason : String)
  | badData (reason : String)
  deriving DecidableEq, Repr

namespace Rejection

/-- The status of a rejection. -/
def status : Rejection → Nat
  | .noJson => 415
  | .tooLong => 413
  | .badSyntax _ => 400
  | .badData _ => 422

/-- A rejection in words. -/
def message : Rejection → String
  | .noJson => "Expected request with `Content-Type: application/json`"
  | .tooLong => "Failed to buffer the request body: length limit exceeded"
  | .badSyntax reason => "Failed to parse the request body as JSON: " ++ reason
  | .badData reason => "Failed to deserialize the JSON body into the target type: " ++ reason

/-- The rejection of a faulty body. -/
def ofFault (body : String) (fault : Fault) : Rejection :=
  let reason := fault.messageWithPath body
  if fault.cause.isAboutData then .badData reason else .badSyntax reason

end Rejection

/-- The greatest number of bytes of a body. -/
def maxBodySize : Nat := 2097152

/-- Reads the body of a request. -/
def Request.read {α : Type} (d : Decoder α) (r : Request) : Except Rejection α :=
  if !r.hasJson then .error .noJson
  else if maxBodySize < r.body.utf8ByteSize then .error .tooLong
  else (d.read r.body).mapError (Rejection.ofFault r.body)

/-! ## Responses -/

/-- The body of a response. -/
inductive Body where
  | empty
  | text (s : String)
  | root (r : RootResponse)
  | health (r : HealthResponse)
  | outcome (o : ExecutionOutcome)
  | histogram (r : HistogramResponse Raster)
  | refusal (r : Refusal)

/-- How the parts of a response are shown that are not JSON by themselves. -/
structure Presentation where
  time : Elapsed → Value
  image : Raster → Value

namespace Body

/-- The body as a JSON value, if it is one. -/
def toValue? (p : Presentation) : Body → Option Value
  | .empty | .text _ => none
  | .root r => some r.toValue
  | .health r => some r.toValue
  | .outcome o => some (o.toValue p.time)
  | .histogram r => some (r.toValue p.image)
  | .refusal r => some r.toValue

/-- The media type of the body. -/
def contentType? : Body → Option String
  | .empty => none
  | .text _ => some "text/plain; charset=utf-8"
  | _ => some "application/json"

/-- The body as it is sent. -/
def render (p : Presentation) (b : Body) : String :=
  match b, b.toValue? p with
  | _, some v => v.render
  | .text s, none => s
  | _, none => ""

end Body

/-- A response. -/
structure Response where
  status : Nat
  headers : List (String × String)
  body : Body

namespace Response

/-- A response with a body, whose media type it declares. -/
def ofBody (status : Nat) (body : Body) : Response where
  status := status
  headers := body.contentType?.toList.map fun type => ("content-type", type)
  body := body

/-- A response without a body. -/
def ofStatus (status : Nat) : Response := ofBody status .empty

/-- The response of a rejection. -/
def ofRejection (r : Rejection) : Response := ofBody r.status (.text r.message)

/-- The response with more headers. -/
def withHeaders (headers : List (String × String)) (r : Response) : Response :=
  { r with headers := r.headers ++ headers }

/-- The response with its headers alone. -/
def withoutBody (r : Response) : Response := { r with body := .empty }

end Response

end QuantumBlocks.Service
