import QuantumBlocks.Number.Decimal
import QuantumBlocks.Service.Http

/-!
# Messages on the wire

A request is a line with a method and a target, lines with headers up to an empty one, and then as
many bytes of body as the headers say. A response has the same shape.
-/

namespace QuantumBlocks.Service

open Number

/-! ## Requests -/

/-- The lines of a request before its body. -/
structure Head where
  method : String
  target : String
  headers : List (String × String)
  deriving DecidableEq, Repr

namespace Head

/-- The name and the value of a header, without the blanks around the value. -/
def readHeader? (line : String) : Option (String × String) :=
  match line.toList.dropWhile (· ≠ ':') with
  | _ :: value =>
    some (String.ofList (line.toList.takeWhile (· ≠ ':')), Text.trim (String.ofList value))
  | [] => none

/-- The lines of a request, which end where the first empty line is. -/
def read? : List String → Option Head
  | [] => none
  | first :: lines =>
    match first.splitOn " " with
    | [method, target, _] => some ⟨method, target, lines.filterMap readHeader?⟩
    | _ => none

/-- The request with the body that follows. -/
def request (h : Head) (body : String) : Request := ⟨h.method, h.target, h.headers, body⟩

/-- The number of bytes of the body that follows. -/
def bodySize (h : Head) : Nat :=
  (((h.request "").header? "content-length").bind fun s => readNatural? s.toList).getD 0

end Head

/-! ## Responses -/

/-- The phrase for a status. -/
def statusPhrase : Nat → String
  | 200 => "OK"
  | 400 => "Bad Request"
  | 404 => "Not Found"
  | 405 => "Method Not Allowed"
  | 413 => "Payload Too Large"
  | 415 => "Unsupported Media Type"
  | 422 => "Unprocessable Entity"
  | _ => "Unknown"

/-- A line of a response. -/
def line (s : String) : String := s ++ "\r\n"

/-- The length of what is sent, as a header. -/
def lengthHeader (sent : String) : String × String := ("content-length", toString sent.utf8ByteSize)

namespace Response

/-- The headers of a response with the length of what it sends. -/
def sentHeaders (p : Presentation) (r : Response) : List (String × String) :=
  r.headers ++ [lengthHeader (r.body.render p)]

/-- A response as it is sent. -/
def render (p : Presentation) (r : Response) : String :=
  line ("HTTP/1.1 " ++ toString r.status ++ " " ++ statusPhrase r.status)
    ++ String.join ((r.sentHeaders p).map fun h => line (h.1 ++ ": " ++ h.2)) ++ line ""
    ++ r.body.render p

end Response

end QuantumBlocks.Service
