import Muster.Http.Exchange
import Muster.Text.Decimal
/-!
Messages as they go over a connection: a first line, fields in lines of their own, an empty line and a
body. The length of the body is in a field; without that field a request has no body, and a response
goes on to the end of the connection.
-/
namespace Muster.Http

open Muster.Text

/-- A message. -/
structure Message where
  start : String
  headers : Headers
  body : List UInt8
deriving Repr, DecidableEq

/-- What the octets that have come over a connection so far amount to. -/
inductive Received
  | unfinished
  | broken
  | message (message : Message)
deriving Repr, DecidableEq

/-- The octets of a line, and those behind its break. -/
def takeLine? : List UInt8 → Option (List UInt8 × List UInt8)
  | 0x0D :: 0x0A :: rest => some ([], rest)
  | b :: rest => (takeLine? rest).map fun (line, rest) => (b :: line, rest)
  | [] => none

/-- The lines up to an empty one, and the octets behind that. -/
def takeHead? : Nat → List UInt8 → Option (List (List UInt8) × List UInt8)
  | 0, _ => none
  | fuel + 1, octets => do
      let (line, rest) ← takeLine? octets
      if line.isEmpty then some ([], rest)
      else
        let (lines, rest) ← takeHead? fuel rest
        some (line :: lines, rest)

def trimBlanks (octets : List UInt8) : List UInt8 :=
  let isBlank (b : UInt8) : Bool := b = 0x20 || b = 0x09
  ((octets.dropWhile isBlank).reverse.dropWhile isBlank).reverse

/-- A field that a line writes: a name of visible octets, a colon and a value. -/
def fieldOfLine? (line : List UInt8) : Option (String × List UInt8) := do
  let name := line.takeWhile (· ≠ 0x3A)
  if name.isEmpty ∨ name.length = line.length ∨ name.any (· = 0x20) then none
  else some (← visibleText? name, trimBlanks (line.drop (name.length + 1)))

/-- How many octets a body has. -/
inductive BodyLength
  | exactly (count : Nat)
  | toTheEnd
deriving Repr, DecidableEq

/-- The length of the body behind some fields, of a request or of a response. Bodies that come in
pieces are not taken. -/
def bodyLength? (isResponse : Bool) (headers : Headers) : Option BodyLength :=
  match headers.get? "transfer-encoding", headers.get? "content-length" with
  | some _, _ => none
  | none, none => some (if isResponse then .toTheEnd else .exactly 0)
  | none, some octets => do
      let digits := (← visibleText? octets).toList
      if digits.isEmpty ∨ !digits.all Char.isDigit then none
      else some (.exactly (digits.foldl (fun n c => n * 10 + (c.toNat - '0'.toNat)) 0))

/-- The body that some octets hold, if they hold a whole one. -/
def BodyLength.body? (closed : Bool) (octets : List UInt8) : BodyLength → Option (List UInt8)
  | .exactly count => if count ≤ octets.length then some (octets.take count) else none
  | .toTheEnd => if closed then some octets else none

/-- What some octets amount to, when the connection is still open or has been closed. -/
def receive (isResponse closed : Bool) (octets : List UInt8) : Received :=
  let later := if closed then Received.broken else .unfinished
  match takeHead? (octets.length + 1) octets with
  | none => later
  | some ([], _) => .broken
  | some (start :: lines, rest) =>
      match visibleText? start, lines.mapM fieldOfLine? with
      | some start, some headers =>
          match bodyLength? isResponse headers with
          | none => .broken
          | some length =>
              match length.body? closed rest with
              | some body => .message ⟨start, headers, body⟩
              | none => later
      | _, _ => .broken

def Message.request? (message : Message) : Option Request :=
  match (message.start.splitOn " ") with
  | [method, target, version] =>
      if version.startsWith "HTTP/1." ∧ !method.isEmpty ∧ target.startsWith "/" then
        some ⟨method, target, message.headers, message.body⟩
      else none
  | _ => none

def Message.status? (message : Message) : Option Nat :=
  match message.start.splitOn " " with
  | version :: status :: _ =>
      if version.startsWith "HTTP/1." ∧ status.length = 3 then status.toNat? else none
  | _ => none

/-- The octets of a message, with the length of its body. -/
def Message.octets (message : Message) : List UInt8 :=
  let line (octets : List UInt8) : List UInt8 := octets ++ [0x0D, 0x0A]
  let headers := message.headers ++
    [("content-length", toUtf8 (ofInt message.body.length)), ("connection", toUtf8 "close")]
  line (toUtf8 message.start) ++
    headers.flatMap (fun (name, value) => line (toUtf8 (name ++ ": ") ++ value)) ++
    line [] ++ message.body

/-- The words that go with a status. -/
def reason (status : Nat) : String :=
  match status with
  | 200 => "OK"
  | 201 => "Created"
  | 204 => "No Content"
  | 400 => "Bad Request"
  | 401 => "Unauthorized"
  | 403 => "Forbidden"
  | 404 => "Not Found"
  | 405 => "Method Not Allowed"
  | 409 => "Conflict"
  | 413 => "Payload Too Large"
  | 415 => "Unsupported Media Type"
  | 422 => "Unprocessable Entity"
  | 503 => "Service Unavailable"
  | _ => "Internal Server Error"

def Response.message (response : Response) : Message where
  start := "HTTP/1.1 " ++ ofInt response.status ++ " " ++ reason response.status
  headers := (response.body.mediaType?.map fun type => ("content-type", toUtf8 type)).toList
  body := response.body.octets

/-- Where requests go: a machine, a port, and a path in front of all targets. -/
structure Endpoint where
  host : String
  port : UInt16
  base : String
deriving Repr, DecidableEq

/-- The endpoint that an address without encryption names. Slashes at its end do not count. -/
def Endpoint.ofUrl? (url : String) : Option Endpoint :=
  let text := (url.toList.reverse.dropWhile (· = '/')).reverse
  let scheme := "http://".toList
  if text.take scheme.length ≠ scheme then none
  else
    let behind := text.drop scheme.length
    let authority := behind.takeWhile (· ≠ '/')
    let base := String.ofList (behind.drop authority.length)
    let host := authority.takeWhile (· ≠ ':')
    match authority.drop host.length with
    | [] => some ⟨String.ofList host, 80, base⟩
    | _ :: digits => do
        let port ← (String.ofList digits).toNat?
        if host.isEmpty ∨ 65536 ≤ port then none
        else some ⟨String.ofList host, UInt16.ofNat port, base⟩

def Request.message (endpoint : Endpoint) (request : Request) : Message where
  start := request.method ++ " " ++ endpoint.base ++ request.target ++ " HTTP/1.1"
  headers := ("host", toUtf8 (endpoint.host ++ ":" ++ ofInt endpoint.port.toNat)) :: request.headers
  body := request.body

end Muster.Http
