import BranchChoice.Text.Encoding

/-!
# Requests and replies

What goes over the wire: the requests that are sent, and the replies that come back.  A transport is
given by the replies that it is going to deliver, one for each request.
-/

namespace BranchChoice.Rest

/-- The methods in use. -/
inductive Method where
  | get
  | post
  deriving DecidableEq

/-- The name of a method on the wire. -/
def Method.name : Method → String
  | get => "GET"
  | post => "POST"

/-- A request as it is sent. -/
structure HttpRequest where
  method : Method
  url : String
  headers : List (String × String)
  body : String
  deriving DecidableEq

/-- What comes of a request: a response, a timeout, or a failure of the connection. -/
inductive Reply where
  | response (status : Nat) (body : List UInt8)
  | timeout
  | failure (message : String)
  deriving DecidableEq

/-- A transport: the replies to come, and the requests sent so far. -/
structure Wire where
  replies : List Reply
  sent : List HttpRequest

/-- Sends a request and takes the next reply; without one the connection fails. -/
def Wire.send (w : Wire) (request : HttpRequest) : Reply × Wire :=
  match w.replies with
  | reply :: rest => (reply, ⟨rest, w.sent ++ [request]⟩)
  | [] => (.failure "", ⟨[], w.sent ++ [request]⟩)

end BranchChoice.Rest
