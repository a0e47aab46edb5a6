import Tollgate.Http.Platform
import Tollgate.Http.Response

set_option autoImplicit false

/-!
# Routing to endpoints

Each endpoint answers requests of one method for one path. A path that is known but for a slash
at its end is redirected to the known one.
-/

namespace Tollgate.Http

open Tollgate.Json Tollgate.Url

/-- What a service answers at a path, with a value as JSON, to requests of a method. -/
structure Endpoint where
  method : String
  path : String
  answer : Value
deriving Repr

/-- Whether a path is that of an endpoint. A line break at the end of a path counts for
nothing. -/
def Endpoint.fits (e : Endpoint) (path : String) : Bool :=
  path = e.path || path = e.path ++ "\n"

/-- The first endpoint for a path. -/
def findEndpoint (endpoints : List Endpoint) (path : String) : Option Endpoint :=
  endpoints.find? (·.fits path)

/-- A path with the slash at its end toggled: all slashes there are dropped, or one is added. -/
def toggleSlash (path : String) : String :=
  let cs := path.toList
  if cs.getLast? == some '/' then String.ofList (cs.reverse.dropWhile (· == '/')).reverse
  else path ++ "/"

/-- Whether a character is escaped in the URL of a redirection. -/
def isEscapedInLocation (c : Char) : Bool :=
  !(c.isAlphanum || "_.-~:/%#?=@[]!$&'()*+,;".toList.contains c)

/-- The answer that sends the client to another URL. -/
def redirection (url : String) : Response :=
  ⟨307, [("location", String.ofList (percentEncode isEscapedInLocation url.toList))], .text ""⟩

/-- A value as an answer. -/
def answered (p : Platform) (status : Int) (value : Value) : Except Failure Response :=
  (Response.ofJson p.writingDepth status value).mapError Failure.unwritable

/-- An answer that only tells why the request failed. -/
def failed (p : Platform) (status : Int) (detail : String) : Except Failure Response :=
  answered p status (.object [("detail", .text detail)])

/-- The answer of a service with the given endpoints. -/
def respond (p : Platform) (endpoints : List Endpoint) (r : Request) :
    Except Failure Response :=
  match findEndpoint endpoints r.path with
  | some e =>
    if r.method = e.method then answered p 200 e.answer
    else failed p 405 "Method Not Allowed"
  | none =>
    let other := toggleSlash r.path
    if r.path ≠ "/" ∧ (findEndpoint endpoints other).isSome then
      (p.url { r with path := other }).map redirection
    else failed p 404 "Not Found"

end Tollgate.Http
