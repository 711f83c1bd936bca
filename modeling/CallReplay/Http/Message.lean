import CallReplay.Json

/-!
# Requests and responses
-/

namespace CallReplay.Http

/-- A request to the server. -/
structure Request where
  method : String
  /-- The path and the query, which a scheme and an authority may stand before. -/
  target : String
  contentType : Option String
  body : List UInt8
  deriving DecidableEq

/-- How a request was dealt with. -/
inductive Status where
  | ok
  | badRequest
  | notFound
  | methodNotAllowed
  | contentTooLarge
  | unsupportedMediaType
  | unprocessableContent
  | internalServerError
  deriving DecidableEq

/-- The number of a status. -/
def Status.code : Status → Nat
  | ok => 200
  | badRequest => 400
  | notFound => 404
  | methodNotAllowed => 405
  | contentTooLarge => 413
  | unsupportedMediaType => 415
  | unprocessableContent => 422
  | internalServerError => 500

/-- A response of the server. -/
structure Response where
  status : Status
  /-- The JSON in the body, if there is any. -/
  body : Option Json

/-- A response without JSON. -/
def Response.bare (status : Status) : Response := ⟨status, none⟩

/-- Whether a character may stand in the name of a scheme. -/
def isSchemeChar (c : Char) : Bool := c.isAlphanum || "+-.".toList.contains c

/-- What follows the scheme and the authority that a target may begin with. -/
def afterAuthority (target : List Char) : List Char :=
  match target.dropWhile isSchemeChar with
  | ':' :: '/' :: '/' :: rest => rest.dropWhile fun c => !"/?#".toList.contains c
  | _ => target

/-- The path and the query of a request's target. The server is the same for every authority, and a
fragment counts for nothing. -/
def Request.pathAndQuery (r : Request) : List Char × List Char :=
  let (path, rest) := ((afterAuthority r.target.toList).takeWhile (· ≠ '#')).span (· ≠ '?')
  (path, rest.drop 1)

end CallReplay.Http
