import ApiAtlas.Json.Basic
import ApiAtlas.Naming

/-! # Requests and responses

What a handler is given and what it answers. Header names are compared ignoring ASCII letter case.
-/

namespace ApiAtlas

namespace Http

/-- Names with values; a name may occur more than once. -/
abbrev Pairs := List (String × String)

/-- The value of the last pair with a name. -/
def lastValue? (name : String) (pairs : Pairs) : Option String :=
  (pairs.reverse.find? (·.1 == name)).map (·.2)

/-- The value of the first header with a name. -/
def headerValue? (name : String) (headers : Pairs) : Option String :=
  (headers.find? fun header => Text.sameIgnoringAsciiCase header.1 name).map (·.2)

structure Request where
  method : Method
  path : String
  /-- The name of the route that the request was given to. -/
  routeName : String := ""
  /-- The values of the parameters of the path template. -/
  pathParameters : Pairs := []
  query : Pairs := []
  headers : Pairs := []
  body : Option Json := none
deriving Repr, Inhabited

namespace Request

def pathParameter? (request : Request) (name : String) : Option String :=
  lastValue? name request.pathParameters

def queryParameter? (request : Request) (name : String) : Option String :=
  lastValue? name request.query

def header? (request : Request) (name : String) : Option String :=
  headerValue? name request.headers

end Request

structure Response where
  status : Nat
  headers : Pairs := []
  body : Json
deriving Repr, Inhabited

namespace Response

def ofJson (status : Nat) (body : Json) : Response :=
  { status, headers := [("content-type", "application/json")], body }

def ofError (status : Nat) (text : String) : Response :=
  ofJson status (.object [("error", .string text)])

def header? (response : Response) (name : String) : Option String :=
  headerValue? name response.headers

/-- Sets a header in place of all of that name. -/
def withHeader (response : Response) (name value : String) : Response :=
  { response with
    headers :=
      (response.headers.filter fun header => !Text.sameIgnoringAsciiCase header.1 name)
        ++ [(name, value)] }

/-- The value that a response is stored as: its status and its body. -/
def stored (response : Response) : Json :=
  .object [("status", Json.ofNat response.status), ("body", response.body)]

end Response

abbrev Handler := Request → Response

end Http

end ApiAtlas
