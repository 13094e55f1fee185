/-
RouteAccess/Http/Request.lean

Requests, as far as they are looked at: method, path, query, headers, the
address of the peer, and the body.
-/

namespace RouteAccess

/-- A request. -/
structure Request where
  method : String := "GET"
  path : String
  query : String := ""
  headers : List (String × String) := []
  /-- the address of the peer, if it is known -/
  peer : Option String
  body : ByteArray := .empty

namespace Request

/-- The first header of a name, which is compared without regard to case. -/
def header? (r : Request) (name : String) : Option String :=
  (r.headers.find? fun h => h.1.toLower = name.toLower).map (·.2)

/-- A character of a path inside an address: tabs and line ends are left out;
those that would end the path, and the backslash, are escaped. -/
def addressChar (c : Char) : List Char :=
  if c = '\t' ∨ c = '\n' ∨ c = '\r' then []
  else if c = '?' then ['%', '3', 'F']
  else if c = '#' then ['%', '2', '3']
  else if c = '\\' then ['%', '5', 'C']
  else [c]

/-- A path as it follows a host: with a slash before it, unless it is empty. -/
def rooted : List Char → List Char
  | [] => []
  | '/' :: cs => '/' :: cs
  | cs => '/' :: cs

/-- The path as it stands in the address of the request. -/
def seenPath (r : Request) : String :=
  String.ofList ((rooted r.path.toList).flatMap addressChar)

end Request

end RouteAccess
