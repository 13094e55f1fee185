/-
RouteAccess/Service/Query.lean

Questions about access that come in the body of a request: a verb, a path, and
subjects if wanted.  What is wrong with a body is reported with the way that
leads to it and the value that was found there.
-/
import RouteAccess.Form
import RouteAccess.Http.Request
import RouteAccess.Json.Reader
import RouteAccess.Text.Blank
import RouteAccess.Text.Case
import RouteAccess.Text.Encoding

namespace RouteAccess

/-! ### Bodies -/

namespace Request

/-- Whether the body of a request is meant to be JSON, by its content type. -/
def carriesJson (r : Request) : Bool :=
  let kind := ((r.header? "content-type").getD "").toList.takeWhile (· ≠ ';')
  match Text.cutAt (· = '/') (Text.lowerChars (Text.trimChars kind)) with
  | [main, sub] =>
    main = "application".toList &&
      (sub = "json".toList || "+json".toList.isSuffixOf sub)
  | _ => false

/-- The text of bytes; a mark before it tells how they are encoded. -/
def textOf? : List UInt8 → Option String
  | 0xEF :: 0xBB :: 0xBF :: rest => Encoding.decode? .bytes rest
  | bytes => Encoding.decode? (Encoding.guess bytes) bytes

/-- The body of a request as a JSON value, unless it cannot be read; a body that
is not meant to be JSON is one text, and an empty one is missing. -/
def body? (r : Request) : Option (Form Json) :=
  if r.body.isEmpty then some (.fault .missing)
  else if !r.carriesJson then (String.fromUTF8? r.body).map fun text => .valid (.str text)
  else
    (textOf? r.body.toList).bind fun text =>
      match Json.read .message text with
      | .ok value => some (.valid value)
      | .error .malformed => some (.fault .notJson)
      | .error _ => none

end Request

/-! ### Questions -/

/-- A question about access. -/
structure AccessQuery where
  verb : String
  path : String
  subjects : Option String
deriving DecidableEq, Repr

namespace AccessQuery

/-- The question that fields ask. -/
def ofFields (fields : List (String × Json)) : Form AccessQuery :=
  ((Form.required ["verb"] Form.text fields).map AccessQuery.mk
    |>.ap (Form.required ["path"] Form.text fields)).ap
      (Form.optional ["subjects"] none Form.textOrNull fields)

/-- The question that a value asks. -/
def form : Json → Form AccessQuery
  | .obj fields => ofFields fields
  | _ => .fault .notRecord

/-! ### Faults -/

/-- What a fault says. -/
def message : FormKind → String
  | .missing => "Field required"
  | .notText => "Input should be a valid string"
  | .notRecord => "Input should be a valid dictionary or object to extract fields from"
  | .notJson => "JSON decode error"
  | kind => kind.word

/-- A step of the way as a value. -/
def stepJson : FormStep → Json
  | .key name => .str name
  | .index n => .int n

/-- The value at the end of a way, or the last one on it. -/
def found (value : Json) : List FormStep → Json
  | [] => value
  | .key name :: rest =>
    match value.get? name with
    | some v => found v rest
    | none => value
  | .index _ :: _ => value

/-- A fault as it is reported. -/
def faultJson (body : Json) (f : FormFault) : Json :=
  .obj [("type", .str f.kind.word), ("loc", .arr (.str "body" :: f.path.map stepJson)),
    ("msg", .str (message f.kind)), ("input", found body f.path)]

/-- Why a request asks nothing. -/
inductive Refusal
  /-- its body cannot be read -/
  | unreadable
  /-- its body has faults, which are reported -/
  | faulty (report : Json)

/-- The question that a request asks. -/
def ofRequest (r : Request) : Except Refusal AccessQuery :=
  match r.body? with
  | none => .error .unreadable
  | some (.faulty faults) => .error (.faulty (.arr (faults.map (faultJson (.obj [])))))
  | some (.valid body) =>
    match form body with
    | .valid query => .ok query
    | .faulty faults => .error (.faulty (.arr (faults.map (faultJson body))))

end AccessQuery

end RouteAccess
