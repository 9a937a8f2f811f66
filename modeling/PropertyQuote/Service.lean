import PropertyQuote.CSharp.Compilation
import PropertyQuote.Generation
import PropertyQuote.Json.Reader
import PropertyQuote.Service.Address

/-!
# The service

Passes over sources that are sent along with a request.  `handle` answers a request; a request whose body
is not as it should be is answered with all complaints about it.  How sources are read is left to a parser.
-/

namespace PropertyQuote.Service

/-- The body of a request. -/
inductive Body where
  | absent
  /-- The body is not JSON. -/
  | unreadable
  /-- The body cannot even be looked at. -/
  | broken
  | value (json : Json)

/-- The body that some bytes stand for. -/
def Body.ofBytes (bytes : List UInt8) : Body :=
  if bytes.isEmpty then absent
  else
    match (Text.decodeAny? bytes).map Json.read with
    | some (.ok json) => value json
    | some (.error .invalid) => unreadable
    | _ => broken

/-- A request. -/
structure Request where
  method : String
  path : String
  body : Body

/-- What a pass is asked for. -/
structure Order where
  sources : List (String × String) := []
  marker : String := standardMarker
  emitBootstrap : Bool := true
deriving DecidableEq, Repr

/-- What is wrong with the body of a request. -/
inductive Complaint where
  | noBody
  | unreadable
  | noObject
  /-- The sources are no object. -/
  | noSources
  /-- A source is no text. -/
  | noSource (path : String)
  /-- The marker is no text. -/
  | noMarker
  /-- The flag is a word or number that is no truth value. -/
  | unclearFlag
  /-- The flag is something else altogether. -/
  | noFlag
deriving DecidableEq, Repr

/-- The kind of a complaint. -/
def Complaint.kind : Complaint → String
  | noBody => "missing"
  | unreadable => "json_invalid"
  | noObject => "model_attributes_type"
  | noSources => "dict_type"
  | noSource _ => "string_type"
  | noMarker => "string_type"
  | unclearFlag => "bool_parsing"
  | noFlag => "bool_type"

/-- The place in a request that a complaint is about. -/
def Complaint.place : Complaint → List String
  | noSources => ["body", "sources"]
  | noSource path => ["body", "sources", path]
  | noMarker => ["body", "marker"]
  | unclearFlag => ["body", "emit_bootstrap"]
  | noFlag => ["body", "emit_bootstrap"]
  | _ => ["body"]

/-- A complaint, with the value that it is about. -/
structure Finding where
  complaint : Complaint
  about : Json

/-- The sources in a value. -/
def sourcesOf : Json → Except (List Finding) (List (String × String))
  | .obj fields =>
    let wrong := fields.filterMap fun (path, value) =>
      match value with
      | .str _ => none
      | _ => some (Finding.mk (.noSource path) value)
    if wrong.isEmpty then
      .ok (fields.filterMap fun (path, value) =>
        match value with
        | .str text => some (path, text)
        | _ => none)
    else .error wrong
  | value => .error [⟨.noSources, value⟩]

/-- The marker in a value. -/
def markerOf : Json → Except (List Finding) String
  | .str s => .ok s
  | value => .error [⟨.noMarker, value⟩]

/-- Words for true. -/
def trueWords : List String := ["1", "t", "y", "on", "yes", "true"]

/-- Words for false. -/
def falseWords : List String := ["0", "f", "n", "no", "off", "false"]

/-- The truth value of a whole number.  One that needs more than 64 bits is no flag. -/
def flagOfInt (n : Int) : Except Complaint Bool :=
  if n == 0 then .ok false
  else if n == 1 then .ok true
  else if -0x8000000000000000 ≤ n && n < 0x8000000000000000 then .error .unclearFlag
  else .error .noFlag

/-- The truth value of a number with a fraction or an exponent; only whole numbers can be flags. -/
def flagOfFloat (x : Float) : Except Complaint Bool :=
  if x == 0.0 then .ok false
  else if x == 1.0 then .ok true
  else if x.floor == x && x.abs < 9223372036854775808.0 then .error .unclearFlag
  else .error .noFlag

/-- The truth value that a value stands for. -/
def flagOfValue : Json → Except Complaint Bool
  | .bool b => .ok b
  | .int n => flagOfInt n
  | .float x => flagOfFloat x
  | .str s =>
    let word := s.toList.map Char.toLower
    if trueWords.any (·.toList == word) then .ok true
    else if falseWords.any (·.toList == word) then .ok false
    else .error .unclearFlag
  | _ => .error .noFlag

/-- The flag in a value: a truth value, or a word or number for one. -/
def flagOf (value : Json) : Except (List Finding) Bool :=
  (flagOfValue value).mapError fun complaint => [⟨complaint, value⟩]

/-- What was found about a field. -/
def findingsOf {α : Type} : Except (List Finding) α → List Finding
  | .ok _ => []
  | .error findings => findings

/-- What the fields of a body ask for, or everything that is wrong with them. -/
def Order.ofFields (fields : List (String × Json)) : Except (List Finding) Order :=
  let field {α : Type} (name : String) (read : Json → Except (List Finding) α) (standard : α) :=
    (((Json.obj fields).field? name).map read).getD (.ok standard)
  match field "sources" sourcesOf [], field "marker" markerOf standardMarker,
      field "emit_bootstrap" flagOf true with
  | .ok sources, .ok marker, .ok emitBootstrap => .ok { sources, marker, emitBootstrap }
  | sources, marker, flag =>
    .error (findingsOf sources ++ findingsOf marker ++ findingsOf flag)

/-- Candidates that a pass left out, with their owner and the reason. -/
structure Omission where
  owner : String
  reason : String
  members : List String
deriving DecidableEq, Repr

/-- What an outcome leaves out. -/
def omissionsOf : Outcome → List Omission
  | .emitted _ owner _ skipped =>
    skipped.map fun s => ⟨owner.displayName, s.reason, [s.candidate.name]⟩
  | .skipped owner reason candidates =>
    [⟨owner.displayName, reason, candidates.map Candidate.name⟩]

/-- An answer. -/
inductive Reply where
  | healthy
  | generated (result : GenerationResult)
  | failed (detail : String)
  | notFound
  | notAllowed
  | invalid (complaints : List Complaint)

/-- The status of an answer. -/
def Reply.status : Reply → Nat
  | healthy => 200
  | generated _ => 200
  | failed _ => 400
  | notFound => 404
  | notAllowed => 405
  | invalid _ => 422

/-- A text that explains a status. -/
def detail (text : String) : Json :=
  .obj [("detail", .str text)]

/-- A unit in an answer. -/
def unitJson (u : SourceUnit) : Json :=
  .obj [("hint_name", .str u.hintName), ("namespace", .str u.home), ("type_name", .str u.typeName),
    ("text", .str u.text)]

/-- An omission in an answer. -/
def Omission.json (o : Omission) : Json :=
  .obj [("owner", .str o.owner), ("reason", .str o.reason), ("members", .arr (o.members.map .str))]

/-- A complaint in an answer. -/
def Complaint.json (c : Complaint) : Json :=
  .obj [("type", .str c.kind), ("loc", .arr (c.place.map .str))]

/-- The body of an answer. -/
def Reply.json : Reply → Json
  | healthy => .obj [("status", .str "ok")]
  | generated r =>
    .obj [("fingerprint", .str r.fingerprint), ("units", .arr (r.units.map unitJson)),
      ("skipped", .arr ((r.outcomes.flatMap omissionsOf).map Omission.json))]
  | failed text => detail text
  | notFound => detail "Not Found"
  | notAllowed => detail "Method Not Allowed"
  | invalid complaints => .arr (complaints.map Complaint.json)

/-- Runs the pass that an order asks for. -/
def Order.run (parse : CSharp.Parser) (o : Order) : Reply :=
  let program := CSharp.Compilation.ofFiles
    (o.sources.map fun (path, text) => CSharp.File.ofText parse path text)
  match generate { marker := o.marker, emitBootstrap := o.emitBootstrap } program.occurrences with
  | .ok result => .generated result
  | .error _ => .failed "The template cannot be used"

/-- Why a request gets no answer that can be read as JSON. -/
inductive Mishap where
  /-- The address is at fault. -/
  | address (fault : AddressFault)
  /-- A number in a complaint cannot be written. -/
  | outOfRange
  /-- The answer is a page for people. -/
  | page
  /-- Only the head of the answer was asked for. -/
  | headOnly
deriving DecidableEq, Repr

/-- The answer to a body that is at fault; it shows the values that the complaints are about. -/
def complain (findings : List Finding) : Except Mishap Reply :=
  if findings.any (·.about.isEndless) then .error .outOfRange
  else .ok (.invalid (findings.map Finding.complaint))

/-- The answer to the body of a request for a pass.  If the sources cannot be read at all, `trouble` says why. -/
def answerBody (parse : CSharp.Parser) (trouble : Option String) : Body → Except Mishap Reply
  | .absent => .ok (.invalid [.noBody])
  | .unreadable => .ok (.invalid [.unreadable])
  | .broken => .ok (.failed "There was an error parsing the body")
  | .value (.obj fields) =>
    match Order.ofFields fields, trouble with
    | .error findings, _ => complain findings
    | .ok _, some text => .ok (.failed text)
    | .ok order, none => .ok (order.run parse)
  | .value json => complain [⟨.noObject, json⟩]

/-- The paths of the pages that describe the service. -/
def pages : List String :=
  ["/docs", "/docs/oauth2-redirect", "/redoc", "/openapi.json"]

/-- Answers a request whose path is known. -/
def answer (parse : CSharp.Parser) (trouble : Option String) (method : String) (path : List Char)
    (body : Body) : Except Mishap Reply :=
  if path == "/health".toList then .ok (if method == "GET" then .healthy else .notAllowed)
  else if path == "/generate".toList then
    if method == "POST" then answerBody parse trouble body else .ok .notAllowed
  else if pages.any (·.toList == path) then
    if method == "GET" then .error .page else .ok .notAllowed
  else .ok .notFound

/-- Answers a request.  Methods may be written in small letters. -/
def handle (parse : CSharp.Parser) (trouble : Option String) (r : Request) : Except Mishap Reply :=
  match routeOf r.path with
  | .error fault => .error (.address fault)
  | .ok path =>
    let method := String.ofList (r.method.toList.map Char.toUpper)
    if method == "HEAD" then .error .headOnly else answer parse trouble method path r.body

end PropertyQuote.Service
