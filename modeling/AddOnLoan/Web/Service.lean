import AddOnLoan.Json.Encoding
import AddOnLoan.View.Slim
import AddOnLoan.Web.Payload
import AddOnLoan.Web.Settings

namespace AddOnLoan

structure Response where
  status : Nat
  body : Json

namespace Response

def problem (text : Text) : Response := ⟨400, .object [("error", .text text)]⟩

def failure : Response := ⟨500, .null⟩

def tooLarge : Response := ⟨413, .null⟩

end Response

/-- Whether a content type, its parameters aside, announces JSON. Only spaces and tabs may stand
around it. -/
def isJsonType (contentType : Text) : Bool :=
  let kind := lower <| stripOf (fun c => c == ' ' || c == '\t') <|
    contentType.chars.takeWhile (· != ';')
  kind == "application/json".toList ||
    ("application/".toList.isPrefixOf kind && "+json".toList.isSuffixOf kind)

inductive RequestBody where
  | absent
  | text (contentType : Option Text) (body : Text)

namespace RequestBody

/-- Turns down what cannot be sent: text for which there are no bytes, and a content type of several
lines. -/
def check : RequestBody → Except Refusal Unit
  | absent => .ok ()
  | text contentType body => do
    body.checkWritable fun _ => false
    if contentType.any fun t => t.holds '\r' || t.holds '\n' then
      throw (.input .lineEndInContentType)

def announcesJson : RequestBody → Bool
  | absent => false
  | text contentType _ => contentType.any isJsonType

/-- The number of bytes that are sent. An empty text is not sent at all. -/
def size? : RequestBody → Option Nat
  | absent => none
  | text _ body => if body.isEmpty then none else some body.byteSize

/-- Turns down more bytes than are allowed. A limit that is no number is found out only here. -/
def checkSize (body : RequestBody) (largest : Json) : Except Refusal Unit :=
  match largest, body.size? with
  | .null, _ | _, none => .ok ()
  | largest, some size =>
    match largest.isBelow? size with
    | none => .error .unusableSetting
    | some true => .error .bodyTooLarge
    | some false => .ok ()

def decode (deepest : Nat) : RequestBody → Except Json.ReadError Json
  | absent => .error .malformed
  | text _ body => Json.readBody deepest body.toString

def read (body : RequestBody) (largest : Json) (deepest : Nat) : Except Refusal (Option Json) :=
  if body.announcesJson then do
    body.checkSize largest
    match body.decode deepest with
    | .ok v => return some v
    | .error .malformed => return none
    | .error .tooDeep => throw .bodyTooDeep
  else .ok none

end RequestBody

structure Request where
  /-- The names of the query, each with its text. -/
  query : List (Text × Text) := []
  body : RequestBody := .absent

namespace Request

/-- Turns down what cannot be sent. The body is looked at before the query. -/
def check (request : Request) : Except Refusal Unit := do
  request.body.check
  request.query.forM fun (name, text) => do
    name.checkWritable fun _ => false
    text.checkWritable fun _ => false

/-- The shape that is asked for; of several the first. -/
def shape (request : Request) : Text :=
  ((request.query.find? fun entry => entry.1 == ("shape" : Text)).map fun entry => entry.2).getD
    Shape.rich.name

end Request

namespace Settings

def scheduleOf (settings : Settings) (payload : Payload) :
    Except Refusal (Schedule × CurrencyEntry) := do
  let (terms, entry) ← payload.terms settings.defaultCurrency settings.maxRepayments
  return (← (settings.engine.generate terms).outcome, entry)

/-- The answer to a payload. A refusal is the fault of the request only up to the schedule. -/
def respondTo (settings : Settings) (shape : Shape) (payload : Payload) :
    Except Refusal Response :=
  match settings.scheduleOf payload with
  | .ok (schedule, entry) => return ⟨200, ← shape.assemble schedule entry⟩
  | .error r => if r.kind.isAboutInput then .ok (.problem r.message) else .error r

/-- The answer to a request for a schedule: the shape is looked at first, then the body. -/
def answer (settings : Settings) (request : Request) : Except Refusal Response :=
  match Shape.ofName? request.shape with
  | none => .ok (.problem ("Unknown shape " ++ request.shape))
  | some shape => do
    match ← request.body.read settings.largestBody settings.deepestBody with
    | some (.object payload) => settings.respondTo shape payload
    | _ => return .problem "Request body must be a JSON object"

/-- What becomes of a fault: it is handed on or hidden behind an answer, as it is set. -/
def respondToFault (settings : Settings) (fault : Refusal) : Except Refusal Response :=
  if fault = .bodyTooLarge ∧ !settings.sizeIsFault then .ok .tooLarge
  else if settings.handsOnFaults then .error fault
  else .ok .failure

def respond (settings : Settings) (request : Request) : Except Refusal Response := do
  request.check
  match settings.answer request with
  | .error fault => settings.respondToFault fault
  | response => response

end Settings

def currencyList : Response :=
  ⟨200, .array (catalogue.map fun entry => .object [
    ("code", .text entry.code),
    ("name", .text entry.name),
    ("decimalPlaces", .int entry.places),
    ("displaySymbol", .text entry.symbol)])⟩

end AddOnLoan
