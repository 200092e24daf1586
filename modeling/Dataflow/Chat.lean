import Dataflow.Failure
import Dataflow.Json.Value

/-!
# Chats with models

What a model is asked, what it answers and at what cost, and the hooks around every call.
-/

namespace Dataflow

/-!
## Requests

What a model is asked: messages, and limits on the answer.
-/

/-- Who speaks in a message. -/
inductive Role where
  | system
  | user
  | assistant
  deriving DecidableEq

namespace Role

def name : Role → String
  | .system => "system"
  | .user => "user"
  | .assistant => "assistant"

def names : List (String × Role) :=
  [("system", .system), ("user", .user), ("assistant", .assistant)]

end Role

structure Message where
  role : Role
  content : String
  deriving DecidableEq

namespace Message

def ofJson? (v : Json) : Option Message := do
  let r ← v.record? ["role", "content"]
  let role ← r.required "role" (Json.case? Role.names)
  let content ← r.required "content" Json.string?
  return { role, content }

def toJson (m : Message) : Json :=
  .object [("role", .string m.role.name), ("content", .string m.content)]

end Message

/-- The form that an answer is asked for in. -/
inductive ResponseFormat where
  | text
  | jsonObject
  deriving DecidableEq

namespace ResponseFormat

def name : ResponseFormat → String
  | .text => "text"
  | .jsonObject => "json_object"

def names : List (String × ResponseFormat) :=
  [("text", .text), ("json_object", .jsonObject)]

end ResponseFormat

/-- A sampling temperature: a number of single precision, or one beyond them. -/
inductive Temperature where
  | finite (value : Double)
  | infinite
  deriving DecidableEq

namespace Temperature

/-- The temperature nearest to a double. -/
def ofDouble (d : Double) : Temperature :=
  match d.toSingle? with
  | some value => .finite value
  | none => .infinite

/-- The temperature nearest to a number. -/
def ofNumber : Number → Temperature
  | .natural n => .finite (Double.singleOfNat false n.toNat)
  | .negative distance => .finite (Double.singleOfNat true (distance.val + 1))
  | .double d => ofDouble d

def ofJson? : Json → Option Temperature
  | .number n => some (ofNumber n)
  | _ => none

/-- The JSON form of a temperature; an infinite one has none. -/
def toJson : Temperature → Json
  | .finite value => .number (.double value)
  | .infinite => .null

end Temperature

structure Request where
  model : String
  messages : List Message
  maxTokens? : Option UInt32 := none
  temperature? : Option Temperature := none
  format? : Option ResponseFormat := none
  provider? : Option String := none
  deriving DecidableEq

namespace Request

/-- The request that tells a model of its task and asks it. -/
def chat (model system user : String) : Request :=
  { model, messages := [⟨.system, system⟩, ⟨.user, user⟩] }

def ofJson? (v : Json) : Option Request := do
  let r ← v.wholeRecord?
    ["model", "messages", "max_tokens", "temperature", "response_format", "provider"]
  let model ← r.required "model" Json.string?
  let messages ← r.required "messages" (Json.list? Message.ofJson?)
  let maxTokens? ← r.optional "max_tokens" Json.word32?
  let temperature? ← r.optional "temperature" Temperature.ofJson?
  let format? ← r.optional "response_format" (Json.case? ResponseFormat.names)
  let provider? ← r.optional "provider" Json.string?
  return { model, messages, maxTokens?, temperature?, format?, provider? }

/-- The JSON form of a request; what is absent is `null`. -/
def toJson (q : Request) : Json :=
  .object [
    ("model", .string q.model),
    ("messages", .array (q.messages.map Message.toJson)),
    ("max_tokens", (q.maxTokens?.map Json.ofWord32).getD .null),
    ("temperature", (q.temperature?.map Temperature.toJson).getD .null),
    ("response_format", (q.format?.map fun f => .string f.name).getD .null),
    ("provider", (q.provider?.map Json.string).getD .null)]

/-- The body of the call that asks for a chat completion. Plain text is asked for by
not asking for any format. -/
def completionFields (q : Request) (defaultFormat? : Option ResponseFormat) :
    List (String × Json) :=
  [("model", .string q.model), ("messages", .array (q.messages.map Message.toJson))]
    ++ Json.fieldOf "max_tokens" Json.ofWord32 q.maxTokens?
    ++ Json.fieldOf "temperature" Temperature.toJson q.temperature?
    ++ (match q.format?.or defaultFormat? with
      | some .jsonObject =>
        [("response_format", .object [("type", .string ResponseFormat.jsonObject.name)])]
      | some .text | none => [])

end Request

/-!
## Responses

What a model answered, and at what cost.
-/

/-- The tokens that a call took. -/
structure Usage where
  inputTokens : UInt64 := 0
  outputTokens : UInt64 := 0
  totalTokens : UInt64 := 0
  deriving DecidableEq

namespace Usage

def ofJson? (v : Json) : Option Usage := do
  let r ← v.record? ["input_tokens", "output_tokens", "total_tokens"]
  let inputTokens ← r.required "input_tokens" Json.word?
  let outputTokens ← r.required "output_tokens" Json.word?
  let totalTokens ← r.required "total_tokens" Json.word?
  return { inputTokens, outputTokens, totalTokens }

def toJson (u : Usage) : Json :=
  .object [
    ("input_tokens", .number (.natural u.inputTokens)),
    ("output_tokens", .number (.natural u.outputTokens)),
    ("total_tokens", .number (.natural u.totalTokens))]

end Usage

/-- Why a model stopped. -/
inductive FinishReason where
  | endTurn
  | maxTokens
  | contentFilter
  deriving DecidableEq

namespace FinishReason

def name : FinishReason → String
  | .endTurn => "end_turn"
  | .maxTokens => "max_tokens"
  | .contentFilter => "content_filter"

def names : List (String × FinishReason) :=
  [("end_turn", .endTurn), ("max_tokens", .maxTokens), ("content_filter", .contentFilter)]

/-- The reason that a chat completion gives. Whatever is not known is the end of the
turn. -/
def ofChat : Option String → FinishReason
  | some "length" => .maxTokens
  | some "content_filter" => .contentFilter
  | _ => .endTurn

end FinishReason

structure Response where
  id : String
  text : String
  usage : Usage
  model : String
  finishReason : FinishReason
  deriving DecidableEq

namespace Response

def ofJson? (v : Json) : Option Response := do
  let r ← v.record? ["id", "text", "usage", "model", "finish_reason"]
  let id ← r.required "id" Json.string?
  let text ← r.required "text" Json.string?
  let usage ← r.required "usage" Usage.ofJson?
  let model ← r.required "model" Json.string?
  let finishReason ← r.required "finish_reason" (Json.case? FinishReason.names)
  return { id, text, usage, model, finishReason }

def toJson (r : Response) : Json :=
  .object [
    ("id", .string r.id),
    ("text", .string r.text),
    ("usage", r.usage.toJson),
    ("model", .string r.model),
    ("finish_reason", .string r.finishReason.name)]

/-- The sum of two words, if it is one. -/
def sumOf? (a b : UInt64) : Option UInt64 :=
  if a.toNat + b.toNat < UInt64.size then some (a + b) else none

/-- The usage that a chat completion reports. What it does not report is zero, but for
the total, which is then the sum of the others. The sum is taken in any case, and there
is no usage where it overflows, whatever total is reported. -/
def usageOfCompletion? (body : Json) : Option Usage := do
  let count? (name : String) : Option UInt64 :=
    ((body.get? "usage").bind (Json.get? name)).bind Json.word?
  let inputTokens := (count? "prompt_tokens").getD 0
  let outputTokens := (count? "completion_tokens").getD 0
  let sum ← sumOf? inputTokens outputTokens
  return { inputTokens, outputTokens, totalTokens := (count? "total_tokens").getD sum }

/-- The response that a chat completion holds: its first choice. Whatever is missing or
of another kind is empty. There is none where the usage overflows. -/
def ofCompletion? (body : Json) : Option Response :=
  let choice? := (body.get? "choices").bind (Json.item? 0)
  let string (v? : Option Json) : String := (v?.bind Json.string?).getD ""
  (usageOfCompletion? body).map fun usage => {
    id := string (body.get? "id")
    text := string ((choice?.bind (Json.get? "message")).bind (Json.get? "content"))
    usage
    model := string (body.get? "model")
    finishReason :=
      .ofChat ((choice?.bind (Json.get? "finish_reason")).bind Json.string?) }

end Response

/-- What comes of a call, and after how many milliseconds. -/
structure Reply where
  delayMs : UInt64
  result : Except Failure Response

/-!
## Hooks

What is done around every call to a model: a request may be changed before it is
sent, and a response before it is used. Hooks run in order, before and after.
One kind of hook adds up what calls cost.
-/

/-- The number of calls that were answered, and the tokens they took, in 64 bits. -/
structure Tally where
  calls : UInt64 := 0
  inputTokens : UInt64 := 0
  outputTokens : UInt64 := 0
  deriving DecidableEq

/-- The tally with a response added. -/
def Tally.add (t : Tally) (r : Response) : Tally where
  calls := t.calls + 1
  inputTokens := t.inputTokens + r.usage.inputTokens
  outputTokens := t.outputTokens + r.usage.outputTokens

inductive Hook where
  /-- Adds responses to the tally. -/
  | tally
  /-- Changes requests and responses; the response is changed in view of the request
  it answers. -/
  | change (before : Request → Request) (after : Request → Response → Response)

namespace Hook

/-- The request as a hook leaves it. -/
def before : Hook → Request → Request
  | .tally, q => q
  | .change before _, q => before q

/-- The response to a request as a hook leaves it. -/
def after : Hook → Request → Response → Response
  | .tally, _, r => r
  | .change _ after, q, r => after q r

/-- The tally after a hook has seen a response. -/
def count : Hook → Response → Tally → Tally
  | .tally, r, t => t.add r
  | .change .., _, t => t

/-- The request as a list of hooks leaves it. -/
def beforeAll (hooks : List Hook) (q : Request) : Request := hooks.foldl (fun q h => h.before q) q

/-- The response and the tally as a list of hooks leaves them. -/
def afterAll : List Hook → Request → Response → Tally → Response × Tally
  | [], _, r, t => (r, t)
  | h :: rest, q, r, t => afterAll rest q (h.after q r) (h.count r t)

end Hook

end Dataflow
