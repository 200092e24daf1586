import Dataflow.Chat
import Dataflow.Http
import Dataflow.Json.Reader
import Dataflow.Provider.Basic
import Dataflow.Text.Basic

/-!
# Asking a provider

A request to a model becomes an HTTP request to its provider, and what comes
back a response or a failure. The status says which: some are worth another try,
some are not. An answer may also report more tokens than can be counted, which is
neither: the program breaks off over it.
-/

namespace Dataflow

namespace Provider

/-- The format asked for when a request states none. -/
def defaultFormat? : Provider → Option ResponseFormat
  | .openai => some .jsonObject
  | .perplexity => none

/-- The fields of a call that only this provider wants. -/
def ownFields : Provider → List (String × Json)
  | .openai => []
  | .perplexity => [("stream", .bool false)]

/-- The body of a call. -/
def body (p : Provider) (q : Request) : Json :=
  .object (q.completionFields p.defaultFormat? ++ p.ownFields)

/-- The characters of a body that a failure holds. -/
def snippetLength : Nat := 200

/-- The failure to reach a provider. -/
def unreachable (p : Provider) : Failure := .provider p.name 0 "transport" true

/-- The milliseconds to wait after a number of seconds, as far as 64 bits hold
them. -/
def waitOfSeconds (seconds : Double) : UInt64 :=
  if seconds.isNonnegative then
    let milliseconds := Double.productRank seconds.rank (Double.ofWord 1000).rank
    .ofNat (min (BinaryFormat.double.wholeOf milliseconds) (UInt64.size - 1))
  else 0

/-- The milliseconds to wait that a body asks for: one second unless it says. -/
def waitOf (body : String) : UInt64 :=
  let seconds? := do (← (← (← Json.parse? body).get? "error").get? "retry_after").double?
  (seconds?.map waitOfSeconds).getD 1000

/-- The failure that a status other than success stands for. -/
def failureOf (p : Provider) (status : UInt16) (body : String) : Failure :=
  if status = 429 then .rateLimited p.name (waitOf body)
  else if status = 401 ∨ status = 403 then .unauthorized p.name
  else
    .provider p.name status (firstChars snippetLength body)
      (status = 500 || status = 502 || status = 503 || status = 504)

/-- What an answer of the provider says; nothing where the usage in it overflows. -/
def read? (p : Provider) : Delivery → Option (Except Failure Response)
  | .refused | .cut => some (.error p.unreachable)
  | .answered status bytes =>
    let body := textOfBytes bytes
    if 200 ≤ status && status < 300 then
      match Json.parse? body with
      | some v => (Response.ofCompletion? v).map .ok
      | none => some (.error (.provider p.name status "Failed to parse response JSON" false))
    else some (.error (p.failureOf status body))

end Provider

namespace Service

/-- The HTTP request for a request. -/
def message (s : Service) (q : Request) : HttpRequest where
  url := Url.below s.baseUrl s.provider.path
  authorization := "Bearer " ++ s.key
  body := s.provider.body q

/-- Asks a provider over a network: what comes of it, after how many milliseconds. A
request that cannot leave fails at once. -/
def ask {σ : Type} (s : Service) (transport : Transport σ) (q : Request) (world : σ) :
    UInt64 × Option (Except Failure Response) × σ :=
  let message := s.message q
  if message.isSendable then
    let (reply, world) := transport message world
    (reply.delayMs, s.provider.read? reply.delivery, world)
  else (0, some (.error s.provider.unreachable), world)

end Service

end Dataflow
