import Dataflow.Json.Value

/-!
# HTTP

The requests that leave the program, the addresses they go to, and what comes back. The network
is a parameter: a function that may depend on all requests before.
-/

namespace Dataflow

/-!
## Addresses

The parts of the absolute addresses that requests are sent to.
-/

namespace Url

/-- The schemes that requests can be sent by. -/
def schemes : List String := ["http://", "https://"]

/-- What follows the scheme of an absolute address. -/
def afterScheme? (url : String) : Option (List Char) :=
  (schemes.find? fun scheme => scheme.toList.isPrefixOf url.toList).map fun scheme =>
    url.toList.drop scheme.length

def isAbsolute (url : String) : Bool := (afterScheme? url).isSome

/-- The host of an address: what stands before the first slash. -/
def host (url : String) : String :=
  String.ofList (((afterScheme? url).getD []).takeWhile (· != '/'))

def path (url : String) : String :=
  String.ofList (((afterScheme? url).getD []).dropWhile (· != '/'))

/-- An address without the slashes at its end. -/
def withoutTrailingSlashes (url : String) : String :=
  String.ofList (url.toList.reverse.dropWhile (· == '/')).reverse

/-- The address of a path below a base. -/
def below (base path : String) : String := withoutTrailingSlashes base ++ path

end Url

/-!
## Messages

The requests that leave the program and what comes back. The network is a
parameter: a function that may depend on all requests before.
-/

/-- A request that posts JSON. -/
structure HttpRequest where
  url : String
  authorization : String
  body : Json

namespace HttpRequest

/-- The method of every request. -/
def method : String := "POST"

/-- The type of every body. -/
def contentType : String := "application/json"

/-- Whether a text may stand in a header: it has no control characters but tabs. -/
def isHeaderText (s : String) : Bool :=
  s.toList.all fun c => c = '\t' || (0x20 ≤ c.toNat && c.toNat ≠ 0x7F)

/-- Whether the request can leave. -/
def isSendable (q : HttpRequest) : Bool :=
  Url.isAbsolute q.url && isHeaderText q.authorization

end HttpRequest

/-- What comes of a request that left. -/
inductive Delivery where
  /-- There is no connection. -/
  | refused
  /-- The body breaks off. -/
  | cut
  /-- An answer. -/
  | answered (status : UInt16) (body : List UInt8)
  deriving DecidableEq

/-- What comes of a request, and after how many milliseconds. -/
structure HttpReply where
  delayMs : UInt64
  delivery : Delivery

/-- The network, in a state of its own. -/
abbrev Transport (σ : Type) := HttpRequest → σ → HttpReply × σ

end Dataflow
