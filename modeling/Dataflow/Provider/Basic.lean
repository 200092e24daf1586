import Dataflow.Failure
import Dataflow.Text.Basic
import Dataflow.Text.Quoted

/-!
# Providers

The services whose models can be asked for a graph, the choice of a caller between them, and the
keys that they are reached with.
-/

namespace Dataflow

/-!
## Providers

The services whose models can be asked for a graph, and the choice of a caller
between them.
-/

/-- A service that gives access to models. -/
inductive Provider where
  | perplexity
  | openai
  deriving DecidableEq

namespace Provider

def name : Provider → String
  | .perplexity => "perplexity"
  | .openai => "openai"

/-- The model that is asked unless another is preferred. -/
def defaultModel : Provider → String
  | .perplexity => "sonar-small"
  | .openai => "gpt-4o-mini"

/-- The models that are tried after the first. -/
def fallbackModels : Provider → List String
  | .perplexity => ["sonar-small", "sonar-medium", "sonar"]
  | .openai => ["gpt-4o-mini", "gpt-4.1-mini", "gpt-4o"]

/-- Where the provider is reached. -/
def baseUrl : Provider → String
  | .perplexity => "https://api.perplexity.ai"
  | .openai => "https://api.openai.com"

/-- The path of chat completions below the base URL. -/
def path : Provider → String
  | .perplexity => "/chat/completions"
  | .openai => "/v1/chat/completions"

/-- The variable that holds the key. -/
def keyVariable : Provider → String
  | .perplexity => "PERPLEXITY_API_KEY"
  | .openai => "OPENAI_API_KEY"

end Provider

/-- The models to try, in order: the preferred or else the default one, then the
fallbacks, none of them twice. -/
def modelSequence (preferred? : Option String) (default : String) (fallbacks : List String) :
    List String :=
  (preferred?.getD default :: fallbacks).eraseDups

/-- The providers that a caller allows. -/
inductive Preference where
  | perplexity
  | openai
  /-- Both, Perplexity first. -/
  | any
  deriving DecidableEq

namespace Preference

def name : Preference → String
  | .perplexity => "perplexity"
  | .openai => "openai"
  | .any => "any"

/-- The providers allowed, in the order in which they are tried. -/
def providers : Preference → List Provider
  | .perplexity => [.perplexity]
  | .openai => [.openai]
  | .any => [.perplexity, .openai]

def allows (p : Preference) (provider : Provider) : Bool := p.providers.contains provider

/-- The preference when none is stated. -/
def default : Preference := .perplexity

/-- The preference of a lower-case name. No name is the default. -/
def ofName? : String → Option Preference
  | "" | "perplexity" => some .perplexity
  | "openai" => some .openai
  | "any" | "auto" => some .any
  | _ => none

/-- Reads a preference; blanks around the name and the case of its letters do not
matter. -/
def parse (text : String) : Except Failure Preference :=
  let name := (trim text).map Char.toLower
  match ofName? name with
  | some p => .ok p
  | none =>
    .error (.other
      ("unknown provider '" ++ name ++ "' (expected perplexity, openai or any)"))

/-- Which key is missing when no provider allowed has one. -/
def missingKeys : Preference → String
  | .perplexity => "No Perplexity key"
  | .openai => "No OpenAI key"
  | .any => "No OpenAI or Perplexity key"

end Preference

/-!
## Credentials

The keys and addresses of providers, and what is chosen with them: the services
that a preference allows and that have a key. Nothing printed depends on the
text of a key.
-/

/-- Keys and addresses of the providers, and the model to try first. -/
structure Credentials where
  openaiKey? : Option String := none
  perplexityKey? : Option String := none
  openaiUrl? : Option String := none
  perplexityUrl? : Option String := none
  preferredModel? : Option String := none
  deriving DecidableEq

namespace Credentials

/-- The credentials that variables hold; a blank variable counts as unset. -/
def ofVariables (value? : String → Option String) : Credentials :=
  let filled (name : String) := (value? name).filter (!isBlankText ·)
  { openaiKey? := filled "OPENAI_API_KEY"
    perplexityKey? := filled "PERPLEXITY_API_KEY"
    openaiUrl? := filled "OPENAI_PROXY_URL"
    perplexityUrl? := filled "PERPLEXITY_PROXY_URL"
    preferredModel? := filled "NLPFLOW_MODEL" }

def hasKey (c : Credentials) : Bool := c.openaiKey?.isSome || c.perplexityKey?.isSome

def key? (c : Credentials) : Provider → Option String
  | .openai => c.openaiKey?
  | .perplexity => c.perplexityKey?

/-- The address to use for a provider instead of its own. -/
def url? (c : Credentials) : Provider → Option String
  | .openai => c.openaiUrl?
  | .perplexity => c.perplexityUrl?

/-- The text for logs, with the keys masked. -/
def masked (c : Credentials) : String :=
  let mask (key? : Option String) := shownOption (key?.map fun _ => quoted "***")
  let shown (text? : Option String) := shownOption (text?.map quoted)
  "Credentials \x7b openai_key: " ++ mask c.openaiKey?
    ++ ", perplexity_key: " ++ mask c.perplexityKey?
    ++ ", openai_base_url: " ++ shown c.openaiUrl?
    ++ ", perplexity_base_url: " ++ shown c.perplexityUrl?
    ++ ", preferred_model: " ++ shown c.preferredModel? ++ " \x7d"

end Credentials

/-- Access to a provider. -/
structure Service where
  provider : Provider
  key : String
  baseUrl : String
  model : String
  deriving DecidableEq

namespace Service

/-- Access with a key to a provider at its own address. -/
def ofKey (provider : Provider) (key : String) : Service where
  provider
  key
  baseUrl := provider.baseUrl
  model := provider.defaultModel

/-- Access with the key that the provider's variable holds; a blank key is one. -/
def ofVariables (provider : Provider) (value? : String → Option String) :
    Except Failure Service :=
  match value? provider.keyVariable with
  | some key => .ok (ofKey provider key)
  | none => .error (.unauthorized provider.name)

/-- The text for logs: the name alone. -/
def masked (s : Service) : String := "DynProvider(" ++ quoted s.provider.name ++ ")"

end Service

/-- A service and the models to try on it. -/
structure ServiceFamily where
  service : Service
  models : List String
  deriving DecidableEq

namespace ServiceFamily

/-- The name of a family is that of its provider. -/
def name (f : ServiceFamily) : String := f.service.provider.name

/-- The text for logs: name and models. -/
def masked (f : ServiceFamily) : String :=
  "ProviderFamily \x7b name: " ++ quoted f.name ++ ", models: ["
    ++ String.intercalate ", " (f.models.map quoted) ++ "] \x7d"

end ServiceFamily

namespace Credentials

/-- The family of a provider, if there is a key for it. -/
def family? (c : Credentials) (provider : Provider) : Option ServiceFamily :=
  (c.key? provider).map fun key => {
    service := { Service.ofKey provider key with
      baseUrl := (c.url? provider).getD provider.baseUrl }
    models := modelSequence c.preferredModel? provider.defaultModel provider.fallbackModels }

/-- The families that a preference allows, in its order. -/
def families (c : Credentials) (preference : Preference) : List ServiceFamily :=
  preference.providers.filterMap c.family?

end Credentials

end Dataflow
