import InvocationClient.Endpoint
import InvocationClient.Log.Logger
import InvocationClient.Transport

/-! # Clients

A client is bound to one endpoint, one user agent, two timeouts and one logger. Nothing about it
changes after it has been made.
-/

namespace InvocationClient

abbrev Environment := List (String × String)

namespace Environment

def endpointVariable : String := "AWS_LAMBDA_RUNTIME_API"

def logLevelVariable : String := "AWS_LAMBDA_RUNTIME_CLIENT_LOG_LEVEL"

def handlerVariable : String := "_HANDLER"

def logSetting (env : Environment) : Option String :=
  Association.get? logLevelVariable env

end Environment

/-- Who the client says it is, unless told otherwise; `version` is that of the language runtime. -/
def defaultUserAgent (version : String) : String :=
  "aws-lambda-python/" ++ version ++ "-lambda-runtime-client/0.1.0"

structure Options where
  userAgent : Option String := none
  /-- Seconds to wait for the next invocation. -/
  pollTimeout : Float := 3600.0
  /-- Seconds to wait for all else. -/
  requestTimeout : Float := 30.0
  logger : LogTarget := .absent
  logLevel : Option Level := none

structure Client where
  endpoint : Endpoint
  userAgent : String
  pollTimeout : Float
  requestTimeout : Float
  logger : Logger

namespace Client

def baseUrl (c : Client) : String := c.endpoint.baseUrl

/-- The HTTP connection that a client makes if it is given no transport. -/
def connect (c : Client) (replies : List Http.Reply) : Transport :=
  .http (.ofUrl c.baseUrl c.requestTimeout true replies)

structure Opening where
  result : Except Failure Client
  registry : Registry
  records : List Record

def initializing (baseUrl : String) : Entry where
  level := .info
  message := ⟨"Initializing RuntimeClient for %s", [.text baseUrl]⟩

/-- A user agent that is empty counts as none. -/
def chooseUserAgent (given : Option String) (version : String) : String :=
  match given with
  | some agent => if agent = "" then defaultUserAgent version else agent
  | none => defaultUserAgent version

/-- Makes a client; a text that is no endpoint ends it before anything else is done. -/
def make (registry : Registry) (process : Environment) (version : String) (options : Options)
    (given : Option String) : Opening :=
  match Endpoint.parse given with
  | .error f => ⟨.error f, registry, []⟩
  | .ok endpoint =>
    let (logger, registry) :=
      Logger.create registry process.logSetting options.logger options.logLevel
    let client : Client :=
      { endpoint
        userAgent := chooseUserAgent options.userAgent version
        pollTimeout := options.pollTimeout
        requestTimeout := options.requestTimeout
        logger }
    ⟨.ok client, registry, logger.record registry (initializing client.baseUrl)⟩

def endpointMissing : Failure :=
  .client ⟨.invalidEndpoint (Environment.endpointVariable ++ " is not set"), .absent⟩

/-- Makes a client for the endpoint that `env` names. -/
def openFrom (env : Environment) (registry : Registry) (process : Environment) (version : String)
    (options : Options) : Opening :=
  match Association.get? Environment.endpointVariable env with
  | none => ⟨.error endpointMissing, registry, []⟩
  | some given =>
    if given = "" then ⟨.error endpointMissing, registry, []⟩
    else make registry process version options (some given)

end Client

end InvocationClient
