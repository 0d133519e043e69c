import Switchyard.Json.Printer
import Switchyard.Serving.Server

/-!
Reports: JSON forms in which values are shown to a reader.

Octets that are UTF-8 are shown as a text and others by their digits.  An error is shown as an
object with its name and its message.
-/

set_option autoImplicit false

namespace Switchyard.Report

open Http (Body SendError)
open Json (Value)
open Media (MediaRange)
open Route (RouteError)
open Serving (BuildError Config ConfigError Stats Unbuilt)

def optional {α : Type} (report : α → Value) : Option α → Value
  | some value => report value
  | none => .null

def list {α : Type} (report : α → Value) (values : List α) : Value :=
  .list (values.map report)

def octets (content : Octets) : Value :=
  match Text.Utf8.decodeText content with
  | .ok found => .text found
  | .error _ => .ofMembers [("hex", .text content.toHex)]

def pairs (entries : List (String × String)) : Value :=
  list (fun entry => .texts [entry.1, entry.2]) entries

def table (entries : List (String × String)) : Value :=
  .ofMembers (entries.map fun entry => (entry.1, .text entry.2))

def payload : Option Payload → Value
  | none => .null
  | some (.octets content) => .ofMembers [("bytes", octets content)]
  | some (.text content) => .ofMembers [("text", .text content)]
  | some (.json value) => .ofMembers [("json_text", .text value.render)]
  | some (.form form) => .ofMembers [("form", pairs form.entries)]

def error (name message : String) (more : List (String × Value)) : Value :=
  .ofMembers ([("error", .text name), ("message", .text message)] ++ more)

def outcome {ε : Type} (report : ε → Value) : Except ε Unit → Value
  | .ok () => .text "ok"
  | .error found => report found

def failureName : Failure → String
  | .routeNotFound _ => "RouteNotFound"
  | .noAdapter _ => "NoAdapterForHandler"
  | .unsupportedMediaType _ => "UnsupportedMediaType"
  | .notAcceptable _ => "NotAcceptable"
  | .handlerFailed _ _ => "HandlerInvocation"
  | .interceptorFailed _ _ => "Interceptor"
  | .conversionFailed _ _ => "Conversion"
  | .transportFailed _ => "Transport"

def failure (found : Failure) : Value :=
  error (failureName found) found.message
    [("kind", .text found.kind), ("status", .nat found.status.code),
     ("fatal", .bool found.isFatal), ("client_message", .text found.clientMessage)]

def rejection (found : Rejection) : Value :=
  error "DispatchRejected" found.message [("capacity", .nat found.capacity)]

def routeError (found : RouteError) : Value :=
  match found with
  | .invalidPattern _ _ => error "InvalidPattern" found.message []
  | .conflict _ _ _ => error "RouteConflict" found.message []

def configError (found : ConfigError) : Value :=
  match found with
  | .zeroThreads => error "ZeroThreads" found.message []
  | .coreExceedsMax _ _ => error "CoreExceedsMax" found.message []

def buildError (found : Unbuilt) : Value :=
  match found with
  | .refused (.config cause) =>
      error "Config" (BuildError.config cause).message [("cause", configError cause)]
  | .refused (.router cause) =>
      error "Router" (BuildError.router cause).message [("cause", routeError cause)]
  | .refused (.pool reason) => error "Pool" (BuildError.pool reason).message []
  | .broken => error "BadInput" "too many permits" []

def sendError (found : SendError) : Value :=
  match found with
  | .closed => error "Closed" found.message []
  | .failed _ => error "Io" found.message []

def bodyTooLong (found : Http.BodyTooLong) : Value :=
  error "TooLargeBody" found.message
    [("current_size", .nat found.length), ("max_size", .nat found.limit)]

def body (found : Body) : Value :=
  .ofMembers
    [("len", .nat found.content.length), ("empty", .bool found.content.isEmpty),
     ("holds_lease", .bool found.holdsLease), ("content", octets found.content)]

def requestHead (head : Http.RequestHead) : Value :=
  .ofMembers
    [("method", .text head.method.token), ("path", .text head.path),
     ("query", optional .text head.query), ("carries_body", .bool head.carriesBody),
     ("keep_alive", .bool head.isKeepAlive),
     ("content_type", optional (fun media => .text media.text) head.contentType?),
     ("version", .text head.version.text), ("uri", .text head.target.text),
     ("header_count", .nat head.fields.entries.length)]

def mediaRange (range : MediaRange) : Value :=
  .ofMembers
    [("mime", .text range.text), ("essence", .text range.media.essence),
     ("quality_bits", .nat range.quality.bits), ("wildcard_type", .bool range.isWildcardType),
     ("wildcard_subtype", .bool range.isWildcardSubtype), ("concrete", .bool range.isConcrete),
     ("rank", .nat range.specificityRank), ("params", pairs range.media.parameters)]

def config (found : Config) : Value :=
  .ofMembers
    [("not_found", .text found.notFound.name),
     ("sampling", .ofMembers
       [("interval", .nat found.sampling.interval.toNat),
        ("min_threshold", .int found.sampling.threshold.toInt)]),
     ("execution", .ofMembers
       [("core_threads", .nat found.execution.coreThreads),
        ("max_threads", .nat found.execution.maxThreads),
        ("queue_capacity", .nat found.execution.queueCapacity),
        ("idle_timeout_secs", .nat found.execution.idleTimeoutSeconds),
        ("thread_name_prefix", .text found.execution.threadNamePrefix),
        ("capacity", .nat found.execution.capacity)]),
     ("error_code", .int found.errorCode),
     ("max_body_size", .nat found.maxBodySize),
     ("use_trailing_slash_match", .bool found.tolerant),
     ("validate", outcome configError found.validate)]

def route {H : Type} [Route.Registrable H] (found : Route.Routed H) : Value :=
  .ofMembers
    [("handler", .text (Route.Registrable.name found.handler)), ("pattern", .text found.pattern),
     ("params", pairs found.captures)]

def stats (found : Stats) : Value :=
  .ofMembers
    [("submitted", .nat found.submitted), ("rejected", .nat found.rejected),
     ("completed", .nat found.completed), ("failed", .nat found.failed),
     ("in_flight", .nat found.inFlight)]

end Switchyard.Report
