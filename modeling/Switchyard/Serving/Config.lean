import Switchyard.Json.Record
import Switchyard.Serving.Sampling

/-!
The configuration of a server, and its JSON form, in which every value may be left out.
-/

set_option autoImplicit false

namespace Switchyard.Serving

inductive NotFoundPolicy where
  /-- It is answered with an empty response. -/
  | fixedResponse
  /-- It counts as a failure. -/
  | raise
  deriving Repr, DecidableEq

def NotFoundPolicy.name : NotFoundPolicy → String
  | .fixedResponse => "fixed_response"
  | .raise => "raise"

structure SamplingConfig where
  interval : UInt64 := 8
  threshold : Int64 := 10000
  deriving Repr, DecidableEq

def SamplingConfig.gate (config : SamplingConfig) : Gate :=
  .ofInterval config.interval config.threshold

def wordMax : Nat := UInt64.size - 1

/-- How requests are executed.  All numbers are machine words. -/
structure ExecutionConfig where
  coreThreads : Nat := 8
  maxThreads : Nat := 400
  queueCapacity : Nat := 10000
  idleTimeoutSeconds : Nat := 60
  threadNamePrefix : String := "nio-"
  deriving Repr, DecidableEq

inductive ConfigError where
  | zeroThreads
  | coreExceedsMax (core max : Nat)
  deriving Repr, DecidableEq

def ConfigError.message : ConfigError → String
  | .zeroThreads => "worker pool needs at least one core thread"
  | .coreExceedsMax core max => s!"core threads {core} exceed max threads {max}"

namespace ExecutionConfig

/-- The number of requests admitted at once, running or queued, or the greatest number if the sum
is beyond it. -/
def capacity (config : ExecutionConfig) : Nat :=
  min (config.maxThreads + config.queueCapacity) wordMax

def validate (config : ExecutionConfig) : Except ConfigError Unit :=
  if config.coreThreads = 0 then .error .zeroThreads
  else if config.maxThreads < config.coreThreads then
    .error (.coreExceedsMax config.coreThreads config.maxThreads)
  else .ok ()

end ExecutionConfig

structure Config where
  notFound : NotFoundPolicy := .fixedResponse
  sampling : SamplingConfig := {}
  execution : ExecutionConfig := {}
  errorCode : Int := 0
  maxBodySize : Nat := 1048576
  /-- Whether a path may have a trailing slash that its pattern has not. -/
  tolerant : Bool := false
  deriving Repr, DecidableEq

namespace Config

open Json (Reader)

def validate (config : Config) : Except ConfigError Unit :=
  config.execution.validate

def checked (config : Config) : Except ConfigError Config :=
  config.validate.map fun _ => config

def word (expected : String) : Reader Nat :=
  return (← Reader.integer expected 0 wordMax).toNat

def signedWord : Reader Int :=
  Reader.integer "i64" Int64.minValue.toInt Int64.maxValue.toInt

def samplingFields : List (Reader.Field SamplingConfig) :=
  [⟨"interval", fun config =>
      return { config with interval := UInt64.ofNat (← word "u64") }⟩,
   ⟨"min_threshold", fun config =>
      return { config with threshold := Int64.ofInt (← signedWord) }⟩]

def executionFields : List (Reader.Field ExecutionConfig) :=
  [⟨"core_threads", fun config => return { config with coreThreads := ← word "usize" }⟩,
   ⟨"max_threads", fun config => return { config with maxThreads := ← word "usize" }⟩,
   ⟨"queue_capacity", fun config => return { config with queueCapacity := ← word "usize" }⟩,
   ⟨"idle_timeout_secs", fun config =>
      return { config with idleTimeoutSeconds := ← word "u64" }⟩,
   ⟨"thread_name_prefix", fun config =>
      return { config with threadNamePrefix := ← Reader.textValue }⟩]

def policies : List (String × NotFoundPolicy) :=
  [NotFoundPolicy.fixedResponse, .raise].map fun policy => (policy.name, policy)

def fields : List (Reader.Field Config) :=
  [⟨"not_found", fun config => return { config with notFound := ← Reader.choice policies }⟩,
   ⟨"sampling", fun config =>
      return { config with
        sampling := ← Reader.record "struct SamplingConfig" samplingFields {} }⟩,
   ⟨"execution", fun config =>
      return { config with
        execution := ← Reader.record "struct ExecutionConfig" executionFields {} }⟩,
   ⟨"error_code", fun config => return { config with errorCode := ← signedWord }⟩,
   ⟨"max_body_size", fun config => return { config with maxBodySize := ← word "usize" }⟩,
   ⟨"use_trailing_slash_match", fun config => return { config with tolerant := ← Reader.flag }⟩]

def read (octets : Octets) : Except Json.Located Config :=
  Json.document (Reader.record "struct DispatcherConfig" fields {}) octets

end Config

end Switchyard.Serving
