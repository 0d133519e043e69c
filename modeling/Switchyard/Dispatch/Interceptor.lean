import Switchyard.Attempt
import Switchyard.Dispatch.Handler
import Switchyard.Failure

/-!
Interceptors, the user code that is called around handlers, and the paths that they are mapped to.
-/

set_option autoImplicit false

namespace Switchyard.Dispatch

open Http (Response)
open Route (Pattern RouteError)

/-- An interceptor.  It is called before the handler, where it may stop the request by returning
false; after the handler, where it may change the response; and when the request has ended. -/
structure Interceptor (σ : Type) where
  preHandle : Exchange → Handler σ → σ → (Attempt Cause Bool × Exchange) × σ :=
    fun exchange _ state => ((.returned true, exchange), state)
  postHandle : Exchange → Handler σ → Response → σ →
      (Attempt Cause Unit × Exchange × Response) × σ :=
    fun exchange _ response state => ((.returned (), exchange, response), state)
  afterCompletion : Exchange → Handler σ → Option Failure → σ → Attempt Cause Unit × σ :=
    fun _ _ _ state => (.returned (), state)

/-- The paths that an interceptor is mapped to: those that some include matches, or all if there
are no includes, but none that an exclude matches. -/
structure Mapping where
  includes : List Pattern
  excludes : List Pattern
  deriving Repr, DecidableEq

namespace Mapping

def everywhere : Mapping := ⟨[], []⟩

/-- Reads patterns up to the first malformed one. -/
def readPatterns (texts : List String) : Except RouteError (List Pattern) :=
  texts.mapM fun text => (Pattern.parse text).mapError (.invalidPattern text)

def read (includes excludes : List String) : Except RouteError Mapping := do
  let included ← readPatterns includes
  let excluded ← readPatterns excludes
  return ⟨included, excluded⟩

def takes (mapping : Mapping) (path : String) : Bool :=
  !(mapping.excludes.any fun pattern => pattern.matchesPath path false) &&
    (mapping.includes.isEmpty ||
      mapping.includes.any fun pattern => pattern.matchesPath path false)

end Mapping

structure MappedInterceptor (σ : Type) where
  interceptor : Interceptor σ
  mapping : Mapping

structure Interceptors (σ : Type) where
  entries : List (MappedInterceptor σ)

namespace Interceptors

variable {σ : Type}

def none : Interceptors σ := ⟨[]⟩

def append (interceptors : Interceptors σ) (mapped : MappedInterceptor σ) : Interceptors σ :=
  ⟨interceptors.entries ++ [mapped]⟩

def addLast (interceptors : Interceptors σ) (interceptor : Interceptor σ) : Interceptors σ :=
  interceptors.append ⟨interceptor, .everywhere⟩

def addFirst (interceptors : Interceptors σ) (interceptor : Interceptor σ) : Interceptors σ :=
  ⟨⟨interceptor, .everywhere⟩ :: interceptors.entries⟩

def forPath (interceptors : Interceptors σ) (path : String) : List (Interceptor σ) :=
  (interceptors.entries.filter fun mapped => mapped.mapping.takes path).map
    MappedInterceptor.interceptor

end Interceptors

end Switchyard.Dispatch
