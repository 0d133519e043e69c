import Switchyard.Dispatch.Adapter
import Switchyard.Dispatch.Chain
import Switchyard.Dispatch.Resolver
import Switchyard.Text.Quoted

/-!
Short descriptions for diagnostics: a type with its fields, texts in double quotes, and user code
shown by names or numbers alone.
-/

set_option autoImplicit false

namespace Switchyard.Inspect

open Conversion (Registry)
open Dispatch (Adapters Chain Handler Interceptors MappedInterceptor Resolvers)
open Route (Pattern)
open Text (quoted quotedList)

def braced (inner : String) : String :=
  "\x7b " ++ inner ++ " \x7d"

def field (name value : String) : String :=
  name ++ ": " ++ value

def described (type : String) (fields : List (String × String)) : String :=
  type ++ " " ++ braced (String.intercalate ", " (fields.map fun entry => field entry.1 entry.2))

def partlyDescribed (type : String) (fields : List (String × String)) : String :=
  type ++ " " ++
    braced (String.intercalate ", " ((fields.map fun entry => field entry.1 entry.2) ++ [".."]))

def listed (items : List String) : String :=
  "[" ++ String.intercalate ", " items ++ "]"

variable {σ : Type}

def handler (shown : Handler σ) : String :=
  described "Handler" [("name", quoted shown.name), ("kind", quoted shown.kind.name)]

def chain (shown : Chain σ) : String :=
  described "ExecutionChain"
    [("handler", quoted shown.handler.name),
     ("interceptors", toString shown.interceptors.length),
     ("cursor", toString shown.cursor),
     ("state", shown.state.name)]

def mappedInterceptor (shown : MappedInterceptor σ) : String :=
  described "MappedInterceptor"
    [("includes", quotedList (shown.mapping.includes.map Pattern.text)),
     ("excludes", quotedList (shown.mapping.excludes.map Pattern.text))]

def interceptors (shown : Interceptors σ) : String :=
  described "Interceptors" [("entries", listed (shown.entries.map mappedInterceptor))]

def registry (shown : Registry) : String :=
  quotedList (shown.converters.map Conversion.Converter.name)

def adapters (shown : Adapters σ) : String :=
  quotedList (shown.adapters.map Dispatch.Adapter.name)

def resolvers (shown : Resolvers σ) : String :=
  partlyDescribed "ResolverChain"
    [("resolvers", toString shown.resolvers.length),
     ("fallback", described "DefaultExceptionResolver"
       [("error_code", toString shown.errorCode)])]

end Switchyard.Inspect
