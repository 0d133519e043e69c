import Switchyard.Proofs.Conversion.Writing
import Switchyard.Proofs.Serving.Framing
import Switchyard.Proofs.Serving.Order
import Switchyard.Serving.Server

/-!
# Sending a body back

The longest way that a body can take: it is measured, read in its declared media type, handed to a
handler that gives it back, and written in a type that the client accepts.  What a dispatch without
interceptors comes to is what its handler comes to, so that all that can happen to a body on this
way is told by `read` and `write`.
-/

set_option autoImplicit false

namespace Switchyard

theorem Attempt.ofExcept_injective {ε α : Type} {first second : Except ε α}
    (same : Attempt.ofExcept first = Attempt.ofExcept second) : first = second := by
  cases first <;> cases second <;> cases same <;> rfl

namespace Media

/-- What a client accepts was read. -/
theorem exists_parse?_of_accepted {fields : Http.Fields} :
    ∀ range ∈ acceptedRanges fields, ∃ text, MediaRange.parse? text = some range := by
  intro range listed
  simp only [acceptedRanges] at listed
  split at listed
  case h_1 =>
      rw [List.mem_singleton.mp listed]
      exact ⟨"*/*", by decide⟩
  case h_2 =>
      obtain ⟨text, -, parsed⟩ := List.mem_filterMap.mp (List.mem_filter.mp listed).1
      exact ⟨text, parsed⟩

end Media

namespace Conversion.Registry

open Http (RequestHead contentTypeName)

/-- Whether a request declares a media type for its body that cannot be read. -/
def Misdeclared (head : RequestHead) : Prop :=
  ∃ value, head.fields.get? contentTypeName = some value ∧
    (Text.visible? value).bind Media.MediaRange.parse? = none

theorem declaredType?_eq_none_iff {head : RequestHead} :
    declaredType? head = none ↔ Misdeclared head := by
  unfold declaredType? Misdeclared
  cases head.fields.get? contentTypeName <;> simp

end Conversion.Registry

namespace Serving

open Conversion (Registry)
open Dispatch (Adapters Context Handler PendingCall Silent Transcript TypedHandler View)
open Http (Connection RequestHead Response)
open Media (MediaRange)
open Route (Routed Router)

variable {σ : Type} {services : Services σ} {session : Session} {context : Context}
  {handler : Handler σ} {said : Transcript} {ending : Ending} {typed : TypedHandler σ}

/-- A dispatch without interceptors comes to what its handler comes to. -/
theorem Course.alone (steady : services.adapters.Steady)
    (course : Course services session context handler [] said ending) :
    ∃ passed result second,
      Concludes services session context handler [] passed result second ending ∧
      View.writes.of said = View.writes.of second ∧
      ((∃ failure, services.adapters.prepare context handler = .error failure ∧
          result = .error failure) ∨
        ∃ call state, services.adapters.prepare context handler = .ok call ∧
          (call.run state).1.attempt = .ofExcept result) := by
  cases course with
  | died silent asks verdict prepared called quiet =>
      exact absurd called (steady.unbroken prepared _ _)
  | @answered opening first second passed result _ silent handled concludes =>
      refine ⟨passed, result, second, concludes, ?_, ?_⟩
      · rw [View.of_silent_append silent, View.of_append, handled.of_late id, List.nil_append]
      cases handled with
      | refused asks verdict =>
          cases asks
          cases verdict
      | stopped asks verdict =>
          cases asks
          cases verdict
      | unprepared _ _ prepared => exact .inl ⟨_, prepared, rfl⟩
      | failed _ _ prepared called _ => exact .inr ⟨_, _, prepared, called⟩
      | shown _ _ prepared called _ shows =>
          cases shows
          exact .inr ⟨_, _, prepared, called⟩

/-- Services without code of the user other than handlers, with the standard converters. -/
def plain (config : Config) : Services σ :=
  Setup.services { config }

/-- A handler that takes a body as octets and gives it back, in whatever media type. -/
structure Echoes (handler : Handler σ) (typed : TypedHandler σ) : Prop where
  kind : handler.kind = .typed typed
  input : typed.input = some .octets
  produces : typed.produces = []
  returns : ∀ context input state,
    ((typed.handle context input).run state).1 = .returned (.typed input)

theorem Echoes.prepare (echoes : Echoes handler typed) (config : Config) :
    (plain config).adapters.prepare context handler =
      (Registry.standard.read .octets context.head context.content).map fun input =>
        Dispatch.Adapter.callOf handler context.sampled id
          (fun answer => answer.render .standard (Media.acceptedRanges context.head.fields) [])
          (typed.handle context input) := by
  have resolved : (plain (σ := σ) config).adapters.resolve handler = .ok .converting := by
    simp [plain, Setup.services, Adapters.resolve, Adapters.ofUser, Dispatch.Adapter.supports,
      echoes.kind]
  have registry : (plain (σ := σ) config).adapters.registry = .standard := rfl
  simp only [Adapters.prepare, resolved, bind, Except.bind, Dispatch.Adapter.prepare, registry,
    Dispatch.Adapter.prepareConverting, echoes.kind, echoes.input, echoes.produces,
    Dispatch.Adapter.readInput]

/-- What an echo comes to: its body is read, and then written. -/
def echoed (head : RequestHead) (content : Octets) : Except Failure Response := do
  let input ← Registry.standard.read .octets head content
  Registry.standard.write input (Media.acceptedRanges head.fields) [] (.ofStatus .ok)

theorem echoed_eq {head : RequestHead} {content : Octets} (carries : head.carriesBody = true) :
    echoed head content =
      if content = [] then .ok (.ofStatus .ok)
      else
        match Registry.declaredType? head with
        | none => .error (.unsupportedMediaType (Registry.declaredText head))
        | some _ =>
            Registry.standard.write (some (.octets content)) (Media.acceptedRanges head.fields) []
              (.ofStatus .ok) := by
  unfold echoed
  rw [Registry.read_octets_of_carries carries]
  split
  · rfl
  · cases Registry.declaredType? head <;> rfl

theorem steady_plain (config : Config) : (plain (σ := σ) config).adapters.Steady :=
  Adapters.steady_ofUser nofun

theorem Course.echoed {config : Config} (echoes : Echoes handler typed)
    (course : Course (plain config) session context handler [] said ending) :
    ∃ passed second,
      Concludes (plain config) session context handler [] passed
        (Serving.echoed context.head context.content) second ending ∧
      View.writes.of said = View.writes.of second := by
  obtain ⟨passed, result, second, concludes, writes, came⟩ := course.alone (steady_plain config)
  rw [echoes.prepare] at came
  suffices same : result = Serving.echoed context.head context.content from
    ⟨passed, second, same ▸ concludes, writes⟩
  unfold Serving.echoed
  cases read : Registry.standard.read .octets context.head context.content with
  | error failure =>
      rw [read] at came
      rcases came with ⟨_, same, rfl⟩ | ⟨_, _, same, -⟩
      · cases same
        rfl
      · cases same
  | ok input =>
      rw [read] at came
      rcases came with ⟨_, same, -⟩ | ⟨call, state, same, called⟩
      · cases same
      · cases same
        have written : Attempt.ofExcept (Registry.standard.write input
            (Media.acceptedRanges context.head.fields) [] (.ofStatus .ok)) =
            Attempt.ofExcept result := by
          simpa [Dispatch.Adapter.callOf, Dispatch.Called.attempt, Dispatch.Adapter.conclude,
            Attempt.caught, echoes.returns, Dispatch.Answer.render, Dispatch.Answer.draft]
            using called
        exact (Attempt.ofExcept_injective written).symm

/-- A response is written, with what every response gets in the end. -/
def Wrote (said : Transcript) (response : Response) : Prop :=
  ∃ keepAlive version date, View.writes.of said = [finalized response keepAlive version date]

theorem Answers.wrote {response : Response} {outcome : Except Failure Unit}
    (answers : Answers session response said outcome) : Wrote said response := by
  obtain ⟨date, writes⟩ := answers.writes
  exact ⟨_, _, date, writes⟩

theorem Concludes.wrote_of_ok {response : Response} {passed : Nat}
    {interceptors : List (Dispatch.Interceptor σ)}
    (concludes : Concludes services session context handler interceptors passed (.ok response) said
      ending) : Wrote said response := by
  cases concludes with
  | succeeded tells answers =>
      unfold Wrote
      rw [View.of_append, View.of_eq_nil tells.within (by decide)]
      exact answers.wrote

/-- The response to a failure that is not fatal is found by the resolvers. -/
theorem Concludes.wrote_of_error {failure : Failure} {passed : Nat}
    {interceptors : List (Dispatch.Interceptor σ)} (curable : failure.isFatal = false)
    (concludes : Concludes services session context handler interceptors passed (.error failure)
      said ending) :
    ∃ resolving response,
      Dispatch.Resolvers.Resolves services.resolvers context (some handler) failure resolving
        response ∧ Wrote said response := by
  cases concludes with
  | failed _ resolves tells answers =>
      refine ⟨_, _, resolves, ?_⟩
      unfold Wrote
      rw [View.of_append, View.of_append, View.of_eq_nil resolves.within (by decide),
        View.of_eq_nil tells.within (by decide)]
      exact answers.wrote
  | fatal fatal => simp [curable] at fatal

/-- Without resolvers the response to a failure has the status of the failure. -/
theorem status_of_resolves {resolvers : Dispatch.Resolvers σ} {found : Option (Handler σ)}
    {failure : Failure} {response : Response} (nobody : resolvers.resolvers = [])
    (resolves : Dispatch.Resolvers.Resolves resolvers context found failure said response) :
    response.status = failure.status := by
  cases resolves with
  | answered consults _ _ =>
      rw [nobody] at consults
      cases consults
  | unanswered _ _ renders =>
      simp only [Dispatch.Resolvers.Renders, Dispatch.Answer.draft] at renders
      split at renders
      case h_1 written succeeds => exact renders ▸ Registry.status_of_write succeeds
      case h_2 => exact renders ▸ rfl

/-- What the response to a body that is sent back may be, and when it is not the body. -/
structure Returned (limit : Nat) (head : RequestHead) (content : Octets) (written : Response) :
    Prop where
  outcome :
    (written.status = .ok ∧ written.body = content ∧ Framed written content.length) ∨
      written.status = .payloadTooLarge ∨ written.status = .unsupportedMediaType ∨
      written.status = .notAcceptable
  tooLong : written.status = .payloadTooLarge ↔ limit < content.length
  unsupported : written.status = .unsupportedMediaType ↔
    content.length ≤ limit ∧ content ≠ [] ∧ Registry.Misdeclared head
  unacceptable : written.status = .notAcceptable ↔
    content.length ≤ limit ∧ content ≠ [] ∧ ¬ Registry.Misdeclared head ∧
      ∀ range ∈ Media.acceptedRanges head.fields,
        MediaRange.negotiate? [range] (Registry.standard.producible .octets []) = none

namespace Returned

variable {limit : Nat} {head : RequestHead} {content : Octets} {written response : Response}

theorem of_tooLong (exceeds : limit < content.length)
    (status : written.status = .payloadTooLarge) : Returned limit head content written where
  outcome := .inr (.inl status)
  tooLong := iff_of_true status exceeds
  unsupported := by simp [status, Http.Status.payloadTooLarge, Http.Status.unsupportedMediaType,
    Nat.not_le.mpr exceeds]
  unacceptable := by simp [status, Http.Status.payloadTooLarge, Http.Status.notAcceptable,
    Nat.not_le.mpr exceeds]

theorem of_misdeclared (within : content.length ≤ limit) (given : content ≠ [])
    (misdeclared : Registry.Misdeclared head) (status : written.status = .unsupportedMediaType) :
    Returned limit head content written where
  outcome := .inr (.inr (.inl status))
  tooLong := by simp [status, Http.Status.payloadTooLarge, Http.Status.unsupportedMediaType, within]
  unsupported := iff_of_true status ⟨within, given, misdeclared⟩
  unacceptable := by simp [status, Http.Status.unsupportedMediaType, Http.Status.notAcceptable,
    misdeclared]

theorem of_unacceptable (within : content.length ≤ limit) (given : content ≠ [])
    (declared : ¬ Registry.Misdeclared head)
    (unacceptable : ∀ range ∈ Media.acceptedRanges head.fields,
      MediaRange.negotiate? [range] (Registry.standard.producible .octets []) = none)
    (status : written.status = .notAcceptable) : Returned limit head content written where
  outcome := .inr (.inr (.inr status))
  tooLong := by simp [status, Http.Status.payloadTooLarge, Http.Status.notAcceptable, within]
  unsupported := by simp [status, Http.Status.unsupportedMediaType, Http.Status.notAcceptable,
    declared]
  unacceptable := iff_of_true status ⟨within, given, declared, unacceptable⟩

/-- The body itself is sent where nothing stands in its way. -/
theorem of_ok (within : content.length ≤ limit)
    (free : content = [] ∨ ¬ Registry.Misdeclared head ∧
      ¬ ∀ range ∈ Media.acceptedRanges head.fields,
        MediaRange.negotiate? [range] (Registry.standard.producible .octets []) = none)
    (status : response.status = .ok) (body : response.body = content)
    (measured : response.Measured) (keepAlive : Bool) (version : Http.Version) (date : Octets) :
    Returned limit head content (finalized response keepAlive version date) := by
  have same : (finalized response keepAlive version date).status = .ok :=
    (status_finalized ..).trans status
  have framed := framed_finalized measured keepAlive version date
  rw [announced_of_measured, body] at framed
  refine ⟨.inl ⟨same, (body_finalized ..).trans body, framed⟩, ?_, ?_, ?_⟩
  · simp [same, Http.Status.ok, Http.Status.payloadTooLarge, within]
  · simp only [same, Http.Status.ok, Http.Status.unsupportedMediaType]
    rcases free with empty | ⟨declared, -⟩
    · simp [empty]
    · simp [declared]
  · simp only [same, Http.Status.ok, Http.Status.notAcceptable]
    rcases free with empty | ⟨-, acceptable⟩
    · simp [empty]
    · simp [acceptable]

end Returned

theorem Concludes.returned {config : Config} {passed : Nat}
    {interceptors : List (Dispatch.Interceptor σ)} (carries : context.head.carriesBody = true)
    (within : context.content.length ≤ config.maxBodySize)
    (concludes : Concludes (plain config) session context handler interceptors passed
      (Serving.echoed context.head context.content) said ending) :
    ∃ written, View.writes.of said = [written] ∧
      Returned config.maxBodySize context.head context.content written := by
  have unframed := Response.unframed_ofStatus .ok
  rw [echoed_eq carries] at concludes
  by_cases empty : context.content = []
  · rw [if_pos empty] at concludes
    obtain ⟨keepAlive, version, date, writes⟩ := concludes.wrote_of_ok
    exact ⟨_, writes, .of_ok within (.inl empty) rfl empty.symm
      (Response.announces_of_unframed unframed) ..⟩
  rw [if_neg empty] at concludes
  cases declared : Registry.declaredType? context.head with
  | none =>
      rw [declared] at concludes
      obtain ⟨resolving, response, resolves, keepAlive, version, date, writes⟩ :=
        concludes.wrote_of_error rfl
      refine ⟨_, writes, .of_misdeclared within empty
        (Registry.declaredType?_eq_none_iff.mp declared) ?_⟩
      exact (status_finalized ..).trans (status_of_resolves rfl resolves)
  | some contentType =>
      have readable : ¬ Registry.Misdeclared context.head := by
        rw [← Registry.declaredType?_eq_none_iff, declared]
        exact Option.some_ne_none _
      rw [declared] at concludes
      have writable : (Payload.octets context.content).kind ≠ .form := nofun
      rcases Registry.written_or_unacceptable (.ofStatus .ok) writable
          Media.exists_parse?_of_accepted with
        ⟨selected, response, selection, succeeds⟩ | ⟨producible, refused, fails⟩
      · have acceptable : ¬ ∀ range ∈ Media.acceptedRanges context.head.fields,
            MediaRange.negotiate? [range] (Registry.standard.producible .octets []) = none := by
          rw [← MediaRange.negotiate?_eq_none_iff_each]
          exact fun refused => Option.some_ne_none _
            ((Registry.select_eq_ok selection).symm.trans refused)
        simp only [succeeds] at concludes
        obtain ⟨keepAlive, version, date, writes⟩ := concludes.wrote_of_ok
        exact ⟨_, writes, .of_ok within (.inr ⟨readable, acceptable⟩)
          (Registry.status_of_write succeeds) (Registry.body_of_write_octets succeeds)
          (Registry.measured_of_write succeeds unframed) ..⟩
      · have unacceptable := (Registry.select_eq_error refused).1
        rw [MediaRange.negotiate?_eq_none_iff_each] at unacceptable
        simp only [fails] at concludes
        obtain ⟨resolving, response, resolves, keepAlive, version, date, writes⟩ :=
          concludes.wrote_of_error rfl
        refine ⟨_, writes, .of_unacceptable within empty readable unacceptable ?_⟩
        exact (status_finalized ..).trans (status_of_resolves rfl resolves)

/-- A request with a body, to a handler that gives it back, on its way through the standard
converters and no other code of the user: the body is sent back as it is with its length, unless it
is too long, declared in a media type that cannot be read, or acceptable to the client in none; and
each of these is told by its own status. -/
theorem returned_of_echo {config : Config} {router : Router (Handler σ)} {head : RequestHead}
    {content : Octets} {connection : Connection} {route : Routed (Handler σ)}
    (carries : head.carriesBody = true) (routed : router.at? head.path = some route)
    (echoes : Echoes route.handler typed)
    (dispatched : Dispatched (plain config) router session head content connection said ending) :
    ∃ written outcome, View.writes.of said = [written] ∧ ending = .answered outcome ∧
      Returned config.maxBodySize head content written := by
  by_cases within : content.length ≤ config.maxBodySize
  · obtain ⟨passed, second, concludes, writes⟩ := (dispatched.course within routed).echoed echoes
    obtain ⟨outcome, rfl⟩ := concludes.answered
    obtain ⟨written, only, returned⟩ := concludes.returned carries within
    exact ⟨written, outcome, writes.trans only, rfl, returned⟩
  · have exceeds := Nat.lt_of_not_le within
    cases dispatched.dismissed (.inl exceeds) with
    | tooLong _ silent answers =>
        obtain ⟨keepAlive, version, date, writes⟩ := answers.wrote
        refine ⟨_, _, (View.of_silent_append silent).trans writes, rfl, .of_tooLong exceeds ?_⟩
        exact status_finalized ..
    | unrouted also => exact absurd also within
    | raised also => exact absurd also within

/-- A handler that gives back the body that it is handed. -/
def mirror : Handler Unit :=
  ⟨0, "mirror", .typed { input := some .octets, handle := fun _ input => .give (.typed input) }⟩

/-- A request that declares its body as a text. -/
def posted : RequestHead :=
  ⟨.post, .origin "/" none, .http11,
    ⟨[⟨Http.contentTypeName, Text.Utf8.encode "text/plain; charset=utf-8"⟩]⟩⟩

theorem echoes_mirror :
    Echoes mirror
      { input := some .octets, handle := fun _ input => .give (.typed input) } :=
  ⟨rfl, rfl, rfl, fun _ _ _ => rfl⟩

theorem returned_of_echo_of_mirror :
    posted.carriesBody = true ∧
      (anywhere mirror).at? posted.path = some ⟨mirror, "/*", []⟩ ∧
      Echoes mirror { input := some .octets, handle := fun _ input => .give (.typed input) } ∧
      ∃ said ending,
        Dispatched (plain {}) (anywhere mirror) lasting posted (Text.Utf8.encode "hi") {} said
          ending ∧
        ∃ written outcome, View.writes.of said = [written] ∧ ending = .answered outcome ∧
          Returned 1048576 posted (Text.Utf8.encode "hi") written := by
  have routed := anywhere_at? mirror posted.path
  have within : (Text.Utf8.encode "hi").length ≤ (plain {} : Services Unit).config.maxBodySize := by
    decide
  obtain ⟨said, -, dispatched⟩ := exists_dispatched within routed ⟨(), .idle, ⟨[], 0⟩, []⟩
  exact ⟨rfl, routed, echoes_mirror, said, _, dispatched,
    returned_of_echo rfl routed echoes_mirror dispatched⟩

end Serving

end Switchyard
