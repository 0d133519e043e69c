import Switchyard.Proofs.Conversion.Negotiation
import Switchyard.Proofs.Http.Framing
import Switchyard.Proofs.Media.Spelling

/-!
# Reading back what was written

The content type of a written response is spelled like the range that was negotiated, which may be
the client's own.  Octets and texts are read back under it exactly if it is `Legible`.
-/

set_option autoImplicit false

namespace Switchyard.Conversion

open Http (RequestHead Response contentTypeName)
open Media (MediaRange MediaType charsetName)

/-- Payloads that are sent as they are, where there is anything to send. -/
inductive Verbatim : Payload → Prop
  | octets {content : Octets} (given : content ≠ []) : Verbatim (.octets content)
  | text {content : String} (given : content ≠ "") : Verbatim (.text content)

/-- Negotiated media types under which a payload is read back.  Values that are not ASCII are not
read at all, nor is a charset behind a media type that is not open; a leftover weight has to be one,
and a charset that is named has to be one that texts are read in. -/
inductive Legible : PayloadKind → MediaType → Prop
  | octets {media : MediaType} {range : MediaRange} (ascii : media.IsAscii)
      (weighed : MediaRange.ofParsed? media = some range) : Legible .octets media
  | named {media : MediaType} {range : MediaRange} (ascii : media.IsAscii)
      (named : media.parameter? charsetName ≠ none)
      (weighed : MediaRange.ofParsed? media = some range)
      (familiar : Converter.foreignCharset? range = none) : Legible .text media
  | unnamed {media : MediaType} {range : MediaRange} (ascii : media.IsAscii)
      (unnamed : media.parameter? charsetName = none) (isOpen : media.Open)
      (weighed : MediaRange.ofParsed? (media.withCharset "utf-8") = some range)
      (familiar : Converter.foreignCharset? range = none) : Legible .text media

/-- The range that the octets of a content type spell. -/
def declared? (contentType : String) : Option MediaRange :=
  (Text.visible? (Text.Utf8.encode contentType)).bind MediaRange.parse?

variable {media : MediaType} {selected : MediaRange}

theorem declared?_text (spelled : media.Spelled) :
    declared? media.text = if media.IsAscii then MediaRange.parse? media.text else none := by
  rw [declared?, Text.visible?_encode]
  by_cases ascii : media.IsAscii
  · rw [if_pos (spelled.all_visible_iff.mpr ascii), if_pos ascii, Option.bind_some]
  · rw [if_neg (mt spelled.all_visible_iff.mp ascii), if_neg ascii, Option.bind_none]

/-- What is said of the parameters alone can be said of the media type that was spelled. -/
theorem exists_declared?_iff (spelled : media.Spelled) (p : List (String × String) → Prop) :
    (∃ range, declared? media.text = some range ∧ p range.media.parameters) ↔
      media.IsAscii ∧ ∃ range, MediaRange.ofParsed? media = some range ∧
        p range.media.parameters := by
  rw [declared?_text spelled, ← MediaRange.exists_parse?_text_iff spelled]
  by_cases ascii : media.IsAscii <;> simp [ascii]

theorem declared?_beyond (spelled : media.Spelled) (closed : ¬ media.Open) :
    declared? (media.text ++ "; charset=" ++ "utf-8") = none := by
  have word : Media.Word "utf-8" := .of_all (by decide) (by decide)
  rw [declared?, Text.visible?_encode]
  split
  · rw [Option.bind_some, MediaRange.parse?, spelled.parse?_beyond closed word, Option.bind_none]
  · rfl

theorem legible_octets_iff (spelled : media.Spelled) :
    Legible .octets media ↔ ∃ range, declared? media.text = some range := by
  have declares := exists_declared?_iff spelled fun _ => True
  simp only [and_true] at declares
  rw [declares]
  constructor
  · rintro ⟨ascii, weighed⟩
    exact ⟨ascii, _, weighed⟩
  · rintro ⟨ascii, range, weighed⟩
    exact .octets ascii weighed

theorem legible_text_iff (spelled : selected.media.Spelled) :
    Legible .text selected.media ↔
      ∃ range, declared? (Registry.contentTypeText selected (some "utf-8")) = some range ∧
        Converter.foreignCharset? range = none := by
  have word : Media.Word "utf-8" := .of_all (by decide) (by decide)
  have declares {media : MediaType} (spelled : media.Spelled) :
      (∃ range, declared? media.text = some range ∧ Converter.foreignCharset? range = none) ↔
        media.IsAscii ∧ ∃ range, MediaRange.ofParsed? media = some range ∧
          Converter.foreignCharset? range = none :=
    exists_declared?_iff spelled fun parameters =>
      (parameters.lookup charsetName).filter (fun charset =>
        !Converter.readableCharsets.any fun name => Text.sameIgnoringCase charset name) = none
  cases charset : selected.media.parameter? charsetName with
  | some name =>
      have text : Registry.contentTypeText selected (some "utf-8") = selected.media.text := by
        simp only [Registry.contentTypeText, charset]
        rfl
      rw [text, declares spelled]
      constructor
      · intro legible
        cases legible with
        | named ascii _ weighed familiar => exact ⟨ascii, _, weighed, familiar⟩
        | unnamed _ unnamed => simp [charset] at unnamed
      · rintro ⟨ascii, range, weighed, familiar⟩
        exact .named ascii (by simp [charset]) weighed familiar
  | none =>
      have text : Registry.contentTypeText selected (some "utf-8") =
          selected.media.text ++ "; charset=" ++ "utf-8" := by
        simp only [Registry.contentTypeText, charset]
        rfl
      rw [text]
      by_cases isOpen : selected.media.Open
      · rw [← MediaType.text_withCharset isOpen.2.1,
          declares (isOpen.spelled_withCharset spelled word), MediaType.isAscii_withCharset word]
        constructor
        · intro legible
          cases legible with
          | named _ named => simp [charset] at named
          | unnamed ascii _ _ weighed familiar => exact ⟨ascii, _, weighed, familiar⟩
        · rintro ⟨ascii, range, weighed, familiar⟩
          exact .unnamed ascii charset isOpen weighed familiar
      · rw [declared?_beyond spelled isOpen]
        constructor
        · intro legible
          cases legible with
          | named _ named => simp [charset] at named
          | unnamed _ _ opened => exact absurd opened isOpen
        · rintro ⟨range, declared, -⟩
          cases declared

/-- Without a weight it is the values, the charset and the ending of a media type that count. -/
theorem legible_iff_of_weightless
    (weightless : media.parameter? MediaRange.qualityName = none) :
    (Legible .octets media ↔ media.IsAscii) ∧
      (Legible .text media ↔ media.IsAscii ∧
        if media.parameter? charsetName = none then media.Open
        else Converter.foreignCharset? (.ofMedia media) = none) := by
  have weighed : MediaRange.ofParsed? media = some (.ofMedia media) := by
    rw [MediaRange.ofParsed?, weightless]
  refine ⟨⟨fun legible => ?_, fun ascii => .octets ascii weighed⟩, ?_⟩
  · cases legible with
    | octets ascii => exact ascii
  split
  case isFalse named =>
      constructor
      · intro legible
        cases legible with
        | unnamed _ unnamed => exact absurd unnamed named
        | named ascii _ stood familiar =>
            obtain rfl := Option.some.inj (weighed.symm.trans stood)
            exact ⟨ascii, familiar⟩
      · rintro ⟨ascii, familiar⟩
        exact .named ascii named weighed familiar
  case isTrue unnamed =>
      have stood : MediaRange.ofParsed? (media.withCharset "utf-8") =
          some (.ofMedia (media.withCharset "utf-8")) := by
        rw [MediaRange.ofParsed?, MediaType.parameter?_withCharset unnamed, weightless]
        rfl
      have familiar : Converter.foreignCharset? (.ofMedia (media.withCharset "utf-8")) = none := by
        rw [Converter.foreignCharset?, MediaRange.ofMedia,
          MediaType.parameter?_withCharset unnamed, unnamed]
        decide
      constructor
      · intro legible
        cases legible with
        | named _ named => exact absurd unnamed named
        | unnamed ascii _ isOpen => exact ⟨ascii, isOpen⟩
      · rintro ⟨ascii, isOpen⟩
        exact .unnamed ascii unnamed isOpen stood familiar

namespace Registry

variable {kind : PayloadKind} {payload : Payload} {accepted produces : List MediaRange}
  {response written : Response} {head : RequestHead} {body : Octets}

/-- What is negotiated is spelled like one of the ranges that it comes from. -/
theorem spelled_of_negotiated {producible : List MediaRange}
    (negotiated : MediaRange.negotiate? accepted producible = some selected)
    (acceptedSpelled : ∀ range ∈ accepted, range.media.Spelled)
    (producibleSpelled : ∀ range ∈ producible, range.media.Spelled) : selected.media.Spelled := by
  rcases MediaRange.negotiate?_eq_some negotiated with ⟨membership, -⟩ | ⟨-, rfl, -⟩
  · obtain ⟨range, listed, other, otherListed, -, rfl⟩ := MediaRange.mem_candidates.mp membership
    unfold MediaRange.mostSpecific
    split
    · exact acceptedSpelled range listed
    · exact producibleSpelled other otherListed
  · have read : MediaType.parse? "application/octet-stream" = some .octetStream := by
      decide
    exact MediaType.spelled_of_parse? read

theorem spelled_of_converter :
    ∀ converter ∈ standard.converters, ∀ range ∈ converter.media, range.media.Spelled := by
  have read : ∀ converter ∈ standard.converters, ∀ range ∈ converter.media,
      MediaType.parse? range.media.text = some range.media := by decide
  intro converter membership range listed
  exact MediaType.spelled_of_parse? (read converter membership range listed)

theorem spelled_of_producible (spelled : ∀ range ∈ produces, range.media.Spelled) :
    ∀ range ∈ standard.producible kind produces, range.media.Spelled := by
  have any : MediaType.parse? "*/*" = some .any := by decide
  intro range membership
  unfold producible at membership
  split at membership
  case isFalse => exact spelled range membership
  case isTrue =>
      split at membership
      case h_1 =>
          rw [List.mem_singleton.mp membership]
          exact MediaType.spelled_of_parse? any
      case h_2 =>
          obtain ⟨converter, chosen, listed⟩ := List.mem_flatMap.mp membership
          exact spelled_of_converter converter (List.mem_filter.mp chosen).1 range listed

/-- What is selected is spelled like what the client or the response names. -/
theorem spelled_of_selected
    (acceptedRead : ∀ range ∈ accepted, ∃ text, MediaRange.parse? text = some range)
    (producesSpelled : ∀ range ∈ produces, range.media.Spelled)
    (selection : standard.select kind accepted produces = .ok selected) :
    selected.media.Spelled := by
  refine spelled_of_negotiated (select_eq_ok selection) (fun range listed => ?_)
    (spelled_of_producible producesSpelled)
  obtain ⟨text, parsed⟩ := acceptedRead range listed
  exact MediaRange.spelled_of_parse? parsed

theorem reachesAny_of_any (rest : MediaRange) (target : MediaRange) :
    reachesAny [rest, .any] target = true := by
  have general : MediaRange.any.isWildcardType = true := by decide
  simp [reachesAny, MediaRange.isCompatible, general]

theorem coversAny_of_any (rest : MediaRange) (contentType : MediaRange) :
    coversAny [rest, .any] contentType = true := by
  have general : MediaRange.any.isWildcardType = true := by decide
  simp [coversAny, MediaRange.includes, general]

theorem writer_octets (selected : MediaRange) :
    standard.writer .octets selected = .ok .ofOctets := by
  simp [writer, standard, Converter.ofOctets, reachesAny_of_any]

theorem writer_text (selected : MediaRange) : standard.writer .text selected = .ok .ofText := by
  simp [writer, standard, Converter.ofOctets, Converter.ofText, reachesAny_of_any]

theorem reader?_octets (contentType : MediaRange) :
    standard.reader? .octets contentType = some .ofOctets := by
  simp [reader?, standard, Converter.ofOctets, coversAny_of_any]

theorem reader?_text (contentType : MediaRange) :
    standard.reader? .text contentType = some .ofText := by
  simp [reader?, standard, Converter.ofOctets, Converter.ofText, coversAny_of_any]

theorem declaredType?_eq {contentType : String}
    (typed : head.fields.get? contentTypeName = some (Text.Utf8.encode contentType)) :
    declaredType? head = declared? contentType := by
  simp only [declaredType?, typed, declared?]

/-- An empty body is not read, and any other one is octets in whatever media type it is declared. -/
theorem read_octets_of_carries (carries : head.carriesBody = true) :
    standard.read .octets head body =
      if body = [] then .ok none
      else
        match declaredType? head with
        | some _ => .ok (some (.octets body))
        | none => .error (.unsupportedMediaType (declaredText head)) := by
  by_cases empty : body = []
  · cases declared : declaredType? head <;> simp [read, qualified?, declared, carries, empty,
      reader?_octets]
  · have filled : body.isEmpty = false := List.isEmpty_eq_false_iff.mpr empty
    cases declared : declaredType? head with
    | none => simp [read, qualified?, declared, carries, filled, empty]
    | some contentType =>
        simp [read, qualified?, declared, reader?_octets, filled, empty, Converter.ofOctets]

theorem read_octets (post : head.method = .post) (given : body ≠ []) :
    standard.read .octets head body =
      match declaredType? head with
      | some _ => .ok (some (.octets body))
      | none => .error (.unsupportedMediaType (declaredText head)) := by
  have carries : head.carriesBody = true := by rw [RequestHead.carriesBody, post]; rfl
  rw [read_octets_of_carries carries, if_neg given]

theorem read_text {content : String} (post : head.method = .post) (given : content ≠ "") :
    standard.read .text head (Text.Utf8.encode content) =
      match declaredType? head with
      | none => .error (.unsupportedMediaType (declaredText head))
      | some contentType =>
          match Converter.foreignCharset? contentType with
          | none => .ok (some (.text content))
          | some charset =>
              .error (.conversionFailed .reading s!"unsupported charset '{charset}'") := by
  have carries : head.carriesBody = true := by rw [RequestHead.carriesBody, post]; rfl
  have filled : (Text.Utf8.encode content).isEmpty = false := by
    rw [List.isEmpty_eq_false_iff]
    exact fun empty => given (Text.Utf8.encode_injective (empty.trans rfl))
  cases declared : declaredType? head with
  | none => simp [read, qualified?, declared, carries, filled]
  | some contentType =>
      cases foreign : Converter.foreignCharset? contentType <;>
        simp [read, qualified?, declared, reader?_text, filled, Converter.ofText,
          Converter.readText, foreign, Text.Utf8.decodeText_encode]

theorem write_eq_ok (payload : Payload) {converter : Converter}
    (writes : ∀ selected, standard.writer payload.kind selected = .ok converter)
    (untyped : response.fields.contains contentTypeName = false)
    (succeeds : standard.write (some payload) accepted produces response = .ok written) :
    ∃ selected, standard.select payload.kind accepted produces = .ok selected ∧
      converter.write payload = .ok written.body ∧
      written.fields.get? contentTypeName =
        some (Text.Utf8.encode (contentTypeText selected converter.charset)) := by
  obtain ⟨selected, writer, described, body, selection, writing, octets, description, rfl⟩ :=
    writePayload_eq_ok succeeds
  obtain rfl := Except.ok.inj ((writes selected).symm.trans writing)
  refine ⟨selected, selection, octets, ?_⟩
  rw [Http.Fields.get?_eq_head?_getAll, getAll_of_withContentType _ untyped description,
    List.head?_cons]

/-- Octets and texts that are written are read back exactly if the negotiated media type is
legible, and nothing else is ever read in their place. -/
theorem write_reads_back_iff (verbatim : Verbatim payload)
    (acceptedRead : ∀ range ∈ accepted, ∃ text, MediaRange.parse? text = some range)
    (producesRead : ∀ range ∈ produces, ∃ text, MediaType.parse? text = some range.media)
    (untyped : response.fields.contains contentTypeName = false)
    (succeeds : standard.write (some payload) accepted produces response = .ok written)
    (post : head.method = .post)
    (typed : head.fields.get? contentTypeName = written.fields.get? contentTypeName) :
    ∃ selected, standard.select payload.kind accepted produces = .ok selected ∧
      (standard.read payload.kind head written.body = .ok (some payload) ↔
        Legible payload.kind selected.media) ∧
      ∀ result, standard.read payload.kind head written.body = .ok result →
        result = some payload := by
  have spelled {selected : MediaRange}
      (selection : standard.select payload.kind accepted produces = .ok selected) :
      selected.media.Spelled := by
    refine spelled_of_selected acceptedRead (fun range listed => ?_) selection
    obtain ⟨text, read⟩ := producesRead range listed
    exact MediaType.spelled_of_parse? read
  cases verbatim with
  | @octets content given =>
      obtain ⟨selected, selection, sent, contentType⟩ :=
        write_eq_ok (.octets content) writer_octets untyped succeeds
      have declares : declaredType? head = declared? selected.media.text :=
        declaredType?_eq (typed.trans contentType)
      have read := read_octets post given
      rw [Except.ok.inj sent] at read ⊢
      refine ⟨selected, selection, ?_⟩
      rw [Payload.kind, read, declares, legible_octets_iff (spelled selection)]
      cases declared? selected.media.text with
      | none => simp
      | some range => simp [eq_comm]
  | @text content given =>
      obtain ⟨selected, selection, sent, contentType⟩ :=
        write_eq_ok (.text content) writer_text untyped succeeds
      have declares : declaredType? head =
          declared? (contentTypeText selected (some "utf-8")) :=
        declaredType?_eq (typed.trans contentType)
      refine ⟨selected, selection, ?_⟩
      rw [← Except.ok.inj sent, Payload.kind, read_text post given, declares,
        legible_text_iff (spelled selection)]
      cases declared? (contentTypeText selected (some "utf-8")) with
      | none => simp
      | some range => cases foreign : Converter.foreignCharset? range <;> simp [foreign, eq_comm]

/-- A response with a text that is said to be of some type. -/
def labelled (contentType content : String) : Response :=
  ⟨.ok, .http11, ⟨[⟨contentTypeName, Text.Utf8.encode contentType⟩,
    ⟨Http.contentLengthName, Http.lengthValue (Text.Utf8.encode content).length⟩]⟩,
    Text.Utf8.encode content⟩

/-- The head of a request that sends a response back. -/
def returning (response : Response) : RequestHead :=
  ⟨.post, .origin "/" none, .http11, response.fields⟩

def plainText : MediaRange :=
  .ofMedia (.bare "text" "plain")

def levelled : MediaRange :=
  .ofMedia ⟨"text", "plain", [⟨1, "level", "1", false, 0⟩], none⟩

/-- The response that a text becomes for a client that asks for a level. -/
def levelledReply : Response :=
  labelled "text/plain; level=1; charset=utf-8" "hi"

theorem write_levelled :
    standard.write (some (.text "hi")) [levelled] [plainText] (.ofStatus .ok) =
      .ok levelledReply := by
  decide +kernel

theorem write_reads_back_iff_of_levelled :
    MediaRange.parse? "text/plain; level=1" = some levelled ∧
      MediaType.parse? "text/plain" = some plainText.media ∧
      (Response.ofStatus .ok).fields.contains contentTypeName = false ∧
      standard.write (some (.text "hi")) [levelled] [plainText] (.ofStatus .ok) =
        .ok levelledReply ∧
      (returning levelledReply).method = .post ∧
      (returning levelledReply).fields.get? contentTypeName =
        levelledReply.fields.get? contentTypeName ∧
      standard.read .text (returning levelledReply) levelledReply.body =
        .ok (some (.text "hi")) := by
  have parsed : MediaRange.parse? "text/plain; level=1" = some levelled := by decide +kernel
  have plain : MediaType.parse? "text/plain" = some plainText.media := by decide +kernel
  obtain ⟨selected, selection, reads, -⟩ :=
    write_reads_back_iff (.text (by decide : "hi" ≠ "")) (by simpa using ⟨_, parsed⟩)
      (by simpa using ⟨_, plain⟩) (by decide) write_levelled
      (rfl : (returning levelledReply).method = .post) rfl
  have levelledSelected : standard.select .text [levelled] [plainText] = .ok levelled := by
    decide +kernel
  obtain rfl := Except.ok.inj (levelledSelected.symm.trans selection)
  refine ⟨parsed, plain, by decide, write_levelled, rfl, rfl, reads.mpr ?_⟩
  exact (legible_iff_of_weightless (by decide +kernel)).2.mpr (by decide +kernel)

/-- The same type with a semicolon left at its end. -/
def unfinished : MediaRange :=
  .ofMedia ⟨"text", "plain", [⟨1, "level", "1", false, 0⟩], some 0⟩

/-- Plain text in another charset. -/
def latin : MediaRange :=
  .ofMedia ⟨"text", "plain", [⟨1, "charset", "iso-8859-1", false, 0⟩], none⟩

/-- A text is not read back if the client left a semicolon behind the type that it accepts, or
named another charset. -/
theorem write_unread :
    (MediaRange.parse? "text/plain; level=1;" = some unfinished ∧
      standard.write (some (.text "hi")) [unfinished] [plainText] (.ofStatus .ok) =
        .ok (labelled "text/plain; level=1;; charset=utf-8" "hi") ∧
      standard.read .text (returning (labelled "text/plain; level=1;; charset=utf-8" "hi"))
          (Text.Utf8.encode "hi") =
        .error (.unsupportedMediaType "text/plain; level=1;; charset=utf-8")) ∧
    (MediaRange.parse? "text/plain; charset=iso-8859-1" = some latin ∧
      standard.write (some (.text "é")) [latin] [plainText] (.ofStatus .ok) =
        .ok (labelled "text/plain; charset=iso-8859-1" "é") ∧
      standard.read .text (returning (labelled "text/plain; charset=iso-8859-1" "é"))
          (Text.Utf8.encode "é") =
        .error (.conversionFailed .reading "unsupported charset 'iso-8859-1'")) := by
  have mangled : declaredType?
      (returning (labelled "text/plain; level=1;; charset=utf-8" "hi")) = none := by decide +kernel
  have mislabelled : declaredType?
      (returning (labelled "text/plain; charset=iso-8859-1" "é")) = some latin := by decide +kernel
  have foreign : Converter.foreignCharset? latin = some "iso-8859-1" := by decide +kernel
  refine ⟨⟨by decide +kernel, by decide +kernel, ?_⟩, by decide +kernel, by decide +kernel, ?_⟩
  · have spelled : declaredText (returning (labelled "text/plain; level=1;; charset=utf-8" "hi")) =
        "text/plain; level=1;; charset=utf-8" := by decide +kernel
    rw [read_text rfl (by decide), mangled, spelled]
  · rw [read_text rfl (by decide), mislabelled]
    simp only [foreign]
    rfl

end Registry

end Switchyard.Conversion
