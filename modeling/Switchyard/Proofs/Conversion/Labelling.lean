import Switchyard.Proofs.Conversion.RoundTrip
import Switchyard.Proofs.Media.Compatibility
import Switchyard.Proofs.Media.Weight

/-!
# The content type of what was written

The content type of a written response is meant to name the negotiated media type together with the
charset of the converter.  It does for the media types that are `Describable`: the charset is
written behind the spelling that came from the client, and nothing parses it where that spelling
leaves no room.
-/

set_option autoImplicit false

namespace Switchyard

namespace Media.MediaRange

variable {media : MediaType} {range : MediaRange}

/-- A range has the type and the subtype of the media type that it stands for. -/
theorem essence_of_ofParsed? (spelled : media.Spelled) (stood : ofParsed? media = some range) :
    range.media.type = media.type ∧ range.media.subtype = media.subtype := by
  unfold ofParsed? at stood
  split at stood
  case h_1 =>
      obtain rfl := Option.some.inj stood
      exact ⟨rfl, rfl⟩
  case h_2 =>
      split at stood
      case h_1 => cases stood
      case h_2 =>
          obtain ⟨bare, reread, rfl⟩ := Option.map_eq_some_iff.mp stood
          obtain ⟨type, subtype, -⟩ := isPlain_of_parse? spelled reread
          exact ⟨type, subtype⟩

theorem essence_of_parse?_text (spelled : media.Spelled)
    (parsed : parse? media.text = some range) :
    range.media.type = media.type ∧ range.media.subtype = media.subtype := by
  obtain ⟨read, readSpelled, agrees, same⟩ := parse?_text spelled
  rw [same] at parsed
  obtain ⟨type, subtype⟩ := essence_of_ofParsed? readSpelled parsed
  exact ⟨type.trans agrees.type, subtype.trans agrees.subtype⟩

end Media.MediaRange

namespace Conversion

open Http (Response contentTypeName)
open Media (MediaRange MediaType Word charsetName)

variable {media : MediaType} {selected : MediaRange} {charset : Option String}

/-- A media type with the charset of a converter, unless it names one itself. -/
def described (media : MediaType) : Option String → MediaType
  | none => media
  | some name =>
      if media.parameter? charsetName = none then media.withCharset name else media

/-- Whether there is room for the charset behind a media type. -/
def HasRoom (charset : Option String) (media : MediaType) : Prop :=
  charset ≠ none → media.parameter? charsetName = none → media.Open

/-- Whether a media type is named by its text with the charset of a converter: there is room for
that, and no leftover weight gets in the way. -/
def Describable (charset : Option String) (media : MediaType) : Prop :=
  HasRoom charset media ∧ ∃ range, MediaRange.ofParsed? (described media charset) = some range ∧
    (charset ≠ none → range.media.parameter? charsetName ≠ none)

theorem essence_described (media : MediaType) (charset : Option String) :
    (described media charset).type = media.type ∧
      (described media charset).subtype = media.subtype := by
  unfold described
  split
  · exact ⟨rfl, rfl⟩
  · split <;> exact ⟨rfl, rfl⟩

theorem spelled_described (spelled : media.Spelled) (word : ∀ name ∈ charset, Word name)
    (room : HasRoom charset media) : (described media charset).Spelled := by
  unfold described
  split
  case h_1 => exact spelled
  case h_2 name =>
      split
      case isTrue unnamed =>
          exact (room (by simp) unnamed).spelled_withCharset spelled (word name rfl)
      case isFalse => exact spelled

/-- Where there is room, the content type is the text of the media type that is described. -/
theorem contentTypeText_of_room (room : HasRoom charset selected.media) :
    Registry.contentTypeText selected charset = (described selected.media charset).text := by
  cases charset with
  | none => rfl
  | some name =>
      cases named : selected.media.parameter? charsetName with
      | some _ =>
          simp only [Registry.contentTypeText, described, named, reduceCtorEq, if_false]
          rfl
      | none =>
          have isOpen := room (by simp) named
          simp only [Registry.contentTypeText, described, named, if_true,
            MediaType.text_withCharset isOpen.2.1]
          rfl

/-- Where there is none, nothing parses the content type. -/
theorem parse?_of_crowded (spelled : selected.media.Spelled) (word : ∀ name ∈ charset, Word name)
    (crowded : ¬ HasRoom charset selected.media) :
    MediaRange.parse? (Registry.contentTypeText selected charset) = none := by
  simp only [HasRoom, Classical.not_imp] at crowded
  obtain ⟨labelled, unnamed, closed⟩ := crowded
  obtain ⟨name, rfl⟩ := Option.ne_none_iff_exists'.mp labelled
  simp only [Registry.contentTypeText, unnamed]
  rw [MediaRange.parse?, MediaRange.text, spelled.parse?_beyond closed (word name rfl),
    Option.bind_none]

/-- The content type parses with the charset named exactly if the media type is describable, and
whatever it parses as has the type and the subtype of the media type. -/
theorem parse?_contentTypeText (spelled : selected.media.Spelled)
    (word : ∀ name ∈ charset, Word name) :
    ((∃ range, MediaRange.parse? (Registry.contentTypeText selected charset) = some range ∧
        (charset ≠ none → range.media.parameter? charsetName ≠ none)) ↔
      Describable charset selected.media) ∧
    ∀ range, MediaRange.parse? (Registry.contentTypeText selected charset) = some range →
      range.media.type = selected.media.type ∧ range.media.subtype = selected.media.subtype := by
  by_cases room : HasRoom charset selected.media
  · have respelled := spelled_described spelled word room
    rw [contentTypeText_of_room room, Describable, and_iff_right room]
    refine ⟨MediaRange.exists_parse?_text_iff respelled fun parameters =>
      charset ≠ none → parameters.lookup charsetName ≠ none, fun range parsed => ?_⟩
    obtain ⟨type, subtype⟩ := MediaRange.essence_of_parse?_text respelled parsed
    obtain ⟨sameType, sameSubtype⟩ := essence_described selected.media charset
    exact ⟨type.trans sameType, subtype.trans sameSubtype⟩
  · rw [parse?_of_crowded spelled word room]
    simp [Describable, room]

/-- Without a weight it is the room alone that counts. -/
theorem describable_iff_of_weightless
    (weightless : media.parameter? MediaRange.qualityName = none) :
    Describable charset media ↔ HasRoom charset media := by
  refine ⟨And.left, fun room => ⟨room, .ofMedia (described media charset), ?_, ?_⟩⟩
  · have kept : (described media charset).parameter? MediaRange.qualityName = none := by
      unfold described
      split
      · exact weightless
      · split
        case isTrue unnamed =>
            rw [MediaType.parameter?_withCharset unnamed, weightless]
            rfl
        case isFalse => exact weightless
    rw [MediaRange.ofParsed?, kept]
  · intro labelled
    obtain ⟨name, rfl⟩ := Option.ne_none_iff_exists'.mp labelled
    simp only [MediaRange.ofMedia, described]
    split
    case isTrue unnamed => simp [MediaType.parameter?_withCharset unnamed, unnamed]
    case isFalse named => exact named

namespace Registry

variable {payload : Payload} {accepted produces : List MediaRange} {response written : Response}

theorem word_charset : ∀ converter ∈ standard.converters, ∀ name ∈ converter.charset,
    Word name := by
  have spelled : ∀ converter ∈ standard.converters, ∀ name ∈ converter.charset,
      name.toList.all Media.isTokenChar = true ∧ Text.lowercase name = name := by decide
  intro converter membership name charset
  exact .of_all (spelled converter membership name charset).1
    (spelled converter membership name charset).2

/-- The content type of a written response parses as the negotiated media type, with a charset if
the converter has one, exactly if that media type is describable.  It never parses as another
type, subtype or suffix. -/
theorem write_describes_iff
    (acceptedRead : ∀ range ∈ accepted, ∃ text, MediaRange.parse? text = some range)
    (producesRead : ∀ range ∈ produces, ∃ text, MediaRange.parse? text = some range)
    (untyped : response.fields.contains contentTypeName = false)
    (succeeds : standard.write (some payload) accepted produces response = .ok written) :
    ∃ selected converter text,
      standard.select payload.kind accepted produces = .ok selected ∧
      standard.writer payload.kind selected = .ok converter ∧
      written.fields.getAll contentTypeName = [Text.Utf8.encode text] ∧
      ((∃ range, MediaRange.parse? text = some range ∧
          range.media.type = selected.media.type ∧
          range.media.subtype = selected.media.subtype ∧
          range.media.suffix? = selected.media.suffix? ∧
          (converter.charset ≠ none → range.media.parameter? charsetName ≠ none)) ↔
        Describable converter.charset selected.media) ∧
      (selected.media.parameter? MediaRange.qualityName = none →
        (Describable converter.charset selected.media ↔
          HasRoom converter.charset selected.media)) ∧
      ∀ range, MediaRange.parse? text = some range →
        range.media.type = selected.media.type ∧
          range.media.subtype = selected.media.subtype ∧
          range.media.suffix? = selected.media.suffix? := by
  obtain ⟨selected, converter, labelled, body, selection, writing, -, labelling, rfl⟩ :=
    writePayload_eq_ok succeeds
  have spelled : selected.media.Spelled := by
    refine spelled_of_selected acceptedRead (fun range listed => ?_) selection
    obtain ⟨text, parsed⟩ := producesRead range listed
    exact MediaRange.spelled_of_parse? parsed
  obtain ⟨names, same⟩ :=
    parse?_contentTypeText spelled (word_charset converter (writer_eq_ok writing).1)
  have suffixed : ∀ range, MediaRange.parse? (contentTypeText selected converter.charset) =
      some range → range.media.type = selected.media.type ∧
        range.media.subtype = selected.media.subtype ∧
        range.media.suffix? = selected.media.suffix? := by
    intro range parsed
    obtain ⟨type, subtype⟩ := same range parsed
    exact ⟨type, subtype, MediaType.suffix?_congr subtype⟩
  refine ⟨selected, converter, contentTypeText selected converter.charset, selection, writing,
    getAll_of_withContentType _ untyped labelling, ?_, describable_iff_of_weightless, suffixed⟩
  rw [← names]
  constructor
  · rintro ⟨range, parsed, -, -, -, labels⟩
    exact ⟨range, parsed, labels⟩
  · rintro ⟨range, parsed, labels⟩
    obtain ⟨type, subtype, suffix⟩ := suffixed range parsed
    exact ⟨range, parsed, type, subtype, suffix, labels⟩

theorem write_describes_iff_of_levelled :
    MediaRange.parse? "text/plain; level=1" = some levelled ∧
      MediaRange.parse? "text/plain" = some plainText ∧
      (Response.ofStatus .ok).fields.contains contentTypeName = false ∧
      standard.write (some (.text "hi")) [levelled] [plainText] (.ofStatus .ok) =
        .ok levelledReply ∧
      levelledReply.fields.getAll contentTypeName =
        [Text.Utf8.encode "text/plain; level=1; charset=utf-8"] ∧
      ∃ range, MediaRange.parse? "text/plain; level=1; charset=utf-8" = some range ∧
        range.media.type = "text" ∧ range.media.subtype = "plain" ∧
        range.media.parameter? charsetName ≠ none := by
  have parsed : MediaRange.parse? "text/plain; level=1" = some levelled := by decide +kernel
  have plain : MediaRange.parse? "text/plain" = some plainText := by decide +kernel
  obtain ⟨selected, converter, text, selection, writing, typed, names, weightless, -⟩ :=
    write_describes_iff (by simpa using ⟨_, parsed⟩) (by simpa using ⟨_, plain⟩) (by decide)
      write_levelled
  have levelledSelected : standard.select .text [levelled] [plainText] = .ok levelled := by
    decide +kernel
  obtain rfl := Except.ok.inj (levelledSelected.symm.trans selection)
  obtain rfl := Except.ok.inj ((writer_text levelled).symm.trans writing)
  have labelled : levelledReply.fields.getAll contentTypeName =
      [Text.Utf8.encode "text/plain; level=1; charset=utf-8"] := by decide +kernel
  obtain rfl := Text.Utf8.encode_injective (List.singleton_inj.mp (labelled.symm.trans typed))
  have room : HasRoom Converter.ofText.charset levelled.media := fun _ _ => by decide
  obtain ⟨range, reread, type, subtype, -, charset⟩ :=
    names.mpr ((weightless (by decide)).mpr room)
  exact ⟨parsed, plain, by decide, write_levelled, typed, range, reread, type, subtype,
    charset (by decide)⟩

/-- A semicolon that the client left behind the type makes the content type unreadable. -/
theorem write_undescribed :
    MediaRange.parse? "text/plain; level=1;" = some unfinished ∧
      MediaRange.parse? "text/plain" = some plainText ∧
      (Response.ofStatus .ok).fields.contains contentTypeName = false ∧
      standard.select .text [unfinished] [plainText] = .ok unfinished ∧
      standard.write (some (.text "hi")) [unfinished] [plainText] (.ofStatus .ok) =
        .ok (labelled "text/plain; level=1;; charset=utf-8" "hi") ∧
      (labelled "text/plain; level=1;; charset=utf-8" "hi").fields.getAll contentTypeName =
        [Text.Utf8.encode "text/plain; level=1;; charset=utf-8"] ∧
      MediaRange.parse? "text/plain; level=1;; charset=utf-8" = none := by
  refine ⟨?_, ?_, ?_, ?_, ?_, ?_, ?_⟩ <;> decide +kernel

end Registry

end Conversion

end Switchyard
