import Switchyard.Media.MediaRange
import Switchyard.Proofs.Media.Parameters

/-!
# Media types and their spellings

Whatever is read as a media type is `Spelled`, and its text is read as the same media type.  A
charset can be written behind it where it is `Open`, and nowhere else.
-/

set_option autoImplicit false

namespace Switchyard.Media

open Text (isBlank isVisibleChar lowercase)

namespace MediaType

variable {media : MediaType} {chars : List Char} {params : List Param} {tail : Option Nat}

/-- A media type as it is read. -/
structure Spelled (media : MediaType) : Prop where
  typed : media.type ≠ ""
  word : Word media.type
  subword : Word media.subtype
  listed : (media.params = [] ∧ media.tail = none) ∨
    (media.subtype ≠ "" ∧ media.params ≠ [] ∧ ∃ chars, Listed media.params media.tail chars)

/-- Behind the essence of a media type stands nothing, or what is read as its parameters. -/
theorem parseChars?_essence {type subtype : String} (typed : type ≠ "") (word : Word type)
    (subword : Word subtype) (following : Option (List Char)) :
    parseChars? (type.toList ++ '/' :: (subtype.toList ++ continued following)) =
      match following with
      | none => some (bare type subtype)
      | some rest =>
          if subtype = "" then none
          else (params? (rest.length + 1) rest).map fun read =>
            ⟨type, subtype, read.1, if read.1.isEmpty then none else read.2⟩ := by
  have run := takeWhile_tokens word.token (by decide : isTokenChar '/' = false)
    (subtype.toList ++ continued following)
  have given : type.toList.isEmpty = false := by simpa using typed
  simp only [parseChars?, run, List.drop_left, given,
    takeWhile_tokens_continued subword.token, String.ofList_toList, word.lower,
    subword.lower, Bool.false_eq_true, if_false]
  cases following with
  | none => rfl
  | some rest => simp [continued]

theorem Spelled.of_read {type subtype : List Char} (typed : type ≠ [])
    (token : ∀ c ∈ type, isTokenChar c = true) (subtoken : ∀ c ∈ subtype, isTokenChar c = true)
    (listed : (params = [] ∧ tail = none) ∨
      (subtype ≠ [] ∧ params ≠ [] ∧ ∃ chars, Listed params tail chars)) :
    Spelled ⟨lowercase (String.ofList type), lowercase (String.ofList subtype), params, tail⟩ := by
  refine ⟨lowercase_ne_empty typed, .of_lowercase token, .of_lowercase subtoken, ?_⟩
  rcases listed with unlisted | ⟨given, listed⟩
  · exact .inl unlisted
  · exact .inr ⟨lowercase_ne_empty given, listed⟩

theorem spelled_of_parse? {text : String} (parsed : parse? text = some media) :
    media.Spelled := by
  simp only [parse?, parseChars?] at parsed
  split at parsed
  case h_2 => cases parsed
  case h_1 written _ =>
      have token : ∀ c ∈ text.toList.takeWhile isTokenChar, isTokenChar c = true :=
        fun c membership => List.mem_takeWhile_imp membership
      have subtoken : ∀ c ∈ written.takeWhile isTokenChar, isTokenChar c = true :=
        fun c membership => List.mem_takeWhile_imp membership
      split at parsed
      case isTrue => cases parsed
      case isFalse given =>
          have typed := mt List.isEmpty_iff.mpr given
          split at parsed
          case h_1 =>
              obtain rfl := Option.some.inj parsed
              exact .of_read typed token subtoken (.inl ⟨rfl, rfl⟩)
          case h_2 rest _ =>
              split at parsed
              case isTrue => cases parsed
              case isFalse subgiven =>
                  obtain ⟨⟨params, tail⟩, read, rfl⟩ := Option.map_eq_some_iff.mp parsed
                  refine .of_read typed token subtoken ?_
                  cases params with
                  | nil => exact .inl ⟨rfl, rfl⟩
                  | cons first others =>
                      right
                      exact ⟨mt List.isEmpty_iff.mpr subgiven, List.cons_ne_nil _ _,
                        listed_of_params? read⟩
          case h_3 => cases parsed

theorem toList_text (media : MediaType) :
    media.text.toList = media.type.toList ++ '/' :: (media.subtype.toList ++
      (media.params.flatMap (fun param => param.text.toList) ++
        continued (media.tail.map fun count => List.replicate count ' '))) := by
  rcases media with ⟨type, subtype, params, tail⟩
  cases tail <;> simp [text, essence, spaces, continued, List.flatMap_map]

theorem toList_text_of_listed (media : MediaType)
    (listed : Listed media.params media.tail chars) :
    media.text.toList =
      media.type.toList ++ '/' :: (media.subtype.toList ++ continued (some chars)) := by
  rw [toList_text, listed.text, continued]

theorem toList_text_of_bare (media : MediaType) (bare : media.params = [])
    (untailed : media.tail = none) :
    media.text.toList =
      media.type.toList ++ '/' :: (media.subtype.toList ++ continued none) := by
  rw [toList_text, bare, untailed]
  rfl

/-- What was read is read again from its own text. -/
theorem Spelled.parse?_text (spelled : media.Spelled) : parse? media.text = some media := by
  rcases media with ⟨type, subtype, params, tail⟩
  rcases spelled.listed with ⟨rfl, rfl⟩ | ⟨subtyped, given, chars, listed⟩
  · rw [parse?, toList_text_of_bare _ rfl rfl,
      parseChars?_essence spelled.typed spelled.word spelled.subword]
    rfl
  · rw [parse?, toList_text_of_listed _ listed,
      parseChars?_essence spelled.typed spelled.word spelled.subword]
    simp only [params?_of_listed listed (Nat.lt_succ_self _)]
    simp [subtyped, given]

/-- Media types that differ only in the spaces they are spelled with. -/
structure Agrees (media other : MediaType) : Prop where
  type : media.type = other.type
  subtype : media.subtype = other.subtype
  parameters : media.parameters = other.parameters

theorem parameters_unspaced (media : MediaType) :
    parameters { media with params := media.params.map Param.unspaced } = media.parameters := by
  rcases media with ⟨type, subtype, _ | ⟨first, _ | ⟨second, rest⟩⟩, tail⟩
  · rfl
  · rfl
  · simp [parameters, Param.unspaced, Param.pair]

theorem parameters_congr {other : MediaType}
    (alike : media.params.map Param.unspaced = other.params.map Param.unspaced) :
    media.parameters = other.parameters := by
  rw [← parameters_unspaced media, ← parameters_unspaced other, alike]
  rfl

theorem trim_of_solid (count : Nat) {text core type : String} {behind : List Char}
    (typed : type ≠ "") (word : Word type) (begun : core.toList = type.toList ++ '/' :: behind)
    (solid : Solid ('/' :: behind))
    (whole : text.toList = core.toList ++ List.replicate count ' ') :
    Text.trim text = core := by
  have given : type.toList ≠ [] := by simpa using typed
  obtain ⟨first, rest, spelled⟩ := List.exists_cons_of_ne_nil given
  have token : isTokenChar first = true := word.token first (spelled ▸ List.mem_cons_self)
  have trimmed := trimChars_append_spaces (rest ++ '/' :: behind) (isBlank_of_token token)
    (solid.append (first :: rest)) count
  rw [Text.trim, whole, begun, spelled, List.cons_append, trimmed, ← List.cons_append, ← spelled,
    ← begun, String.ofList_toList]

/-- Trimming leaves a media type alone but for the spaces that it ends with. -/
theorem Spelled.trimmed (spelled : media.Spelled) :
    ∃ read : MediaType, read.Spelled ∧ read.Agrees media ∧ Text.trim media.text = read.text := by
  rcases spelled.listed with ⟨bare, untailed⟩ | ⟨subtyped, given, chars, listed⟩
  · have begun := toList_text_of_bare _ bare untailed
    have solid : Solid ('/' :: (media.subtype.toList ++ continued none)) := by
      rw [continued, List.append_nil]
      exact solid_of_token (by decide) spelled.subword.token
    exact ⟨media, spelled, ⟨rfl, rfl, rfl⟩,
      trim_of_solid 0 spelled.typed spelled.word begun solid (List.append_nil _).symm⟩
  · obtain ⟨others, closing, core, count, trimmed, rfl, solid, alike⟩ := listed.trimmed
    have begun := toList_text_of_listed ⟨media.type, media.subtype, others, closing⟩ trimmed
    refine ⟨⟨media.type, media.subtype, others, closing⟩, ⟨spelled.typed, spelled.word,
      spelled.subword, .inr ⟨subtyped, ?_, core, trimmed⟩⟩, ⟨rfl, rfl, ?_⟩,
      trim_of_solid count spelled.typed spelled.word begun ?_ ?_⟩
    · rintro rfl
      exact given (List.map_eq_nil_iff.mp alike.symm)
    · exact parameters_congr alike
    · exact solid.append ('/' :: media.subtype.toList)
    · rw [begun, toList_text_of_listed _ listed]
      simp [continued]

/-- Whether a parameter can be written behind a media type. -/
def Open (media : MediaType) : Prop :=
  media.subtype ≠ "" ∧ media.tail = none ∧ ∀ param ∈ media.params, param.value ≠ ""

instance : DecidablePred Open := fun media =>
  inferInstanceAs (Decidable (media.subtype ≠ "" ∧ media.tail = none ∧
    ∀ param ∈ media.params, param.value ≠ ""))

/-- The parameter that a charset is written as. -/
def charsetParam (name : String) : Param :=
  ⟨1, charsetName, name, false, 0⟩

def withCharset (media : MediaType) (name : String) : MediaType :=
  { media with params := media.params ++ [charsetParam name] }

variable {name : String}

theorem word_charsetName : Word charsetName :=
  .of_all (by decide) (by decide)

theorem spelled_charsetParam (word : Word name) : (charsetParam name).Spelled where
  named := (by decide : charsetName ≠ "")
  word := word_charsetName
  folded _ := word.lower
  value := .token word.token

theorem text_charsetParam (name : String) : (charsetParam name).text = "; charset=" ++ name := by
  apply String.toList_inj.mp
  simp [charsetParam, Param.text, spaces, charsetName]

theorem Open.spelled_withCharset (isOpen : media.Open) (spelled : media.Spelled)
    (word : Word name) : (media.withCharset name).Spelled := by
  obtain ⟨subtyped, untailed, valued⟩ := isOpen
  have added := spelled_charsetParam word
  refine ⟨spelled.typed, spelled.word, spelled.subword,
    .inr ⟨subtyped, List.append_ne_nil_of_right_ne_nil _ (List.cons_ne_nil _ _), ?_⟩⟩
  rcases media with ⟨type, subtype, params, tail⟩
  obtain rfl : tail = none := untailed
  rcases spelled.listed with ⟨bare, -⟩ | ⟨-, -, chars, listed⟩
  · obtain rfl : params = [] := bare
    exact ⟨_, .last added⟩
  · exact ⟨_, listed.extend rfl valued added⟩

theorem text_withCharset (untailed : media.tail = none) (name : String) :
    (media.withCharset name).text = media.text ++ "; charset=" ++ name := by
  apply String.toList_inj.mp
  rw [toList_text, String.toList_append, String.toList_append, toList_text]
  simp [withCharset, untailed, text_charsetParam, continued]

theorem parseChars?_beyond (spelled : media.Spelled) (closed : ¬ media.Open) (more : List Char) :
    parseChars? (media.text.toList ++ ';' :: more) = none := by
  rcases spelled.listed with ⟨bare, untailed⟩ | ⟨subtyped, -, chars, listed⟩
  · have unsubtyped : media.subtype = "" := by
      by_contra subtyped
      exact closed ⟨subtyped, untailed, by simp [bare]⟩
    have whole : media.text.toList ++ ';' :: more =
        media.type.toList ++ '/' :: (media.subtype.toList ++ continued (some more)) := by
      rw [toList_text_of_bare _ bare untailed]
      simp [continued]
    rw [whole, parseChars?_essence spelled.typed spelled.word spelled.subword]
    simp [unsubtyped]
  · have whole : media.text.toList ++ ';' :: more = media.type.toList ++ '/' ::
        (media.subtype.toList ++ continued (some (chars ++ ';' :: more))) := by
      rw [toList_text_of_listed _ listed]
      simp [continued]
    have refused := listed.refused (fun others => closed ⟨subtyped, others⟩)
      ((chars ++ ';' :: more).length + 1) more
    rw [whole, parseChars?_essence spelled.typed spelled.word spelled.subword]
    simp only [refused, Option.map_none, ite_self]

/-- Behind a media type that is not open no charset is read. -/
theorem Spelled.parse?_beyond (spelled : media.Spelled) (closed : ¬ media.Open)
    (word : Word name) : parse? (Text.trim (media.text ++ "; charset=" ++ name)) = none := by
  have whole : (media.text ++ "; charset=" ++ name).toList =
      media.text.toList ++ ';' :: (" charset".toList ++ '=' :: name.toList) := by
    simp
  have value : Solid ('=' :: name.toList) := solid_of_token (by decide) word.token
  have kept : Text.trim (media.text ++ "; charset=" ++ name) =
      media.text ++ "; charset=" ++ name := by
    obtain ⟨behind, begun⟩ : ∃ behind, media.text.toList = media.type.toList ++ '/' :: behind :=
      ⟨_, toList_text media⟩
    have solid := value.append ('/' :: (behind ++ ';' :: " charset".toList))
    rw [List.cons_append, List.append_assoc] at solid
    refine trim_of_solid 0 spelled.typed spelled.word ?_ solid (List.append_nil _).symm
    rw [whole, begun]
    simp
  rw [kept, parse?, whole]
  exact parseChars?_beyond spelled closed _

theorem parameters_withCharset (unnamed : media.parameter? charsetName = none) :
    (media.withCharset name).parameters = media.parameters ++ [(charsetName, name)] := by
  rcases media with ⟨type, subtype, _ | ⟨first, _ | ⟨second, rest⟩⟩, tail⟩
  · rfl
  · have other : first.name ≠ charsetName := by
      rintro charset
      simp [parameter?, parameters, Param.pair, charset] at unnamed
    simp [withCharset, parameters, Param.pair, charsetParam, other]
  · simp [withCharset, parameters, Param.pair, charsetParam]

theorem parameter?_withCharset (unnamed : media.parameter? charsetName = none) (asked : String) :
    (media.withCharset name).parameter? asked =
      (media.parameter? asked).or ([(charsetName, name)].lookup asked) := by
  rw [parameter?, parameters_withCharset unnamed, List.lookup_append, parameter?]

/-- Whether all values are spelled in ASCII. -/
def IsAscii (media : MediaType) : Prop :=
  ∀ param ∈ media.params, ∀ c ∈ param.value.toList, c.toNat < 128

instance : DecidablePred IsAscii := fun media =>
  decidable_of_iff
    (media.params.all (fun param => param.value.toList.all fun c => c.toNat < 128) = true)
    (by simp [IsAscii])

theorem Spelled.all_visible_iff (spelled : media.Spelled) :
    media.text.toList.all isVisibleChar = true ↔ media.IsAscii := by
  have signs : isVisibleChar '/' = true ∧ isVisibleChar ';' = true := by decide
  have closing : (continued (media.tail.map fun count => List.replicate count ' ')).all
      isVisibleChar = true := by
    cases media.tail with
    | none => rfl
    | some count =>
        simp only [Option.map_some, continued, List.all_cons, signs, all_visible_spaces,
          Bool.true_and]
  have params : ∀ param ∈ media.params, param.Spelled := by
    rcases spelled.listed with ⟨bare, -⟩ | ⟨-, -, chars, listed⟩
    · simp [bare]
    · exact listed.spelled_of_mem
  simp only [toList_text, List.all_append, List.all_cons, spelled.word.all_visible,
    spelled.subword.all_visible, signs, closing, Bool.true_and, Bool.and_true, List.all_flatMap]
  rw [List.all_eq_true]
  exact forall₂_congr fun param membership => (params param membership).all_visible_iff

theorem isAscii_withCharset (word : Word name) :
    (media.withCharset name).IsAscii ↔ media.IsAscii := by
  have ascii : ∀ c ∈ (charsetParam name).value.toList, c.toNat < 128 :=
    fun c membership => ascii_of_token (word.token c membership)
  constructor
  · intro whole param membership
    exact whole param (List.mem_append_left _ membership)
  · intro values param membership
    rcases List.mem_append.mp membership with listed | added
    · exact values param listed
    · rw [List.mem_singleton.mp added]
      exact ascii

end MediaType

namespace MediaRange

variable {range : MediaRange}

theorem exists_text_of_parse? {text : String} (parsed : parse? text = some range) :
    ∃ bare, MediaType.parse? bare = some range.media := by
  obtain ⟨media, read, weighed⟩ := Option.bind_eq_some_iff.mp parsed
  unfold ofParsed? at weighed
  split at weighed
  case h_1 =>
      cases weighed
      exact ⟨_, read⟩
  case h_2 =>
      split at weighed
      case h_1 => cases weighed
      case h_2 =>
          obtain ⟨bare, reread, rfl⟩ := Option.map_eq_some_iff.mp weighed
          exact ⟨_, reread⟩

theorem spelled_of_parse? {text : String} (parsed : parse? text = some range) :
    range.media.Spelled := by
  obtain ⟨bare, read⟩ := exists_text_of_parse? parsed
  exact MediaType.spelled_of_parse? read

/-- Media types that agree stand for ranges with the same parameters. -/
theorem ofParsed?_congr {media other : MediaType} (agrees : media.Agrees other) :
    (ofParsed? media).map (fun range => range.media.parameters) =
      (ofParsed? other).map fun range => range.media.parameters := by
  have weight : media.parameter? qualityName = other.parameter? qualityName :=
    congrArg (List.lookup qualityName) agrees.parameters
  have bare : unweightedText media = unweightedText other := by
    rw [unweightedText, unweightedText, MediaType.essence, MediaType.essence, agrees.type,
      agrees.subtype, agrees.parameters]
  rw [ofParsed?, ofParsed?, weight, bare]
  split
  · exact congrArg some agrees.parameters
  · rfl

/-- The text of a media type is read as what a media type in agreement with it stands for. -/
theorem parse?_text {media : MediaType} (spelled : media.Spelled) :
    ∃ read : MediaType, read.Spelled ∧ read.Agrees media ∧ parse? media.text = ofParsed? read := by
  obtain ⟨read, readSpelled, agrees, trimmed⟩ := spelled.trimmed
  exact ⟨read, readSpelled, agrees, by
    rw [parse?, trimmed, readSpelled.parse?_text, Option.bind_some]⟩

/-- What can be said of the parameters alone holds of the text as it does of the media type. -/
theorem exists_parse?_text_iff {media : MediaType} (spelled : media.Spelled)
    (p : List (String × String) → Prop) :
    (∃ range, parse? media.text = some range ∧ p range.media.parameters) ↔
      ∃ range, ofParsed? media = some range ∧ p range.media.parameters := by
  obtain ⟨read, -, agrees, parsed⟩ := parse?_text spelled
  have alike {stood : Option MediaRange} : (∃ range, stood = some range ∧
      p range.media.parameters) ↔ ∃ parameters ∈ stood.map fun range => range.media.parameters,
        p parameters := by
    cases stood <;> simp
  rw [parsed, alike, alike, ofParsed?_congr agrees]

end MediaRange

end Switchyard.Media
