import Mathlib.Data.List.Forall2
import Switchyard.Proofs.Media.Spelling

/-!
# Taking the weight off a media type

A media type with a weight is written again without it, and what is written is read.  Values are
written bare, also those that stood in quotes, so that the parameters stay what they were exactly
if their values are tokens.  A media type without a weight is not written again.
-/

set_option autoImplicit false

namespace Switchyard.Media

open Text (lowercase)

theorem SpelledValue.closed {inQuotes : Bool} {after : Nat} {value : List Char}
    (spelled : SpelledValue inQuotes after value) : '"' ∉ value.tail := by
  cases spelled with
  | token token =>
      exact fun membership => absurd (token '"' (List.mem_of_mem_tail membership)) (by decide)
  | quoted after quoted closed => exact closed

namespace MediaType

/-- The name and the value of a parameter that was read. -/
structure ReadPair (pair : String × String) : Prop where
  named : pair.1 ≠ ""
  word : Word pair.1
  folded : pair.1 = charsetName → lowercase pair.2 = pair.2
  closed : '"' ∉ pair.2.toList.tail

/-- What a parameter is handed out as, of which the second way is for some charsets only. -/
inductive Shows (param : Param) : String × String → Prop
  | whole : Shows param (param.name, param.value)
  | clipped (charset : param.name = charsetName) (quoted : param.inQuotes = true)
      (value : param.value = "utf-8") : Shows param (param.name, "\"utf-")

theorem ReadPair.of_shows {param : Param} {pair : String × String} (spelled : param.Spelled)
    (shows : Shows param pair) : ReadPair pair := by
  cases shows with
  | whole => exact ⟨spelled.named, spelled.word, spelled.folded, spelled.value.closed⟩
  | clipped =>
      refine ⟨spelled.named, spelled.word, fun _ => ?_, ?_⟩
      · exact (by decide : lowercase "\"utf-" = "\"utf-")
      · exact (by decide : '"' ∉ "\"utf-".toList.tail)

theorem readPair_of_mem {params : List Param} {pairs : List (String × String)}
    (shows : List.Forall₂ Shows params pairs) (spelled : ∀ param ∈ params, param.Spelled) :
    ∀ pair ∈ pairs, ReadPair pair := by
  induction shows with
  | nil => simp
  | cons shown _ inductionHypothesis =>
      rw [List.forall_mem_cons] at spelled ⊢
      exact ⟨.of_shows spelled.1 shown, inductionHypothesis spelled.2⟩

/-- A parameter that is written bare. -/
def plain (pair : String × String) : Param :=
  ⟨1, pair.1, pair.2, false, 0⟩

theorem text_plain (pair : String × String) :
    (plain pair).text = "; " ++ pair.1 ++ "=" ++ pair.2 := by
  apply String.toList_inj.mp
  simp [plain, Param.text, spaces]

variable {media : MediaType} {params : List Param} {pairs : List (String × String)}
  {tail : Option Nat} {chars : List Char}

theorem shows_parameters (media : MediaType) :
    List.Forall₂ Shows media.params media.parameters := by
  have each (others : List Param) : List.Forall₂ Shows others (others.map Param.pair) :=
    List.forall₂_map_right_iff.mpr (List.forall₂_same.mpr fun _ _ => .whole)
  rcases media with ⟨type, subtype, _ | ⟨first, _ | ⟨second, rest⟩⟩, tail⟩
  · exact .nil
  · exact each [first]
  · refine .cons ?_ (each (second :: rest))
    split
    case isTrue quirk => exact .clipped quirk.2.1 quirk.2.2.1 quirk.2.2.2
    case isFalse => exact .whole

theorem parameters_plain (type subtype : String) (pairs : List (String × String)) :
    parameters ⟨type, subtype, pairs.map plain, none⟩ = pairs := by
  rcases pairs with _ | ⟨first, _ | ⟨second, rest⟩⟩
  · rfl
  · rfl
  · simp [parameters, plain, Param.pair, Function.comp_def]

/-- Only the last parameter can be without a value. -/
theorem Listed.valued (listed : Listed params tail chars)
    (shows : List.Forall₂ Shows params pairs) :
    pairs.Pairwise fun pair _ => pair.2 ≠ "" := by
  induction listed generalizing pairs with
  | ended => cases shows; exact .nil
  | last => obtain ⟨_, _, _, ⟨⟩, rfl⟩ := List.forall₂_cons_left_iff.mp shows; simp
  | cons spelled given _ inductionHypothesis =>
      obtain ⟨pair, rest, shown, others, rfl⟩ := List.forall₂_cons_left_iff.mp shows
      refine List.pairwise_cons.mpr ⟨fun _ _ => ?_, inductionHypothesis others⟩
      cases shown with
      | whole => exact given
      | clipped => exact (by decide : "\"utf-" ≠ "")

/-- Names and values are listed as they are written where all values are tokens. -/
theorem listed_plain (given : pairs ≠ []) (read : ∀ pair ∈ pairs, ReadPair pair)
    (valued : pairs.Pairwise fun pair _ => pair.2 ≠ "")
    (token : ∀ pair ∈ pairs, ∀ c ∈ pair.2.toList, isTokenChar c = true) :
    ∃ chars, Listed (pairs.map plain) none chars := by
  induction pairs with
  | nil => exact absurd rfl given
  | cons pair rest inductionHypothesis =>
      rw [List.forall_mem_cons] at read token
      rw [List.pairwise_cons] at valued
      have spelled : (plain pair).Spelled :=
        ⟨read.1.named, read.1.word, read.1.folded, .token token.1⟩
      cases rest with
      | nil => exact ⟨_, .last spelled⟩
      | cons next others =>
          obtain ⟨chars, listed⟩ :=
            inductionHypothesis (List.cons_ne_nil _ _) read.2 valued.2 token.2
          exact ⟨_, .cons spelled (valued.1 next List.mem_cons_self) listed⟩

theorem eq_continued {following : Option (List Char)} (found : following? chars = some following) :
    chars = continued following := by
  unfold following? at found
  split at found <;> cases found <;> rfl

theorem eq_of_quotedValue? {read : ValueRead} (found : quotedValue? chars = some read) :
    read.value ≠ [] ∧ ∃ behind, chars = read.value ++ '"' :: behind := by
  unfold quotedValue? at found
  split at found
  case h_1 => cases found
  case h_2 first rest =>
      dsimp only at found
      split at found
      case h_1 => cases found
      case h_2 sign behind opened =>
          split at found
          case isFalse => cases found
          case isTrue =>
              obtain ⟨following, -, rfl⟩ := Option.map_eq_some_iff.mp found
              refine ⟨List.cons_ne_nil _ _, behind, ?_⟩
              have whole := List.prefix_iff_eq_append.mp
                (List.takeWhile_prefix (l := rest) fun c => c ≠ '"')
              rw [opened] at whole
              have stopped : sign = '"' := by
                by_contra other
                have longer := congrArg (List.takeWhile fun c => c ≠ '"') whole
                rw [List.takeWhile_append_of_pos fun c => List.mem_takeWhile_imp,
                  List.takeWhile_cons_of_pos (by simpa using other)] at longer
                simpa using congrArg List.length longer
              rw [stopped] at whole
              rw [List.cons_append, whole]

theorem eq_of_tokenValue? {read : ValueRead} (found : tokenValue? chars = some read) :
    read.value = chars.takeWhile isTokenChar ∧
      following? (chars.drop read.value.length) = some read.rest := by
  simp only [tokenValue?] at found
  split at found
  case h_1 => cases found
  case h_2 ended =>
      cases found
      exact ⟨rfl, ended⟩
  case h_3 rest followed =>
      split at found
      case isTrue => cases found
      case isFalse =>
          cases found
          exact ⟨rfl, followed⟩

/-- A bare value that is as long as what was written is what was written. -/
theorem token_of_tokenValue? {value rest : List Char} {read : ValueRead}
    (found : tokenValue? (value ++ rest) = some read) (long : read.value.length = value.length) :
    (∀ c ∈ value, isTokenChar c = true) ∧ rest = continued read.rest := by
  obtain ⟨run, followed⟩ := eq_of_tokenValue? found
  have split := List.takeWhile_append_dropWhile (p := isTokenChar) (l := value ++ rest)
  rw [← run] at split
  have same : read.value = value := (List.append_inj split long).1
  rw [same] at run
  rw [same, List.drop_left] at followed
  exact ⟨fun c membership => List.mem_takeWhile_imp (run ▸ membership), eq_continued followed⟩

/-- A value that was written bare is not read as one in quotes, even if it begins with a quote: what
is read then begins with the next character, which is none. -/
theorem ne_of_quotedValue? {value rest opening : List Char} {read : ValueRead}
    (closed : '"' ∉ value.tail) (apart : ∀ c ∈ rest.head?, c = ';')
    (begun : value ++ rest = '"' :: opening) (found : quotedValue? opening = some read) :
    value ≠ read.value ∧ value ≠ read.value.map Char.toLower := by
  obtain ⟨given, behind, rfl⟩ := eq_of_quotedValue? found
  obtain ⟨first, more, spelled⟩ := List.exists_cons_of_ne_nil given
  cases value with
  | nil =>
      rw [List.nil_append] at begun
      exact absurd (apart '"' (by rw [begun]; rfl)) (by decide)
  | cons sign inner =>
      obtain ⟨rfl, inside⟩ := List.cons.inj begun
      have unquoted : first ≠ '"' := by
        rintro rfl
        rw [spelled] at inside
        cases inner with
        | nil =>
            obtain rfl : rest = '"' :: (more ++ '"' :: behind) := inside
            exact absurd (apart '"' rfl) (by decide)
        | cons next others =>
            obtain ⟨rfl, -⟩ := List.cons.inj inside
            exact closed List.mem_cons_self
      rw [spelled]
      refine ⟨fun same => unquoted (List.cons.inj same).1.symm, fun same => ?_⟩
      exact toLower_ne_quote unquoted (List.cons.inj same).1.symm

/-- What is left of a clipped charset is not read as that charset again. -/
theorem ne_of_clipped {rest opening : List Char} {read : ValueRead}
    (apart : ∀ c ∈ rest.head?, c = ';') (begun : "\"utf-".toList ++ rest = '"' :: opening)
    (found : quotedValue? opening = some read) :
    read.value.map Char.toLower ≠ "utf-8".toList := by
  obtain ⟨-, behind, rfl⟩ := eq_of_quotedValue? found
  intro charset
  have long : read.value.length = 5 := by simpa using congrArg List.length charset
  have start : "utf-".toList ++ rest = read.value ++ '"' :: behind := (List.cons.inj begun).2
  have kept : rest.head? = read.value[4]? := by
    have fifth : ("utf-".toList ++ rest)[4]? = (read.value ++ '"' :: behind)[4]? := by rw [start]
    rw [List.getElem?_append_right (by decide), List.getElem?_append_left (by omega)] at fifth
    rw [List.head?_eq_getElem?, ← fifth]
    rfl
  have last : rest.head?.map Char.toLower = some '8' := by
    rw [kept, ← List.getElem?_map, charset]
    rfl
  obtain ⟨sign, first, eight⟩ := Option.map_eq_some_iff.mp last
  rw [apart sign first] at eight
  exact absurd eight (by decide)

variable {pair : String × String} {rest : List Char} {param : Param}
  {following : Option (List Char)}

/-- What is read of a parameter that was written bare is what is read of its value. -/
theorem value?_of_param?_plain (read : ReadPair pair)
    (found : param? ((plain pair).chars ++ rest) = some (param, following)) :
    ∃ value, value? (pair.2.toList ++ rest) = some value ∧
      param.value = (if pair.1 = charsetName then lowercase (String.ofList value.value)
        else String.ofList value.value) ∧ following = value.rest := by
  have opened := param?_named 1 read.named read.word (pair.2.toList ++ rest)
  simp only [plain, Param.chars, valueChars, Bool.false_eq_true, if_false, List.append_assoc,
    List.cons_append] at found
  rw [opened, Option.map_eq_some_iff] at found
  obtain ⟨value, valued, made⟩ := found
  obtain ⟨rfl, rfl⟩ := Prod.mk.inj made
  exact ⟨value, valued, rfl, rfl⟩

/-- Where a parameter is read as what was written bare, its value is a token. -/
theorem token_of_param?_plain (read : ReadPair pair) (apart : ∀ c ∈ rest.head?, c = ';')
    (found : param? ((plain pair).chars ++ rest) = some (param, following))
    (shows : Shows param pair) :
    (∀ c ∈ pair.2.toList, isTokenChar c = true) ∧ rest = continued following := by
  obtain ⟨value, valued, shown, rfl⟩ := value?_of_param?_plain read found
  have lower : (lowercase (String.ofList value.value)).toList = value.value.map Char.toLower :=
    toList_lowercase value.value
  unfold value? at valued
  split at valued
  case h_1 opening begun =>
      -- what was written begins with a quote, so that the value in quotes begins behind it
      exfalso
      cases shows with
      | whole =>
          have differs := ne_of_quotedValue? read.closed apart begun valued
          rw [shown] at differs
          split at differs
          · exact differs.2 lower
          · exact differs.1 String.toList_ofList
      | clipped charset _ same =>
          rw [if_pos charset, same] at shown
          exact ne_of_clipped apart begun valued (by rw [← lower, ← shown])
  case h_2 bare =>
      cases shows with
      | whole =>
          refine token_of_tokenValue? valued ?_
          rw [shown]
          split
          · rw [lower, List.length_map]
          · rw [String.toList_ofList]
      | clipped => exact (bare ("utf-".toList ++ rest) (by simp)).elim

/-- Where parameters are read as what was written, their values are tokens. -/
theorem token_of_params? {fuel : Nat} (read : ∀ pair ∈ pairs, ReadPair pair)
    (written : pairs.flatMap (fun pair => (plain pair).text.toList) = ';' :: chars)
    (found : params? fuel chars = some (params, tail))
    (shows : List.Forall₂ Shows params pairs) :
    ∀ pair ∈ pairs, ∀ c ∈ pair.2.toList, isTokenChar c = true := by
  -- each parameter that is read uses up what one pair was written as
  induction pairs generalizing fuel chars params with
  | nil => simp at written
  | cons pair later inductionHypothesis =>
      rw [List.forall_mem_cons] at read ⊢
      rw [List.flatMap_cons, Param.toList_text, List.cons_append, List.cons.injEq] at written
      obtain ⟨-, rfl⟩ := written
      have apart : ∀ c ∈ (later.flatMap fun pair => (plain pair).text.toList).head?, c = ';' := by
        cases later <;> simp [Param.toList_text]
      cases fuel with
      | zero => cases found
      | succ fuel =>
          simp only [params?] at found
          split at found
          case isTrue => cases found; cases shows
          case isFalse =>
              split at found
              case h_1 => cases found
              case h_2 param alone =>
                  cases found
                  obtain ⟨shown, ended⟩ := List.forall₂_cons.mp shows
                  obtain rfl := List.forall₂_nil_left_iff.mp ended
                  exact ⟨(token_of_param?_plain read.1 apart alone shown).1, List.forall_mem_nil _⟩
              case h_3 param more one =>
                  obtain ⟨⟨others, closing⟩, reading, made⟩ := Option.map_eq_some_iff.mp found
                  cases made
                  cases shows with
                  | cons shown shows =>
                      obtain ⟨token, continues⟩ := token_of_param?_plain read.1 apart one shown
                      exact ⟨token, inductionHypothesis read.2 continues reading shows⟩

end MediaType

namespace MediaRange

open MediaType (Shows plain continued)

variable {media bare : MediaType} {range : MediaRange} {quality : Quality} {text : String}

/-- The weight of a media type, which is one where none is given. -/
def weight? (media : MediaType) : Option Quality :=
  match media.parameter? qualityName with
  | none => some .one
  | some written => Quality.parse? written

/-- The parameters of a media type that are no weight. -/
def unweighted (media : MediaType) : List (String × String) :=
  media.parameters.filter fun parameter => parameter.1 ≠ qualityName

/-- Whether a range is what a media type stands for: its type, subtype and parameters without the
weight, in that weight. -/
structure Keeps (range : MediaRange) (media : MediaType) (quality : Quality) : Prop where
  type : range.media.type = media.type
  subtype : range.media.subtype = media.subtype
  suffix : range.media.suffix? = media.suffix?
  parameters : range.media.parameters = unweighted media
  bare : range.media.parameter? qualityName = none
  quality : range.quality = quality

/-- Whether all parameters other than the weight have values that can be written bare. -/
def IsPlain (media : MediaType) : Prop :=
  ∀ parameter ∈ unweighted media, ∀ c ∈ parameter.2.toList, isTokenChar c = true

instance : DecidablePred IsPlain := fun media =>
  decidable_of_iff
    ((unweighted media).all (fun parameter => parameter.2.toList.all isTokenChar) = true)
    (by simp [IsPlain])

theorem toList_unweightedText (media : MediaType) :
    (unweightedText media).toList =
      media.type.toList ++ '/' :: (media.subtype.toList ++
        (unweighted media).flatMap fun parameter => (plain parameter).text.toList) := by
  simp [unweightedText, unweighted, MediaType.essence, MediaType.text_plain, List.flatMap_map]

theorem lookup_unweighted (media : MediaType) :
    (unweighted media).lookup qualityName = none := by
  rw [List.lookup_eq_none_iff]
  intro parameter membership
  have other := of_decide_eq_true (List.mem_filter.mp membership).2
  exact bne_iff_ne.mpr (Ne.symm other)

theorem unweighted_eq (unnamed : media.parameter? qualityName = none) :
    unweighted media = media.parameters := by
  refine List.filter_eq_self.mpr fun parameter membership => decide_eq_true ?_
  exact Ne.symm (bne_iff_ne.mp (List.lookup_eq_none_iff.mp unnamed parameter membership))

theorem shown_of_spelled (spelled : media.Spelled) :
    (∀ parameter ∈ unweighted media, MediaType.ReadPair parameter) ∧
      (unweighted media).Pairwise (fun parameter _ => parameter.2 ≠ "") ∧
      (unweighted media ≠ [] → media.subtype ≠ "") := by
  have shows := MediaType.shows_parameters media
  rcases spelled.listed with ⟨bare, -⟩ | ⟨subtyped, -, chars, listed⟩
  · have none : unweighted media = [] := by
      rw [bare, List.forall₂_nil_left_iff] at shows
      rw [unweighted, shows, List.filter_nil]
    simp [none]
  · refine ⟨fun parameter membership => ?_, (listed.valued shows).filter _, fun _ => subtyped⟩
    exact MediaType.readPair_of_mem shows listed.spelled_of_mem parameter
      (List.mem_of_mem_filter membership)

/-- What is written without quotes is read again where nothing needs them. -/
theorem parse?_of_isPlain (spelled : media.Spelled) (isPlain : IsPlain media) :
    MediaType.parse? (unweightedText media) =
      some ⟨media.type, media.subtype, (unweighted media).map plain, none⟩ := by
  obtain ⟨shown, valued, subtyped⟩ := shown_of_spelled spelled
  have respelled : MediaType.Spelled
      ⟨media.type, media.subtype, (unweighted media).map plain, none⟩ := by
    refine ⟨spelled.typed, spelled.word, spelled.subword, ?_⟩
    by_cases given : unweighted media = []
    · exact .inl ⟨by rw [given, List.map_nil], rfl⟩
    · exact .inr ⟨subtyped given, by simpa using given,
        MediaType.listed_plain given shown valued isPlain⟩
  have text : unweightedText media =
      MediaType.text ⟨media.type, media.subtype, (unweighted media).map plain, none⟩ := by
    apply String.toList_inj.mp
    rw [toList_unweightedText, MediaType.toList_text]
    simp [List.flatMap_map, continued]
  rw [text, respelled.parse?_text]

/-- The type and the subtype are read again in any case, but the parameters only if none of them
needs quotes. -/
theorem isPlain_of_parse? (spelled : media.Spelled)
    (parsed : MediaType.parse? (unweightedText media) = some bare) :
    bare.type = media.type ∧ bare.subtype = media.subtype ∧
      (bare.parameters = unweighted media → IsPlain media) := by
  obtain ⟨following, written⟩ : ∃ following,
      ((unweighted media).flatMap fun parameter => (plain parameter).text.toList) =
        continued following := by
    cases unweighted media with
    | nil => exact ⟨none, rfl⟩
    | cons first rest =>
        rw [List.flatMap_cons, Param.toList_text, List.cons_append]
        exact ⟨some _, rfl⟩
  rw [MediaType.parse?, toList_unweightedText, written,
    MediaType.parseChars?_essence spelled.typed spelled.word spelled.subword] at parsed
  cases following with
  | none =>
      obtain rfl := Option.some.inj parsed
      refine ⟨rfl, rfl, fun _ parameter membership => ?_⟩
      cases others : unweighted media with
      | nil => simp [others] at membership
      | cons first rest => simp [others, Param.toList_text, continued] at written
  | some chars =>
      dsimp only at parsed
      split at parsed
      case isTrue => cases parsed
      case isFalse =>
          obtain ⟨⟨params, tail⟩, found, rfl⟩ := Option.map_eq_some_iff.mp parsed
          refine ⟨rfl, rfl, fun kept => ?_⟩
          refine MediaType.token_of_params? (shown_of_spelled spelled).1 written found ?_
          rw [← kept]
          exact MediaType.shows_parameters
            ⟨media.type, media.subtype, params, if params.isEmpty then none else tail⟩

/-- A range is what its text stands for exactly if there is no weight, or no other parameter needs
quotes.  Another weighted one is lost or has other parameters, but its type, its subtype and its
weight are never changed. -/
theorem parse?_keeps_iff (read : MediaType.parse? (Text.trim text) = some media)
    (weighed : weight? media = some quality) :
    ((∃ range, parse? text = some range ∧ range.Keeps media quality) ↔
        media.parameter? qualityName = none ∨ IsPlain media) ∧
      ∀ range, parse? text = some range →
        range.media.type = media.type ∧ range.media.subtype = media.subtype ∧
          range.quality = quality := by
  have spelled := MediaType.spelled_of_parse? read
  have parsed : parse? text = ofParsed? media := by rw [parse?, read, Option.bind_some]
  rw [parsed]
  unfold weight? at weighed
  unfold ofParsed?
  split at weighed
  case h_1 unnamed =>
      obtain rfl := Option.some.inj weighed
      have kept : (ofMedia media).Keeps media .one :=
        ⟨rfl, rfl, rfl, (unweighted_eq unnamed).symm, unnamed, rfl⟩
      simp only [unnamed]
      refine ⟨iff_of_true ⟨_, rfl, kept⟩ (.inl trivial), ?_⟩
      rintro range ⟨⟩
      exact ⟨rfl, rfl, rfl⟩
  case h_2 written named =>
      simp only [named, weighed, Option.map_eq_some_iff, reduceCtorEq, false_or]
      refine ⟨⟨?_, fun isPlain => ?_⟩, ?_⟩
      · rintro ⟨_, ⟨bare, reread, rfl⟩, kept⟩
        exact (isPlain_of_parse? spelled reread).2.2 kept.parameters
      · refine ⟨_, ⟨_, parse?_of_isPlain spelled isPlain, rfl⟩, rfl, rfl, rfl, ?_, ?_, rfl⟩
        · exact MediaType.parameters_plain _ _ _
        · rw [MediaType.parameter?, MediaType.parameters_plain, lookup_unweighted]
      · rintro _ ⟨bare, reread, rfl⟩
        obtain ⟨type, subtype, -⟩ := isPlain_of_parse? spelled reread
        exact ⟨type, subtype, rfl⟩

/-- What `text/plain; charset=utf-8; q=0.2` is read as. -/
def weighted : MediaType :=
  ⟨"text", "plain", [⟨1, "charset", "utf-8", false, 0⟩, ⟨1, "q", "0.2", false, 0⟩], none⟩

theorem parse?_keeps_iff_of_weighted :
    MediaType.parse? (Text.trim "text/plain; charset=utf-8; q=0.2") = some weighted ∧
      weight? weighted = some { rank := 0x3E4CCCCD, minusZero := false } ∧
      ∃ range, parse? "text/plain; charset=utf-8; q=0.2" = some range ∧
        range.Keeps weighted { rank := 0x3E4CCCCD, minusZero := false } := by
  have read : MediaType.parse? (Text.trim "text/plain; charset=utf-8; q=0.2") = some weighted := by
    decide +kernel
  have weighed : weight? weighted = some { rank := 0x3E4CCCCD, minusZero := false } := by
    decide +kernel
  exact ⟨read, weighed, (parse?_keeps_iff read weighed).1.mpr (.inr (by decide +kernel))⟩

/-- A value with a space is lost together with its range, and one with a semicolon is cut in two,
though the same media types without a weight are read as they stand. -/
theorem parse?_of_quoted :
    (MediaType.parse? (Text.trim "text/plain; x=\"a b\"; q=0.5")).map MediaType.parameters =
        some [("x", "a b"), ("q", "0.5")] ∧
      ((MediaType.parse? (Text.trim "text/plain; x=\"a b\"; q=0.5")).bind weight?).isSome = true ∧
      parse? "text/plain; x=\"a b\"; q=0.5" = none ∧
      (parse? "text/plain; x=\"a b\"").map (fun range => range.media.parameters) =
        some [("x", "a b")] ∧
      (parse? "text/plain; x=\"a;b=c\"").map (fun range => range.media.parameters) =
        some [("x", "a;b=c")] ∧
      (parse? "text/plain; x=\"a;b=c\"; q=0.5").map (fun range => range.media.parameters) =
        some [("x", "a"), ("b", "c")] := by
  decide +kernel

end MediaRange

end Switchyard.Media
