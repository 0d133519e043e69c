import Switchyard.Media.MediaType
import Switchyard.Proofs.Text.Ascii
import Switchyard.Text.Blank

/-!
# Parameters of media types and their spellings

Whatever is read as a list of parameters is `Listed`, and the characters that spell it are read as
the same list.  A parameter can be added if the others have values and no semicolon is left.
-/

set_option autoImplicit false

namespace Switchyard.Media

open Text (isBlank isVisibleChar lowercase)

theorem ascii_of_token {c : Char} (token : isTokenChar c = true) : c.toNat < 128 := by
  simp only [isTokenChar, Bool.or_eq_true, Char.isAlphanum, Char.isAlpha, Char.isUpper,
    Char.isLower, Char.isDigit, Bool.and_eq_true, decide_eq_true_eq, UInt32.le_iff_toNat_le,
    List.contains_iff_mem] at token
  rcases token with ((⟨-, high⟩ | ⟨-, high⟩) | ⟨-, high⟩) | listed
  · exact Nat.lt_of_le_of_lt high (by decide)
  · exact Nat.lt_of_le_of_lt high (by decide)
  · exact Nat.lt_of_le_of_lt high (by decide)
  · have ascii : "!#$%&'*+-.^_`|~".toList.all (fun c => c.toNat < 128) = true := by decide
    simpa using List.all_eq_true.mp ascii c listed

theorem forall_token {p : Char → Bool}
    (every : ∀ code : Fin 128, (!isTokenChar (Char.ofNat code) || p (Char.ofNat code)) = true)
    {c : Char} (token : isTokenChar c = true) : p c = true := by
  simpa [token] using
    Text.forall_ascii (p := fun c => !isTokenChar c || p c) every (ascii_of_token token)

theorem isTokenChar_toLower {c : Char} (token : isTokenChar c = true) :
    isTokenChar c.toLower = true :=
  forall_token (p := fun c => isTokenChar c.toLower) (by decide) token

theorem isBlank_of_token {c : Char} (token : isTokenChar c = true) : isBlank c = false := by
  simpa using forall_token (p := fun c => !isBlank c) (by decide) token

theorem isVisibleChar_of_token {c : Char} (token : isTokenChar c = true) :
    isVisibleChar c = true :=
  forall_token (p := isVisibleChar) (by decide) token

theorem isQuotedChar_toLower {c : Char} (quoted : isQuotedChar c = true) :
    isQuotedChar c.toLower = true := by
  by_cases ascii : c.toNat < 128
  · have kept := Text.forall_ascii (p := fun c => !isQuotedChar c || isQuotedChar c.toLower)
      (by decide) ascii
    simpa [quoted] using kept
  · rwa [Text.toLower_eq_self (by omega)]

theorem toLower_ne_quote {c : Char} (unquoted : c ≠ '"') : c.toLower ≠ '"' := by
  by_cases ascii : c.toNat < 128
  · have kept := Text.forall_ascii (p := fun c => c = '"' || c.toLower ≠ '"')
      (by decide) ascii
    simpa [unquoted] using kept
  · rwa [Text.toLower_eq_self (by omega)]

theorem isVisibleChar_of_quoted {c : Char} (quoted : isQuotedChar c = true) :
    isVisibleChar c = true ↔ c.toNat < 128 := by
  by_cases ascii : c.toNat < 128
  · have visible := Text.forall_ascii (p := fun c => !isQuotedChar c || isVisibleChar c)
      (by decide) ascii
    simpa [quoted, ascii] using visible
  · simp [Text.isVisibleChar_eq_false (Nat.not_lt.mp ascii), ascii]

/-- A run of characters ends where another one stands. -/
theorem takeWhile_append_of_stop {p : Char → Bool} {run behind : List Char}
    (all : ∀ c ∈ run, p c = true) (stop : ∀ c ∈ behind.head?, p c = false) :
    (run ++ behind).takeWhile p = run := by
  rw [List.takeWhile_append_of_pos all]
  cases behind with
  | nil => simp
  | cons c rest => simp [stop c rfl]

theorem takeWhile_tokens {run : List Char} (token : ∀ c ∈ run, isTokenChar c = true) {sign : Char}
    (stop : isTokenChar sign = false) (rest : List Char) :
    (run ++ sign :: rest).takeWhile isTokenChar = run :=
  takeWhile_append_of_stop token (by simpa using stop)

theorem takeWhile_spaces (count : Nat) (behind : List Char) (stop : ∀ c ∈ behind.head?, c ≠ ' ') :
    (List.replicate count ' ' ++ behind).takeWhile (fun c => c = ' ') =
      List.replicate count ' ' := by
  apply takeWhile_append_of_stop
  · simp
  · intro c first
    exact decide_eq_false (stop c first)

@[simp]
theorem all_visible_spaces (count : Nat) :
    (List.replicate count ' ').all isVisibleChar = true := by
  rw [List.all_eq_true]
  intro c membership
  rw [List.eq_of_mem_replicate membership]
  decide

@[simp]
theorem drop_spaces (count : Nat) (behind : List Char) :
    (List.replicate count ' ' ++ behind).drop count = behind :=
  List.drop_left' List.length_replicate

/-- Characters that do not end with a blank. -/
def Solid (chars : List Char) : Prop :=
  ∀ c ∈ chars.getLast?, isBlank c = false

theorem Solid.append {c : Char} {rest : List Char} (solid : Solid (c :: rest))
    (front : List Char) : Solid (front ++ c :: rest) := by
  rwa [Solid, List.getLast?_append, Option.or_of_isSome (by simp)]

theorem solid_singleton {c : Char} (solid : isBlank c = false) : Solid [c] := by
  intro last found
  cases found
  exact solid

theorem solid_of_token {sign : Char} {chars : List Char} (solid : isBlank sign = false)
    (token : ∀ c ∈ chars, isTokenChar c = true) : Solid (sign :: chars) := by
  intro last found
  rcases List.mem_cons.mp (List.mem_of_getLast? found) with rfl | listed
  · exact solid
  · exact isBlank_of_token (token last listed)

/-- Spaces are trimmed from the end of characters with no blank at either end. -/
theorem trimChars_append_spaces {first : Char} (rest : List Char) (begun : isBlank first = false)
    (solid : Solid (first :: rest)) (count : Nat) :
    Text.trimChars (first :: rest ++ List.replicate count ' ') = first :: rest := by
  have blank : ∀ c ∈ List.replicate count ' ', isBlank c = true := by
    intro c membership
    rw [List.eq_of_mem_replicate membership]
    decide
  have kept : (first :: rest).reverse.dropWhile isBlank = (first :: rest).reverse := by
    cases reversed : (first :: rest).reverse with
    | nil => rfl
    | cons last _ =>
        refine List.dropWhile_cons_of_neg ?_
        simp [solid last (by rw [← List.head?_reverse, reversed]; rfl)]
  rw [Text.trimChars, List.cons_append, List.dropWhile_cons_of_neg (by simp [begun]),
    ← List.cons_append, List.reverse_append, List.reverse_replicate,
    List.dropWhile_append_of_pos blank, kept, List.reverse_reverse]

/-- Characters that are tokens in lower case. -/
structure Word (text : String) : Prop where
  token : ∀ c ∈ text.toList, isTokenChar c = true
  lower : lowercase text = text

theorem Word.of_all {text : String} (token : text.toList.all isTokenChar = true)
    (lower : lowercase text = text) : Word text :=
  ⟨List.all_eq_true.mp token, lower⟩

@[simp]
theorem Word.all_visible {text : String} (word : Word text) :
    text.toList.all isVisibleChar = true :=
  List.all_eq_true.mpr fun c membership => isVisibleChar_of_token (word.token c membership)

@[simp]
theorem toList_lowercase (chars : List Char) :
    (lowercase (String.ofList chars)).toList = chars.map Char.toLower := by
  simp [lowercase]

theorem lowercase_ne_empty {chars : List Char} (given : chars ≠ []) :
    lowercase (String.ofList chars) ≠ "" := by
  intro empty
  have none := congrArg String.toList empty
  rw [toList_lowercase] at none
  exact given (List.map_eq_nil_iff.mp none)

theorem Word.of_lowercase {chars : List Char} (token : ∀ c ∈ chars, isTokenChar c = true) :
    Word (lowercase (String.ofList chars)) := by
  refine ⟨?_, Text.lowercase_lowercase _⟩
  intro c membership
  rw [toList_lowercase, List.mem_map] at membership
  obtain ⟨upper, listed, rfl⟩ := membership
  exact isTokenChar_toLower (token upper listed)

/-- What a parameter is spelled with behind its equality sign. -/
def valueChars (inQuotes : Bool) (after : Nat) (value : List Char) : List Char :=
  if inQuotes then '"' :: (value ++ '"' :: List.replicate after ' ') else value

/-- What a parameter is spelled with behind its semicolon. -/
def Param.chars (param : Param) : List Char :=
  List.replicate param.gap ' ' ++
    (param.name.toList ++ '=' :: valueChars param.inQuotes param.after param.value.toList)

theorem Param.toList_text (param : Param) : param.text.toList = ';' :: param.chars := by
  unfold text chars valueChars
  split <;> simp [spaces]

/-- The values that are read, whether they stand in quotes, and the spaces after these. -/
inductive SpelledValue : Bool → Nat → List Char → Prop
  | token {value : List Char} (token : ∀ c ∈ value, isTokenChar c = true) :
      SpelledValue false 0 value
  | quoted {first : Char} {rest : List Char} (after : Nat)
      (quoted : ∀ c ∈ first :: rest, isQuotedChar c = true) (closed : '"' ∉ rest) :
      SpelledValue true after (first :: rest)

theorem SpelledValue.lowercase {inQuotes : Bool} {after : Nat} {value : List Char}
    (spelled : SpelledValue inQuotes after value) :
    SpelledValue inQuotes after (value.map Char.toLower) := by
  cases spelled with
  | token token =>
      refine .token ?_
      simpa using fun c membership => isTokenChar_toLower (token c membership)
  | quoted after quoted closed =>
      refine .quoted after ?_ ?_
      · rw [← List.map_cons]
        simpa only [List.forall_mem_map] using
          fun c membership => isQuotedChar_toLower (quoted c membership)
      · simpa using fun c membership =>
          toLower_ne_quote fun quote : c = '"' => closed (quote ▸ membership)

/-- A parameter as it is read. -/
structure Param.Spelled (param : Param) : Prop where
  named : param.name ≠ ""
  word : Word param.name
  folded : param.name = charsetName → lowercase param.value = param.value
  value : SpelledValue param.inQuotes param.after param.value.toList

/-- Names are put in lower case, and so are the values of charsets. -/
theorem Param.Spelled.of_read (gap : Nat) {name value : List Char} {inQuotes : Bool} {after : Nat}
    (named : name ≠ []) (token : ∀ c ∈ name, isTokenChar c = true)
    (spelled : SpelledValue inQuotes after value) :
    Param.Spelled ⟨gap, lowercase (String.ofList name),
      if lowercase (String.ofList name) = charsetName then lowercase (String.ofList value)
      else String.ofList value, inQuotes, after⟩ := by
  refine ⟨lowercase_ne_empty named, .of_lowercase token, ?_, ?_⟩
  · intro charset
    change lowercase (ite _ _ _) = ite _ _ _
    rw [if_pos charset, Text.lowercase_lowercase]
  · dsimp only
    split
    case isTrue => rw [toList_lowercase]; exact spelled.lowercase
    case isFalse => rwa [String.toList_ofList]

namespace SpelledValue

variable {inQuotes : Bool} {after : Nat} {value : List Char}

theorem unspaced (spelled : SpelledValue inQuotes after value) :
    SpelledValue inQuotes 0 value := by
  cases spelled with
  | token token => exact .token token
  | quoted _ quoted closed => exact .quoted 0 quoted closed

theorem valueChars_unspaced (spelled : SpelledValue inQuotes after value) :
    valueChars inQuotes after value =
      valueChars inQuotes 0 value ++ List.replicate after ' ' := by
  cases spelled <;> simp [valueChars]

theorem solid (spelled : SpelledValue inQuotes after value) :
    Solid ('=' :: valueChars inQuotes 0 value) := by
  cases spelled with
  | token token => exact solid_of_token (by decide) token
  | @quoted first rest _ _ _ =>
      have closing : Solid ['"'] := solid_singleton (by decide)
      exact closing.append ('=' :: '"' :: first :: rest)

theorem all_visible_iff (spelled : SpelledValue inQuotes after value) :
    (valueChars inQuotes after value).all isVisibleChar = true ↔
      ∀ c ∈ value, c.toNat < 128 := by
  cases spelled with
  | token token =>
      rw [valueChars, if_neg (by simp), List.all_eq_true]
      exact forall₂_congr fun c membership =>
        iff_of_true (isVisibleChar_of_token (token c membership))
          (ascii_of_token (token c membership))
  | @quoted first rest _ quoted _ =>
      have inner : (first :: rest).all isVisibleChar = true ↔
          ∀ c ∈ first :: rest, c.toNat < 128 := by
        rw [List.all_eq_true]
        exact forall₂_congr fun c membership => isVisibleChar_of_quoted (quoted c membership)
      have quote : isVisibleChar '"' = true := by decide
      rw [← inner]
      simp only [valueChars, if_true, List.all_cons, List.all_append, quote, all_visible_spaces,
        Bool.true_and, Bool.and_true]

end SpelledValue

/-- A parameter without the spaces after its closing quote. -/
def Param.unspaced (param : Param) : Param :=
  { param with after := 0 }

namespace Param.Spelled

variable {param : Param}

theorem unspaced (spelled : param.Spelled) : param.unspaced.Spelled :=
  ⟨spelled.named, spelled.word, spelled.folded, spelled.value.unspaced⟩

theorem chars_unspaced (spelled : param.Spelled) :
    param.chars = param.unspaced.chars ++ List.replicate param.after ' ' := by
  rw [chars, spelled.value.valueChars_unspaced]
  simp [chars, Param.unspaced]

theorem solid_unspaced (spelled : param.Spelled) : Solid (';' :: param.unspaced.chars) := by
  have solid := spelled.value.solid.append
    (';' :: (List.replicate param.gap ' ' ++ param.name.toList))
  rwa [List.cons_append, List.append_assoc] at solid

theorem all_visible_iff (spelled : param.Spelled) :
    param.text.toList.all isVisibleChar = true ↔ ∀ c ∈ param.value.toList, c.toNat < 128 := by
  have signs : isVisibleChar ';' = true ∧ isVisibleChar '=' = true := by decide
  rw [← spelled.value.all_visible_iff, Param.toList_text, chars]
  simp only [List.all_cons, List.all_append, signs, all_visible_spaces,
    spelled.word.all_visible, Bool.true_and]

end Param.Spelled

namespace MediaType

variable {chars : List Char} {following : Option (List Char)} {param : Param} {read : ValueRead}

/-- Characters that follow after a semicolon, if any do. -/
def continued : Option (List Char) → List Char
  | none => []
  | some rest => ';' :: rest

@[simp]
theorem following?_continued (following : Option (List Char)) :
    following? (continued following) = some following := by
  cases following <;> rfl

theorem head?_continued (following : Option (List Char)) :
    ∀ c ∈ (continued following).head?, c = ';' := by
  cases following <;> simp [continued]

theorem takeWhile_tokens_continued {run : List Char} (token : ∀ c ∈ run, isTokenChar c = true)
    (following : Option (List Char)) :
    (run ++ continued following).takeWhile isTokenChar = run := by
  apply takeWhile_append_of_stop token
  intro c first
  rw [head?_continued _ c first]
  decide

theorem spelled_of_quotedValue? (found : quotedValue? chars = some read) :
    SpelledValue read.inQuotes read.after read.value ∧ (read.rest ≠ none → read.value ≠ []) := by
  unfold quotedValue? at found
  split at found
  case h_1 => cases found
  case h_2 first rest =>
      dsimp only at found
      split at found
      case h_1 => cases found
      case h_2 =>
          split at found
          case isFalse => cases found
          case isTrue quoted =>
              obtain ⟨following, -, rfl⟩ := Option.map_eq_some_iff.mp found
              refine ⟨.quoted _ (List.all_eq_true.mp quoted) ?_, fun _ => List.cons_ne_nil _ _⟩
              intro membership
              simpa using List.mem_takeWhile_imp membership

theorem spelled_of_tokenValue? (found : tokenValue? chars = some read) :
    SpelledValue read.inQuotes read.after read.value ∧ (read.rest ≠ none → read.value ≠ []) := by
  have token : ∀ c ∈ chars.takeWhile isTokenChar, isTokenChar c = true :=
    fun c membership => List.mem_takeWhile_imp membership
  simp only [tokenValue?] at found
  split at found
  case h_1 => cases found
  case h_2 =>
      cases found
      exact ⟨.token token, fun more => absurd rfl more⟩
  case h_3 =>
      split at found
      case isTrue => cases found
      case isFalse given =>
          cases found
          exact ⟨.token token, fun _ => by simpa using given⟩

theorem spelled_of_value? (found : value? chars = some read) :
    SpelledValue read.inQuotes read.after read.value ∧ (read.rest ≠ none → read.value ≠ []) := by
  unfold value? at found
  split at found
  · exact spelled_of_quotedValue? found
  · exact spelled_of_tokenValue? found

/-- A parameter that something follows has a value. -/
theorem spelled_of_param? (found : param? chars = some (param, following)) :
    param.Spelled ∧ (following ≠ none → param.value ≠ "") := by
  simp only [param?] at found
  split at found
  case h_2 => cases found
  case h_1 written _ =>
      split at found
      case isTrue => cases found
      case isFalse given =>
          obtain ⟨read, value, made⟩ := Option.map_eq_some_iff.mp found
          obtain ⟨rfl, rfl⟩ := Prod.mk.inj made
          obtain ⟨spelled, complete⟩ := spelled_of_value? value
          refine ⟨.of_read _ (by simpa using given) ?_ spelled, ?_⟩
          · exact fun c membership => List.mem_takeWhile_imp membership
          · intro more
            dsimp only
            split
            · exact lowercase_ne_empty (complete more)
            · exact fun empty => complete more (by simpa using congrArg String.toList empty)

theorem quotedValue?_continued (after : Nat) {first : Char} {rest : List Char}
    (quoted : ∀ c ∈ first :: rest, isQuotedChar c = true) (closed : '"' ∉ rest)
    (following : Option (List Char)) :
    quotedValue? (first :: (rest ++ '"' ::
        (List.replicate after ' ' ++ continued following))) =
      some ⟨first :: rest, true, after, following⟩ := by
  have inner : (rest ++ '"' :: (List.replicate after ' ' ++ continued following)).takeWhile
      (fun c => c ≠ '"') = rest := by
    apply takeWhile_append_of_stop
    · simpa using fun c membership (quote : c = '"') => closed (quote ▸ membership)
    · simp
  have trailing := takeWhile_spaces after (continued following) fun c first => by
    rw [head?_continued _ c first]
    decide
  have printable : (first :: rest).all isQuotedChar = true := List.all_eq_true.mpr quoted
  simp only [quotedValue?, inner, List.drop_left, trailing, printable, if_true,
    List.length_replicate, drop_spaces, following?_continued, Option.map_some]

theorem tokenValue?_continued {value : List Char} (token : ∀ c ∈ value, isTokenChar c = true)
    (complete : following ≠ none → value ≠ []) :
    tokenValue? (value ++ continued following) = some ⟨value, false, 0, following⟩ := by
  simp only [tokenValue?, takeWhile_tokens_continued token, List.drop_left, following?_continued]
  cases following with
  | none => rfl
  | some rest => simpa using complete (Option.some_ne_none rest)

theorem value?_valueChars {inQuotes : Bool} {after : Nat} {value : List Char}
    (spelled : SpelledValue inQuotes after value) (complete : following ≠ none → value ≠ []) :
    value? (valueChars inQuotes after value ++ continued following) =
      some ⟨value, inQuotes, after, following⟩ := by
  cases spelled with
  | quoted _ quoted closed =>
      simpa [valueChars, value?] using quotedValue?_continued after quoted closed following
  | token token =>
      rw [← tokenValue?_continued token complete]
      apply value?.eq_2
      -- neither a token nor a semicolon begins with a quote
      intro rest quote
      rw [valueChars, if_neg (by simp)] at quote
      cases value with
      | nil =>
          have semicolon : '"' = ';' :=
            head?_continued following '"' (by rw [List.nil_append] at quote; simp [quote])
          exact absurd semicolon (by decide)
      | cons c later =>
          have first : c = '"' := (List.cons.inj quote).1
          exact absurd (token c List.mem_cons_self) (by rw [first]; decide)

/-- After a name and an equality sign a parameter is what is read as its value. -/
theorem param?_named (gap : Nat) {name : String} (named : name ≠ "") (word : Word name)
    (text : List Char) :
    param? (List.replicate gap ' ' ++ (name.toList ++ '=' :: text)) =
      (value? text).map fun read =>
        (⟨gap, name,
          if name = charsetName then lowercase (String.ofList read.value)
          else String.ofList read.value, read.inQuotes, read.after⟩, read.rest) := by
  have given : name.toList ≠ [] := by simpa using named
  have filled : name.toList.isEmpty = false := List.isEmpty_eq_false_iff.mpr given
  have spaces := takeWhile_spaces gap (name.toList ++ '=' :: text) fun c first => by
    obtain ⟨initial, rest, spelled⟩ := List.exists_cons_of_ne_nil given
    rw [spelled] at first
    cases first
    rintro rfl
    exact absurd (word.token ' ' (spelled ▸ List.mem_cons_self)) (by decide)
  have run := takeWhile_tokens word.token (by decide : isTokenChar '=' = false) text
  simp only [param?, spaces, List.length_replicate, drop_spaces, run, List.drop_left, filled,
    String.ofList_toList, word.lower, Bool.false_eq_true, if_false]

theorem param?_chars (spelled : param.Spelled) (complete : following ≠ none → param.value ≠ "") :
    param? (param.chars ++ continued following) = some (param, following) := by
  have valueGiven : following ≠ none → param.value.toList ≠ [] := by simpa using complete
  have folding :
      (if param.name = charsetName then lowercase param.value else param.value) = param.value := by
    split
    case isTrue charset => exact spelled.folded charset
    case isFalse => rfl
  rw [Param.chars, List.append_assoc, List.append_assoc, List.cons_append,
    param?_named param.gap spelled.named spelled.word, value?_valueChars spelled.value valueGiven]
  simp only [Option.map_some, String.ofList_toList, folding]

/-- Nothing can follow a parameter without a value. -/
theorem param?_unvalued (spelled : param.Spelled) (unvalued : param.value = "")
    (more : List Char) : param? (param.chars ++ ';' :: more) = none := by
  have written : valueChars param.inQuotes param.after param.value.toList = [] := by
    have value := spelled.value
    generalize param.after = after, param.inQuotes = inQuotes at value
    rw [unvalued] at value ⊢
    cases value
    rfl
  rw [Param.chars, List.append_assoc, List.append_assoc, List.cons_append,
    param?_named param.gap spelled.named spelled.word, written, Option.map_eq_none_iff]
  rfl

/-- Parameters, the spaces after a final semicolon, and the characters that spell all that behind
the first semicolon. -/
inductive Listed : List Param → Option Nat → List Char → Prop
  | ended (count : Nat) : Listed [] (some count) (List.replicate count ' ')
  | last {param : Param} (spelled : param.Spelled) : Listed [param] none param.chars
  | cons {param : Param} {params : List Param} {tail : Option Nat} {chars : List Char}
      (spelled : param.Spelled) (valued : param.value ≠ "") (listed : Listed params tail chars) :
      Listed (param :: params) tail (param.chars ++ ';' :: chars)

variable {params : List Param} {tail : Option Nat}

theorem params?_chars (fuel : Nat) (spelled : param.Spelled)
    (complete : following ≠ none → param.value ≠ "") :
    params? (fuel + 1) (param.chars ++ continued following) =
      match following with
      | none => some ([param], none)
      | some rest => (params? fuel rest).map fun read => (param :: read.1, read.2) := by
  have filled : (param.chars ++ continued following).all (fun c => c = ' ') = false := by
    simp [Param.chars]
  simp only [params?, filled, param?_chars spelled complete]
  cases following <;> rfl

theorem params?_of_listed (listed : Listed params tail chars) {fuel : Nat}
    (enough : chars.length < fuel) : params? fuel chars = some (params, tail) := by
  induction listed generalizing fuel with
  | ended count =>
      cases fuel with
      | zero => cases enough
      | succ fuel => simp [params?]
  | @last param spelled =>
      cases fuel with
      | zero => cases enough
      | succ fuel =>
          have read : params? (fuel + 1) (param.chars ++ continued none) = some ([param], none) :=
            params?_chars fuel spelled (absurd rfl)
          rwa [continued, List.append_nil] at read
  | @cons param params tail chars spelled valued listed inductionHypothesis =>
      cases fuel with
      | zero => cases enough
      | succ fuel =>
          have shorter : chars.length < fuel := by
            rw [List.length_append, List.length_cons] at enough
            omega
          rw [← continued, params?_chars fuel spelled fun _ => valued]
          simp only [inductionHypothesis shorter, Option.map_some]

theorem listed_of_params? {fuel : Nat} (found : params? fuel chars = some (params, tail)) :
    ∃ spelled, Listed params tail spelled := by
  induction fuel generalizing chars params tail with
  | zero => cases found
  | succ fuel inductionHypothesis =>
      simp only [params?] at found
      split at found
      case isTrue =>
          cases found
          exact ⟨_, .ended chars.length⟩
      case isFalse =>
          split at found
          case h_1 => cases found
          case h_2 param read =>
              cases found
              exact ⟨_, .last (spelled_of_param? read).1⟩
          case h_3 param rest read =>
              obtain ⟨⟨later, closing⟩, others, made⟩ := Option.map_eq_some_iff.mp found
              cases made
              obtain ⟨spelled, valued⟩ := spelled_of_param? read
              obtain ⟨chars, listed⟩ := inductionHypothesis others
              exact ⟨_, .cons spelled (valued (Option.some_ne_none rest)) listed⟩

theorem params?_spaces (fuel count : Nat) (more : List Char) :
    params? fuel (List.replicate count ' ' ++ ';' :: more) = none := by
  cases fuel with
  | zero => rfl
  | succ fuel =>
      have filled : (List.replicate count ' ' ++ ';' :: more).all (fun c => c = ' ') = false := by
        simp
      have spaces := takeWhile_spaces count (';' :: more) fun c first => by
        cases first
        decide
      have unnamed : (';' :: more).takeWhile isTokenChar = [] :=
        List.takeWhile_cons_of_neg (by decide)
      simp [params?, filled, param?, spaces, unnamed]

namespace Listed

theorem spelled_of_mem (listed : Listed params tail chars) :
    ∀ param ∈ params, param.Spelled := by
  induction listed with
  | ended => simp
  | last spelled => simpa using spelled
  | cons spelled _ _ inductionHypothesis =>
      exact List.forall_mem_cons.mpr ⟨spelled, inductionHypothesis⟩

/-- The characters that spell parameters are those of their texts. -/
theorem text (listed : Listed params tail chars) :
    params.flatMap (fun param => param.text.toList) ++
      continued (tail.map fun count => List.replicate count ' ') = ';' :: chars := by
  induction listed with
  | ended => rfl
  | last => simp [Param.toList_text, continued]
  | cons _ _ _ inductionHypothesis =>
      rw [List.flatMap_cons, List.append_assoc, inductionHypothesis, Param.toList_text]
      simp

/-- A parameter can be added behind others that all have values, if no semicolon is left. -/
theorem extend {added : Param} (listed : Listed params tail chars) (untailed : tail = none)
    (valued : ∀ param ∈ params, param.value ≠ "") (spelled : added.Spelled) :
    Listed (params ++ [added]) none (chars ++ ';' :: added.chars) := by
  induction listed with
  | ended => cases untailed
  | last first => exact .cons first (valued _ List.mem_cons_self) (.last spelled)
  | cons first given _ inductionHypothesis =>
      rw [List.append_assoc, List.cons_append]
      refine .cons first given (inductionHypothesis untailed ?_)
      exact fun param membership => valued param (List.mem_cons_of_mem _ membership)

/-- Nothing else can be added. -/
theorem refused (listed : Listed params tail chars)
    (closed : ¬ (tail = none ∧ ∀ param ∈ params, param.value ≠ "")) (fuel : Nat)
    (more : List Char) : params? fuel (chars ++ ';' :: more) = none := by
  induction listed generalizing fuel with
  | ended count => exact params?_spaces fuel count more
  | @last param spelled =>
      have unvalued : param.value = "" := by simpa using closed
      cases fuel with
      | zero => rfl
      | succ fuel =>
          have filled : (param.chars ++ ';' :: more).all (fun c => c = ' ') = false := by
            simp [Param.chars]
          simp [params?, filled, param?_unvalued spelled unvalued]
  | @cons param params tail chars spelled valued _ inductionHypothesis =>
      cases fuel with
      | zero => rfl
      | succ fuel =>
          have still : ¬ (tail = none ∧ ∀ param ∈ params, param.value ≠ "") := by
            rintro ⟨untailed, others⟩
            exact closed ⟨untailed, List.forall_mem_cons.mpr ⟨valued, others⟩⟩
          rw [List.append_assoc, List.cons_append, ← continued,
            params?_chars fuel spelled fun _ => valued]
          simp only [inductionHypothesis still, Option.map_none]

/-- Without the spaces at its end a list has the same parameters but for spaces after a quote. -/
theorem trimmed (listed : Listed params tail chars) :
    ∃ others closing core count, Listed others closing core ∧
      chars = core ++ List.replicate count ' ' ∧ Solid (';' :: core) ∧
      others.map Param.unspaced = params.map Param.unspaced := by
  induction listed with
  | ended count => exact ⟨[], some 0, [], count, .ended 0, rfl, by simp [Solid]; decide, rfl⟩
  | @last param spelled =>
      refine ⟨[param.unspaced], none, param.unspaced.chars, param.after, .last spelled.unspaced,
        spelled.chars_unspaced, spelled.solid_unspaced, rfl⟩
  | @cons param params tail chars spelled valued _ inductionHypothesis =>
      obtain ⟨others, closing, core, count, listed, rfl, solid, alike⟩ := inductionHypothesis
      refine ⟨param :: others, closing, param.chars ++ ';' :: core, count,
        .cons spelled valued listed, ?_, ?_, ?_⟩
      · rw [List.append_assoc, List.cons_append]
      · exact solid.append (';' :: param.chars)
      · rw [List.map_cons, List.map_cons, alike]

end Listed

end MediaType

end Switchyard.Media
