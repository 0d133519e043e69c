import Switchyard.Json.Printer
import Switchyard.Json.Reader
import Switchyard.Proofs.Text.Ascii

/-!
# Reading back a JSON text

A string is read back from its escaped text, an integer of a word from its digits, and an object of
such members from its own text.  A reader is described by the octets that it takes and those that it
leaves, whatever the place where they stand.  Of the octets with a meaning of their own 34 is the
quote, 92 the backslash, 44 the comma, 58 the colon, 45 the minus, and 123 and 125 are the braces.
-/

set_option autoImplicit false

namespace Switchyard.Json

open Text.Utf8 (encode encode_append)

variable {α β : Type} {before middle after rest : Octets}

/-- From some octets a reader yields a value and leaves others, wherever they stand. -/
def Reads (reader : Reader α) (before : Octets) (value : α) (after : Octets) : Prop :=
  ∀ place, ∃ later, reader ⟨before, place⟩ = .ok (value, ⟨after, later⟩)

namespace Reads

theorem pure (value : α) (octets : Octets) : Reads (Pure.pure value) octets value octets :=
  fun place => ⟨place, rfl⟩

theorem bind {reader : Reader α} {next : α → Reader β} {first : α} {second : β}
    (reads : Reads reader before first middle)
    (continues : Reads (next first) middle second after) :
    Reads (reader >>= next) before second after := by
  intro place
  obtain ⟨between, read⟩ := reads place
  obtain ⟨later, continued⟩ := continues between
  refine ⟨later, ?_⟩
  simp only [Bind.bind, StateT.bind, read, Except.bind, continued]

theorem peek (octets : Octets) : Reads Reader.peek octets octets.head? octets :=
  fun place => ⟨place, rfl⟩

theorem skip (octet : UInt8) (rest : Octets) : Reads Reader.skip (octet :: rest) () rest :=
  fun _ => ⟨_, rfl⟩

theorem next (octet : UInt8) (rest : Octets) :
    Reads Reader.next (octet :: rest) (some octet) rest :=
  fun _ => ⟨_, rfl⟩

theorem token {octet : UInt8} (solid : Cursor.isBlank octet = false) (rest : Octets) :
    Reads Reader.token (octet :: rest) (some octet) (octet :: rest) := by
  intro place
  refine ⟨place, ?_⟩
  simp [Reader.token, Cursor.skipBlanks, Cursor.pastBlanks, solid]

end Reads

section Strings

/-- Inside a string, the octets written are read as those meant, whatever follows. -/
def Pushes (written meant : Octets) : Prop :=
  ∀ reversed place rest, ∃ later, stringFrom reversed .plain place (written ++ rest) =
    stringFrom (meant.reverse ++ reversed) .plain later rest

theorem Pushes.nil : Pushes [] [] :=
  fun _ place _ => ⟨place, rfl⟩

theorem Pushes.append {first second meant added : Octets} (pushes : Pushes first meant)
    (pushesOn : Pushes second added) : Pushes (first ++ second) (meant ++ added) := by
  intro reversed place rest
  obtain ⟨between, read⟩ := pushes reversed place (second ++ rest)
  obtain ⟨later, continued⟩ := pushesOn (meant.reverse ++ reversed) between rest
  refine ⟨later, ?_⟩
  rw [List.append_assoc, read, continued, List.reverse_append, List.append_assoc]

theorem pushes_octet {octet : UInt8} (notQuote : octet ≠ 34) (notEscape : octet ≠ 92)
    (notControl : ¬ octet < 32) : Pushes [octet] [octet] := by
  intro reversed place rest
  refine ⟨place.after octet, ?_⟩
  simp [stringFrom, notQuote, notEscape, notControl]

theorem pushes_octets {octets : Octets}
    (plain : ∀ octet ∈ octets, octet ≠ 34 ∧ octet ≠ 92 ∧ ¬ octet < 32) :
    Pushes octets octets := by
  induction octets with
  | nil => exact .nil
  | cons octet octets inductionHypothesis =>
      rw [List.forall_mem_cons] at plain
      obtain ⟨⟨notQuote, notEscape, notControl⟩, others⟩ := plain
      exact (pushes_octet notQuote notEscape notControl).append (inductionHypothesis others)

theorem hexValue?_hexDigit : ∀ value < 16,
    Octets.hexValue? (UInt8.ofNat (Octets.hexDigit value).toNat) = some value ∧
      (Octets.hexDigit value).toNat < 128 := by
  decide

theorem unitOf_control {value : Nat} (control : value < 32) :
    unitOf (some value) none = .char (Char.ofNat value) := by
  simp only [unitOf]
  rw [if_neg (by omega), if_neg (by omega)]

theorem stringFrom_lastDigits {upper lower : UInt8} {high low : Nat}
    (hexHigh : Octets.hexValue? upper = some high) (hexLow : Octets.hexValue? lower = some low)
    (control : high * 16 + low < 32) (reversed : Octets) (place : Place) (rest : Octets) :
    stringFrom reversed (.digits 2 (some 0) none) place (upper :: lower :: rest) =
      stringFrom (pushChar (Char.ofNat (high * 16 + low)) reversed) .plain
        ((place.after upper).after lower) rest := by
  simp [stringFrom, withDigit, hexHigh, hexLow, unitOf_control control]

/-- Four digits stand for the character whose code they are. -/
theorem pushes_digits {c : Char} (control : c.toNat < 32) :
    Pushes (['\\', 'u', '0', '0', Octets.hexDigit (c.toNat / 16),
      Octets.hexDigit (c.toNat % 16)].flatMap String.utf8EncodeChar)
      (String.utf8EncodeChar c) := by
  intro reversed place rest
  obtain ⟨hexHigh, highAscii⟩ := hexValue?_hexDigit (c.toNat / 16) (by omega)
  obtain ⟨hexLow, lowAscii⟩ := hexValue?_hexDigit (c.toNat % 16) (by omega)
  have whole : c.toNat / 16 * 16 + c.toNat % 16 = c.toNat := Nat.div_add_mod' ..
  have read := stringFrom_lastDigits hexHigh hexLow (by omega) reversed
    ((((place.after 92).after 117).after 48).after 48) rest
  rw [whole, Char.ofNat_toNat] at read
  refine ⟨_, Eq.trans ?_ read⟩
  simp only [List.flatMap_cons, List.flatMap_nil, Text.utf8EncodeChar_of_ascii highAscii,
    Text.utf8EncodeChar_of_ascii lowAscii]
  rfl

/-- The octets of a character that is written as itself have no other meaning. -/
theorem plain_utf8EncodeChar {c : Char} (notQuote : c ≠ '"') (notEscape : c ≠ '\\')
    (above : ¬ c.toNat < 32) :
    ∀ octet ∈ String.utf8EncodeChar c, octet ≠ 34 ∧ octet ≠ 92 ∧ ¬ octet < 32 := by
  by_cases ascii : c.toNat < 128
  · have code : (UInt8.ofNat c.toNat).toNat = c.toNat := Text.Utf8.toNat_ofNat _ (by omega)
    rw [Text.utf8EncodeChar_of_ascii ascii, List.forall_mem_singleton]
    refine ⟨fun quote => notQuote ?_, fun escape => notEscape ?_, fun low => above ?_⟩
    · exact Text.ascii_inj ascii (by decide) quote
    · exact Text.ascii_inj ascii (by decide) escape
    · rw [← code]
      exact UInt8.lt_iff_toNat_lt.mp low
  · intro octet inside
    have high := Text.high_utf8EncodeChar (Nat.le_of_not_lt ascii) octet inside
    refine ⟨?_, ?_, ?_⟩
    · rintro rfl
      exact absurd high (by decide)
    · rintro rfl
      exact absurd high (by decide)
    · rw [UInt8.lt_iff_toNat_lt]
      exact Nat.not_lt.mpr (Nat.le_trans (by decide) high)

theorem pushes_escapedChar (c : Char) :
    Pushes ((escapedChar c).flatMap String.utf8EncodeChar) (String.utf8EncodeChar c) := by
  by_cases short : c ∈ ['"', '\\', '\x08', '\x0c', '\n', '\r', '\t']
  · simp only [List.mem_cons, List.not_mem_nil, or_false] at short
    rcases short with rfl | rfl | rfl | rfl | rfl | rfl | rfl <;> exact fun _ _ _ => ⟨_, rfl⟩
  · simp only [List.mem_cons, List.not_mem_nil, or_false, not_or] at short
    obtain ⟨notQuote, notEscape, others⟩ := short
    simp only [escapedChar, notQuote, notEscape, others, if_false]
    split
    case isTrue control => exact pushes_digits control
    case isFalse above =>
        rw [List.flatMap_singleton]
        exact pushes_octets (plain_utf8EncodeChar notQuote notEscape above)

theorem pushes_escaped (chars : List Char) :
    Pushes ((chars.flatMap escapedChar).flatMap String.utf8EncodeChar)
      (chars.flatMap String.utf8EncodeChar) := by
  induction chars with
  | nil => exact .nil
  | cons c chars inductionHypothesis =>
      rw [List.flatMap_cons, List.flatMap_append, List.flatMap_cons]
      exact (pushes_escapedChar c).append inductionHypothesis

theorem encode_escaped (text : String) : encode (escaped text) =
    34 :: ((text.toList.flatMap escapedChar).flatMap String.utf8EncodeChar ++ [34]) := by
  simp only [escaped, encode, String.toList_ofList, List.flatMap_append, List.flatMap_cons,
    List.cons_append]
  rfl

/-- A string is read back from what follows its opening quote. -/
theorem Reads.string (text : String) (rest : Octets) :
    Reads Reader.string ((text.toList.flatMap escapedChar).flatMap String.utf8EncodeChar ++
      34 :: rest) text rest := by
  intro place
  obtain ⟨last, read⟩ := pushes_escaped text.toList [] place (34 :: rest)
  refine ⟨last.after 34, ?_⟩
  rw [Reader.string, read]
  have meant : text.toList.flatMap String.utf8EncodeChar = encode text := rfl
  simp only [stringFrom, BEq.rfl, if_true, List.append_nil, List.reverse_reverse, textOf, meant,
    Text.Utf8.decodeText_encode]
  rfl

end Strings

section Numerals

/-- What may follow a numeral: no digit, no point and no exponent. -/
def Ends (rest : Octets) : Prop :=
  ∀ octet ∈ rest.head?, Text.isDigitOctet octet = false ∧ octet ≠ 46 ∧ octet ≠ 101 ∧ octet ≠ 69

theorem octet_of_isDigit {c : Char} (digit : c.isDigit = true) :
    c.toNat < 128 ∧ Text.isDigitOctet (UInt8.ofNat c.toNat) = true ∧
      digitValue (UInt8.ofNat c.toNat) = c.toNat - '0'.toNat := by
  have bounds : 48 ≤ c.toNat ∧ c.toNat ≤ 57 := by
    simpa [Char.isDigit, UInt32.le_iff_toNat_le] using digit
  have code : (UInt8.ofNat c.toNat).toNat = c.toNat := Text.Utf8.toNat_ofNat _ (by omega)
  refine ⟨by omega, ?_, ?_⟩
  · simpa [Text.isDigitOctet, UInt8.le_iff_toNat_le, code] using bounds
  · rw [digitValue, code]
    rfl

theorem le_ofDigitChars (digits : List Char) (number : Nat) :
    number ≤ Nat.ofDigitChars 10 digits number := by
  induction digits generalizing number with
  | nil => exact Nat.le_refl number
  | cons digit digits inductionHypothesis =>
      rw [Nat.ofDigitChars_cons]
      exact Nat.le_trans (by omega) (inductionHypothesis _)

theorem appendDigits_eq {digits : List Char} (every : ∀ digit ∈ digits, digit.isDigit = true)
    {limit number : Nat} (fits : Nat.ofDigitChars 10 digits number ≤ limit) (taken : Nat) :
    appendDigits limit number taken (digits.flatMap String.utf8EncodeChar) =
      (Nat.ofDigitChars 10 digits number,
        taken + (digits.flatMap String.utf8EncodeChar).length) := by
  induction digits generalizing number taken with
  | nil => rfl
  | cons digit digits inductionHypothesis =>
      rw [List.forall_mem_cons] at every
      obtain ⟨ascii, -, value⟩ := octet_of_isDigit every.1
      rw [Nat.ofDigitChars_cons, Nat.mul_comm] at fits
      have within := Nat.le_trans (le_ofDigitChars digits _) fits
      rw [List.flatMap_cons, Text.utf8EncodeChar_of_ascii ascii, List.singleton_append,
        appendDigits, value, if_neg (Nat.not_lt.mpr within), inductionHypothesis every.2 fits,
        Nat.ofDigitChars_cons, Nat.mul_comm, List.length_cons, Nat.add_assoc, Nat.add_comm 1]

theorem takeWhile_digits {digits : List Char} (every : ∀ digit ∈ digits, digit.isDigit = true)
    (ends : Ends rest) :
    (digits.flatMap String.utf8EncodeChar ++ rest).takeWhile Text.isDigitOctet =
      digits.flatMap String.utf8EncodeChar := by
  have octets : ∀ octet ∈ digits.flatMap String.utf8EncodeChar,
      Text.isDigitOctet octet = true := by
    simp only [List.mem_flatMap]
    rintro octet ⟨digit, inside, spelled⟩
    obtain ⟨ascii, isDigit, -⟩ := octet_of_isDigit (every digit inside)
    rw [Text.utf8EncodeChar_of_ascii ascii, List.mem_singleton] at spelled
    rwa [spelled]
  rw [List.takeWhile_append_of_pos octets]
  cases rest with
  | nil => simp
  | cons octet rest =>
      rw [List.takeWhile_cons_of_neg (by simp [(ends octet rfl).1]), List.append_nil]

theorem Reads.digits {digits : List Char} (every : ∀ digit ∈ digits, digit.isDigit = true)
    (ends : Ends rest) :
    Reads Reader.digits (digits.flatMap String.utf8EncodeChar ++ rest)
      (digits.flatMap String.utf8EncodeChar) rest := by
  intro place
  refine ⟨⟨place.line, place.column + (digits.flatMap String.utf8EncodeChar).length⟩, ?_⟩
  simp only [Reader.digits, takeWhile_digits every ends, List.drop_left]

/-- A number other than zero does not begin with a zero. -/
theorem toDigits_eq_cons {number : Nat} (positive : 0 < number) :
    ∃ first others, Nat.toDigits 10 number = first :: others ∧ first ≠ '0' := by
  induction number using Nat.strongRecOn with
  | ind number inductionHypothesis =>
      rw [Nat.toDigits_eq_if (by decide)]
      split
      case isTrue small =>
          refine ⟨number.digitChar, [], rfl, ?_⟩
          interval_cases number <;> decide
      case isFalse large =>
          obtain ⟨first, others, digits, notZero⟩ :=
            inductionHypothesis (number / 10) (by omega) (by omega)
          exact ⟨first, others ++ [(number % 10).digitChar], by rw [digits]; rfl, notZero⟩

theorem Reads.numeralTail {negative : Bool} {significand : Nat} {number : Num}
    (ends : Ends rest) (integer : Reads (Reader.integerOf negative significand) rest number rest) :
    Reads (Reader.numeralTail negative significand 0) rest number rest := by
  have other : rest.head? ≠ some 46 ∧ rest.head? ≠ some 101 ∧ rest.head? ≠ some 69 :=
    ⟨fun point => (ends 46 point).2.1 rfl, fun small => (ends 101 small).2.2.1 rfl,
      fun large => (ends 69 large).2.2.2 rfl⟩
  refine (Reads.peek rest).bind ?_
  simp only [beq_iff_eq, Bool.or_eq_true, other, or_self, if_true, if_false]
  exact integer

theorem Reads.numeral {negative : Bool} {significand : Nat} {number : Num}
    (fits : significand ≤ wordLimit) (ends : Ends rest)
    (integer : Reads (Reader.integerOf negative significand) rest number rest) :
    Reads (Reader.numeral negative)
      ((Nat.toDigits 10 significand).flatMap String.utf8EncodeChar ++ rest) number rest := by
  rcases Nat.eq_zero_or_pos significand with rfl | positive
  · refine (Reads.next 48 rest).bind ((Reads.peek rest).bind ?_)
    cases rest with
    | nil => exact numeralTail ends integer
    | cons octet rest =>
        simp only [List.head?_cons, (ends octet rfl).1]
        exact numeralTail ends integer
  · obtain ⟨first, others, spelled, notZero⟩ := toDigits_eq_cons positive
    have every : ∀ digit ∈ first :: others, digit.isDigit = true := fun digit inside =>
      Nat.isDigit_of_mem_toDigits (b := 10) (by decide) (Nat.le_refl 10) (spelled ▸ inside)
    rw [List.forall_mem_cons] at every
    obtain ⟨ascii, isDigit, value⟩ := octet_of_isDigit every.1
    have notZeroOctet : UInt8.ofNat first.toNat ≠ 48 := fun zero =>
      notZero (Text.ascii_inj ascii (by decide) zero)
    have whole : Nat.ofDigitChars 10 others (digitValue (UInt8.ofNat first.toNat)) =
        significand := by
      rw [value, ← Nat.zero_add (first.toNat - _), ← Nat.mul_zero 10, ← Nat.ofDigitChars_cons,
        ← spelled, Nat.ofDigitChars_ten_toDigits]
    have within : Nat.ofDigitChars 10 others (digitValue (UInt8.ofNat first.toNat)) ≤ wordLimit :=
      whole ▸ fits
    have taken := appendDigits_eq every.2 within 0
    rw [spelled, List.flatMap_cons, Text.utf8EncodeChar_of_ascii ascii, List.append_assoc,
      List.singleton_append]
    refine (Reads.next _ _).bind ?_
    simp only [beq_iff_eq, notZeroOctet, isDigit, if_true, if_false]
    refine (Reads.digits every.2 ends).bind ?_
    simp only [taken, whole, Nat.zero_add, Nat.sub_self]
    exact numeralTail ends integer

theorem digits_eq_cons (number : Nat) : ∃ first others,
    (Nat.toDigits 10 number).flatMap String.utf8EncodeChar = first :: others ∧
      Text.isDigitOctet first = true := by
  obtain ⟨first, others, spelled⟩ :=
    List.exists_cons_of_ne_nil (Nat.toDigits_ne_nil : Nat.toDigits 10 number ≠ [])
  have digit : first.isDigit = true := Nat.isDigit_of_mem_toDigits (b := 10) (by decide)
    (Nat.le_refl 10) (spelled ▸ List.mem_cons_self)
  obtain ⟨ascii, isDigit, -⟩ := octet_of_isDigit digit
  refine ⟨_, others.flatMap String.utf8EncodeChar, ?_, isDigit⟩
  rw [spelled, List.flatMap_cons, Text.utf8EncodeChar_of_ascii ascii, List.singleton_append]

theorem encode_toString_ofNat (number : Nat) : encode (toString (Int.ofNat number)) =
    (Nat.toDigits 10 number).flatMap String.utf8EncodeChar := by
  change encode number.repr = _
  rw [Nat.repr_eq_ofList_toDigits, encode, String.toList_ofList]

theorem encode_toString_negSucc (number : Nat) : encode (toString (Int.negSucc number)) =
    45 :: (Nat.toDigits 10 (number + 1)).flatMap String.utf8EncodeChar := by
  change encode ("-" ++ (number + 1).repr) = _
  simp only [Nat.repr_eq_ofList_toDigits, encode, String.toList_append, List.flatMap_append,
    String.toList_ofList]
  rfl

theorem encode_toString_eq_cons (value : Int) : ∃ first others,
    encode (toString value) = first :: others ∧ Reader.beginsNumeral first = true := by
  cases value with
  | ofNat number =>
      obtain ⟨first, others, spelled, isDigit⟩ := digits_eq_cons number
      exact ⟨first, others, (encode_toString_ofNat number).trans spelled,
        by simp [Reader.beginsNumeral, isDigit]⟩
  | negSucc number => exact ⟨45, _, encode_toString_negSucc number, rfl⟩

theorem Reads.integerOf_negative {number : Nat} (fits : number + 1 ≤ 2 ^ 63) (rest : Octets) :
    Reads (Reader.integerOf true (number + 1)) rest (.int (Int.negSucc number)) rest := by
  have small : ¬ (number + 1 = 0 ∨ Nat.pow 2 63 < number + 1) := by
    rintro (zero | large)
    · exact Nat.succ_ne_zero number zero
    · exact absurd fits (Nat.not_le.mpr large)
  simp only [Reader.integerOf, Bool.not_true, Bool.false_eq_true, if_false, Bool.or_eq_true,
    decide_eq_true_eq, small]
  exact .pure _ rest

/-- An integer that fits into a word is read back from its digits. -/
theorem Reads.signedNumeral {value : Int} (least : -(2 ^ 63) ≤ value) (most : value < 2 ^ 64)
    (ends : Ends rest) :
    Reads Reader.signedNumeral (encode (toString value) ++ rest) (.int value) rest := by
  cases value with
  | ofNat number =>
      obtain ⟨first, others, spelled, isDigit⟩ := digits_eq_cons number
      have unsigned : first ≠ 45 := by
        rintro rfl
        exact absurd isDigit (by decide)
      have fits : number ≤ wordLimit := by
        have bound : number < 2 ^ 64 := Int.ofNat_lt.mp most
        exact Nat.le_sub_one_of_lt bound
      have read : Reads (Reader.numeral false) (first :: others ++ rest) (.int number) rest := by
        rw [← spelled]
        exact .numeral fits ends (.pure _ rest)
      rw [encode_toString_ofNat, spelled]
      refine (Reads.peek _).bind ?_
      simp only [List.cons_append, List.head?_cons, beq_iff_eq, Option.some.injEq, unsigned,
        if_false]
      exact read
  | negSucc number =>
      have fits : number + 1 ≤ 2 ^ 63 := by omega
      rw [encode_toString_negSucc]
      refine (Reads.peek _).bind ((Reads.skip 45 _).bind ?_)
      exact .numeral (Nat.le_trans fits (by decide)) ends (.integerOf_negative fits rest)

end Numerals

section Documents

theorem Reads.finish : Reads Reader.finish [] () [] :=
  fun place => ⟨place, rfl⟩

theorem Reads.steps (octets : Octets) :
    Reads Reader.steps octets (2 * octets.length + 2) octets :=
  fun place => ⟨place, rfl⟩

theorem document_of_reads {reader : Reader α} {octets : Octets} {value : α}
    (reads : Reads reader octets value []) : document reader octets = .ok value := by
  have whole : Reads (do let read ← reader; Reader.finish; return read) octets value [] :=
    reads.bind (Reads.finish.bind (.pure value []))
  obtain ⟨later, read⟩ := whole .first
  exact congrArg (Except.map Prod.fst) read

end Documents

section Objects

/-- A text, or an integer that fits into a word. -/
inductive Plain : Value → Prop where
  | text (content : String) : Plain (.text content)
  | int {value : Int} (least : -(2 ^ 63) ≤ value) (most : value < 2 ^ 64) : Plain (.int value)

/-- A member of an object as it is written. -/
def memberText (member : String × Value) : Octets :=
  encode (escaped member.1) ++ 58 :: encode member.2.render

theorem scalar_of_beginsNumeral {octet : UInt8} (begins : Reader.beginsNumeral octet = true) :
    Cursor.isBlank octet = false ∧ Reader.named? octet = none := by
  have other : octet ∉ [32, 10, 9, 13, 110, 116, 102] := by
    simp only [List.mem_cons, List.not_mem_nil, or_false]
    rintro (rfl | rfl | rfl | rfl | rfl | rfl | rfl) <;> exact absurd begins (by decide)
  simp only [List.mem_cons, List.not_mem_nil, or_false, not_or] at other
  simp [Cursor.isBlank, Reader.named?, other]

theorem Plain.reads {value : Value} (plain : Plain value) (ends : Ends rest) (depth fuel : Nat) :
    Reads (Reader.valueWithin depth (fuel + 1)) (encode value.render ++ rest) value rest := by
  cases plain with
  | text content =>
      change Reads _ (encode (escaped content) ++ rest) _ _
      rw [encode_escaped, List.cons_append, List.append_assoc, List.singleton_append]
      refine (Reads.token rfl _).bind ((Reads.skip 34 _).bind ?_)
      exact (Reads.string content rest).bind (.pure _ rest)
  | @int value least most =>
      obtain ⟨first, others, spelled, begins⟩ := encode_toString_eq_cons value
      have read : Reads Reader.signedNumeral (first :: others ++ rest) (.int value) rest := by
        rw [← spelled]
        exact .signedNumeral least most ends
      obtain ⟨solid, unnamed⟩ := scalar_of_beginsNumeral begins
      change Reads _ (encode (toString value) ++ rest) _ _
      rw [spelled]
      refine (Reads.token solid _).bind ?_
      simp only [unnamed, begins, if_true]
      exact read.bind (.pure _ rest)

theorem Reads.colon (rest : Octets) : Reads Reader.colon (58 :: rest) () rest :=
  (Reads.token rfl _).bind (.skip 58 rest)

/-- A member is read once its opening quote is. -/
theorem Plain.reads_member {value : Value} (plain : Plain value) (ends : Ends rest)
    (name : String) {members read : List (String × Value)} (depth fuel : Nat)
    (continues : Reads (Reader.membersWithin depth false (insertMember name value members)
      (fuel + 1)) rest read after) :
    Reads (do
        let name ← Reader.string
        Reader.colon
        let value ← Reader.valueWithin depth (fuel + 1)
        Reader.membersWithin depth false (insertMember name value members) (fuel + 1))
      ((name.toList.flatMap escapedChar).flatMap String.utf8EncodeChar ++ 34 :: 58 ::
        (encode value.render ++ rest)) read after :=
  (Reads.string name _).bind ((Reads.colon _).bind ((plain.reads ends depth fuel).bind continues))

theorem Reads.memberAhead (first : Bool) (rest : Octets) :
    Reads (Reader.memberAhead first) ((if first then [] else [44]) ++ 34 :: rest) true rest := by
  cases first with
  | true => exact (Reads.token rfl _).bind ((Reads.skip 34 rest).bind (.pure true rest))
  | false =>
      exact (Reads.token rfl _).bind ((Reads.skip 44 _).bind ((Reads.token rfl _).bind
        ((Reads.skip 34 rest).bind (.pure true rest))))

theorem Reads.memberAhead_end (first : Bool) (rest : Octets) :
    Reads (Reader.memberAhead first) (125 :: rest) false (125 :: rest) :=
  (Reads.token rfl _).bind (.pure false _)

/-- The members of an object as they are written, each after a comma but the first one. -/
def membersText (first : Bool) : List (String × Value) → Octets
  | [] => []
  | member :: members =>
      (if first then [] else [44]) ++ (memberText member ++ membersText false members)

theorem ends_membersText (members : List (String × Value)) (rest : Octets) :
    Ends (membersText false members ++ 125 :: rest) := by
  cases members <;> rintro octet ⟨⟩ <;> decide

theorem Reads.membersWithin {members kept : List (String × Value)}
    (plain : ∀ member ∈ members, Plain member.2) (first : Bool) (depth : Nat) {fuel : Nat}
    (enough : members.length < fuel) (rest : Octets) :
    Reads (Reader.membersWithin depth first kept fuel)
      (membersText first members ++ 125 :: rest)
      (members.foldl (fun kept member => insertMember member.1 member.2 kept) kept)
      (125 :: rest) := by
  -- Every member takes one step, and so does the brace behind them.
  induction members generalizing first kept fuel with
  | nil =>
      obtain ⟨fuel, rfl⟩ := Nat.exists_eq_add_one_of_ne_zero (Nat.ne_of_gt enough)
      refine (Reads.memberAhead_end first rest).bind ?_
      exact .pure kept _
  | cons member members inductionHypothesis =>
      obtain ⟨name, value⟩ := member
      rw [List.forall_mem_cons] at plain
      obtain ⟨fuel, rfl⟩ := Nat.exists_eq_add_of_lt enough
      have others : Reads (Reader.membersWithin depth false (insertMember name value kept)
          (members.length + fuel + 1)) (membersText false members ++ 125 :: rest) _ _ :=
        inductionHypothesis plain.2 false (by omega)
      have read := plain.1.reads_member (ends_membersText members rest) name depth _ others
      rw [List.length_cons, Nat.add_right_comm members.length]
      simp only [membersText, memberText, encode_escaped, List.append_assoc, List.cons_append]
      refine (Reads.memberAhead first _).bind ?_
      exact read

theorem length_le_membersText (first : Bool) (members : List (String × Value)) :
    members.length ≤ (membersText first members).length := by
  induction members generalizing first with
  | nil => exact Nat.zero_le _
  | cons member members inductionHypothesis =>
      have others := inductionHypothesis false
      simp only [membersText, memberText, List.length_append, List.length_cons]
      omega

theorem encode_member (member : String × Value) :
    encode (escaped member.1 ++ ":" ++ member.2.render) = memberText member := by
  have colon : encode ":" = [58] := rfl
  rw [encode_append, encode_append, colon, memberText, List.append_assoc, List.singleton_append]

theorem renderMembers_cons (member : String × Value) (members : List (String × Value)) :
    renderMembers (member :: members) =
      (escaped member.1 ++ ":" ++ member.2.render) :: renderMembers members := by
  rw [renderMembers]

theorem encode_intercalate (members : List (String × Value)) :
    encode (String.intercalate "," (renderMembers members)) = membersText true members := by
  induction members with
  | nil => rfl
  | cons member members inductionHypothesis =>
      cases members with
      | nil =>
          rw [renderMembers_cons, renderMembers, String.intercalate_singleton, encode_member]
          simp only [membersText, if_true, List.nil_append, List.append_nil]
      | cons next members =>
          have comma : encode "," = [44] := rfl
          rw [renderMembers_cons, renderMembers_cons, String.intercalate_cons_cons,
            ← renderMembers_cons, encode_append, encode_append, encode_member, comma,
            inductionHypothesis]
          simp only [membersText, if_true, Bool.false_eq_true, if_false, List.nil_append,
            List.append_assoc]

/-- An object of texts and integers is read back from its own text; of two members of one name the
last one counts. -/
theorem read_render {members : List (String × Value)}
    (plain : ∀ member ∈ members, Plain member.2) :
    Value.read (encode (Value.object members).render) = .ok (.ofMembers members) := by
  have written : encode (Value.object members).render =
      123 :: (membersText true members ++ [125]) := by
    simp only [Value.render, encode_append, encode_intercalate]
    rfl
  have enough : members.length < 2 * (123 :: (membersText true members ++ [125])).length + 1 := by
    have shorter := length_le_membersText true members
    rw [List.length_cons, List.length_append]
    omega
  rw [written]
  apply document_of_reads
  refine (Reads.steps _).bind ((Reads.token rfl _).bind ?_)
  refine (Reads.skip 123 _).bind ?_
  exact (Reads.membersWithin plain true 127 enough []).bind
    ((Reads.skip 125 []).bind (.pure _ []))

end Objects

end Switchyard.Json
