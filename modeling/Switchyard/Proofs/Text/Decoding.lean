import Switchyard.Proofs.Text.Utf8

/-!
# Octets that are read as UTF-8

What is read as a character is what that character is written as: the first octet says how many
follow, and the ranges of these exclude what is too long, too large or half of a pair.  So only the
octets of a text are read as that text.
-/

set_option autoImplicit false

namespace Switchyard.Text.Utf8

variable {octet : UInt8}

theorem toNat_ofNat_char {code : Nat} (valid : code.isValidChar) :
    (Char.ofNat code).toNat = code := by
  rw [Char.ofNat, dif_pos valid]
  rfl

/-- Octets that end a character, of which some octets have been read. -/
inductive Completes : Pending → Octets → Char → Prop where
  | last {pending : Pending} {octet : UInt8} {c : Char}
      (taken : pending.take octet = .complete c) : Completes pending [octet] c
  | next {pending following : Pending} {octet : UInt8} {octets : Octets} {c : Char}
      (taken : pending.take octet = .more following) (rest : Completes following octets c) :
      Completes pending (octet :: octets) c

theorem take_eq_complete {pending : Pending} {c : Char} (taken : pending.take octet = .complete c) :
    (pending.low.toNat ≤ octet.toNat ∧ octet.toNat ≤ pending.high.toNat) ∧ pending.owed ≤ 1 ∧
      c = Char.ofNat (pending.code * 64 + (octet.toNat - 0x80)) := by
  simp only [Pending.take, Bool.and_eq_true, decide_eq_true_eq, UInt8.le_iff_toNat_le] at taken
  split_ifs at taken with within last
  exact ⟨within, last, (Progress.complete.inj taken).symm⟩

theorem take_eq_more {pending following : Pending} (taken : pending.take octet = .more following) :
    (pending.low.toNat ≤ octet.toNat ∧ octet.toNat ≤ pending.high.toNat) ∧ 1 < pending.owed ∧
      following = ⟨pending.code * 64 + (octet.toNat - 0x80), pending.seen + 1, pending.owed - 1,
        0x80, 0xBF⟩ := by
  simp only [Pending.take, Bool.and_eq_true, decide_eq_true_eq, UInt8.le_iff_toNat_le] at taken
  split_ifs at taken with within last
  exact ⟨within, Nat.lt_of_not_le last, (Progress.more.inj taken).symm⟩

theorem opening_eq_complete {c : Char} (opened : opening octet = .complete c) :
    octet.toNat ≤ 0x7F ∧ c = Char.ofNat octet.toNat := by
  simp only [opening] at opened
  split_ifs at opened with one
  exact ⟨UInt8.le_iff_toNat_le.mp one, (Progress.complete.inj opened).symm⟩

/-- What the first octet of a longer character says of the ones behind it. -/
inductive Opens (octet : UInt8) (pending : Pending) : Prop where
  | two (low : 0xC2 ≤ octet.toNat) (high : octet.toNat ≤ 0xDF)
      (code : pending.code = octet.toNat - 0xC0) (owed : pending.owed = 1)
      (least : 0x80 ≤ pending.low.toNat) (greatest : pending.high.toNat ≤ 0xBF)
  | three (low : 0xE0 ≤ octet.toNat) (high : octet.toNat ≤ 0xEF)
      (code : pending.code = octet.toNat - 0xE0) (owed : pending.owed = 2)
      (least : 0x80 ≤ pending.low.toNat) (greatest : pending.high.toNat ≤ 0xBF)
      (shortest : octet.toNat = 0xE0 → 0xA0 ≤ pending.low.toNat)
      (scalar : octet.toNat = 0xED → pending.high.toNat ≤ 0x9F)
  | four (low : 0xF0 ≤ octet.toNat) (high : octet.toNat ≤ 0xF4)
      (code : pending.code = octet.toNat - 0xF0) (owed : pending.owed = 3)
      (least : 0x80 ≤ pending.low.toNat) (greatest : pending.high.toNat ≤ 0xBF)
      (shortest : octet.toNat = 0xF0 → 0x90 ≤ pending.low.toNat)
      (scalar : octet.toNat = 0xF4 → pending.high.toNat ≤ 0x8F)

theorem opens_of_opening {pending : Pending} (opened : opening octet = .more pending) :
    Opens octet pending := by
  simp only [opening, Bool.and_eq_true, decide_eq_true_eq, UInt8.le_iff_toNat_le, beq_iff_eq,
    ← UInt8.toNat_inj, UInt8.reduceToNat] at opened
  split_ifs at opened with one two first surrogate three fourth behind last <;>
    obtain rfl := (Progress.more.inj opened).symm
  -- `E0` and `ED` are told apart from the other first octets of three, `F0` and `F4` of four.
  · exact .two two.1 two.2 rfl rfl (by simp) (by simp)
  · refine .three ?_ ?_ ?_ rfl ?_ ?_ ?_ ?_ <;> simp [first]
  · refine .three ?_ ?_ ?_ rfl ?_ ?_ ?_ ?_ <;> simp [surrogate]
  · refine .three (by omega) three.2 rfl rfl (by simp) (by simp) ?_ ?_ <;> simp [first, surrogate]
  · refine .four ?_ ?_ ?_ rfl ?_ ?_ ?_ ?_ <;> simp [fourth]
  · refine .four (by omega) (by omega) rfl rfl (by simp) (by simp) ?_ ?_ <;> simp <;> omega
  · refine .four ?_ ?_ ?_ rfl ?_ ?_ ?_ ?_ <;> simp [last]

namespace Completes

variable {pending : Pending} {octets : Octets} {c : Char}

theorem of_owed_one (completes : Completes pending octets c) (last : pending.owed = 1) :
    ∃ octet : UInt8, octets = [octet] ∧
      (pending.low.toNat ≤ octet.toNat ∧ octet.toNat ≤ pending.high.toNat) ∧
      c = Char.ofNat (pending.code * 64 + (octet.toNat - 0x80)) := by
  cases completes with
  | last taken =>
      obtain ⟨within, -, made⟩ := take_eq_complete taken
      exact ⟨_, rfl, within, made⟩
  | next taken =>
      obtain ⟨-, others, -⟩ := take_eq_more taken
      omega

theorem of_owed_more (completes : Completes pending octets c) (others : 1 < pending.owed) :
    ∃ (octet : UInt8) (rest : Octets), octets = octet :: rest ∧
      (pending.low.toNat ≤ octet.toNat ∧ octet.toNat ≤ pending.high.toNat) ∧
      Completes ⟨pending.code * 64 + (octet.toNat - 0x80), pending.seen + 1, pending.owed - 1,
        0x80, 0xBF⟩ rest c := by
  cases completes with
  | last taken =>
      obtain ⟨-, last, -⟩ := take_eq_complete taken
      omega
  | next taken rest =>
      obtain ⟨within, -, rfl⟩ := take_eq_more taken
      exact ⟨_, _, rfl, within, rest⟩

end Completes

theorem ofNat_eq (octet : UInt8) {value : Nat} (same : value = octet.toNat) :
    UInt8.ofNat value = octet := by
  rw [same, UInt8.ofNat_toNat]

/-- The octets that are read as one character are those that it is written as. -/
theorem utf8EncodeChar_of_completes {pending : Pending} {octets : Octets} {c : Char}
    (opens : Opens octet pending) (completes : Completes pending octets c) :
    String.utf8EncodeChar c = octet :: octets := by
  cases opens with
  | two low high code owed least greatest =>
      obtain ⟨second, rfl, within, made⟩ := completes.of_owed_one owed
      have value : c.val.toNat = pending.code * 64 + (second.toNat - 0x80) := by
        rw [made]
        exact toNat_ofNat_char (by unfold Nat.isValidChar; omega)
      simp only [String.utf8EncodeChar, value]
      rw [if_neg (by omega), if_pos (by omega), ofNat_eq octet (by omega),
        ofNat_eq second (by omega)]
  | three low high code owed least greatest shortest scalar =>
      obtain ⟨second, rest, rfl, within, completes⟩ := completes.of_owed_more (by omega)
      obtain ⟨third, rfl, alsoWithin, made⟩ := completes.of_owed_one (by simp [owed])
      simp only [UInt8.reduceToNat] at alsoWithin
      have value : c.val.toNat =
          (pending.code * 64 + (second.toNat - 0x80)) * 64 + (third.toNat - 0x80) := by
        rw [made]
        exact toNat_ofNat_char (by unfold Nat.isValidChar; dsimp only; omega)
      simp only [String.utf8EncodeChar, value]
      rw [if_neg (by omega), if_neg (by omega), if_pos (by omega),
        ofNat_eq octet (by omega), ofNat_eq second (by omega), ofNat_eq third (by omega)]
  | four low high code owed least greatest shortest scalar =>
      obtain ⟨second, rest, rfl, within, completes⟩ := completes.of_owed_more (by omega)
      obtain ⟨third, rest, rfl, alsoWithin, completes⟩ := completes.of_owed_more (by simp [owed])
      obtain ⟨fourth, rfl, lastWithin, made⟩ := completes.of_owed_one (by simp [owed])
      simp only [UInt8.reduceToNat] at alsoWithin lastWithin
      have value : c.val.toNat =
          ((pending.code * 64 + (second.toNat - 0x80)) * 64 + (third.toNat - 0x80)) * 64 +
            (fourth.toNat - 0x80) := by
        rw [made]
        exact toNat_ofNat_char (by unfold Nat.isValidChar; dsimp only; omega)
      simp only [String.utf8EncodeChar, value]
      rw [if_neg (by omega), if_neg (by omega), if_neg (by omega),
        ofNat_eq octet (by omega), ofNat_eq second (by omega),
        ofNat_eq third (by omega), ofNat_eq fourth (by omega)]

theorem utf8EncodeChar_of_opening {c : Char} (ascii : octet.toNat ≤ 0x7F)
    (made : c = Char.ofNat octet.toNat) : String.utf8EncodeChar c = [octet] := by
  have value : c.val.toNat = octet.toNat := by
    rw [made]
    exact toNat_ofNat_char (by unfold Nat.isValidChar; omega)
  simp only [String.utf8EncodeChar, value]
  rw [if_pos (by omega), ofNat_eq octet rfl]

namespace Decoder

variable {decoder : Decoder} {offset : Nat} {octets : Octets} {pending : Pending}

theorem flaw_start (decoder : Decoder) (offset : Nat) (octet : UInt8)
    (flawed : decoder.flaw ≠ none) : (decoder.start offset octet).flaw ≠ none := by
  unfold start
  split
  · exact flawed
  · exact flawed
  · simp [spoil]

theorem flaw_feed (decoder : Decoder) (offset : Nat) (octet : UInt8)
    (flawed : decoder.flaw ≠ none) : (decoder.feed offset octet).flaw ≠ none := by
  unfold feed
  split
  · exact flaw_start decoder offset octet flawed
  · split
    · exact flawed
    · exact flawed
    · exact flaw_start _ offset octet (by simp [spoil])

/-- A flaw is never forgotten. -/
theorem flaw_run (octets : Octets) {decoder : Decoder} (offset : Nat)
    (flawed : decoder.flaw ≠ none) : (decoder.run offset octets).flaw ≠ none := by
  induction octets generalizing decoder offset with
  | nil =>
      unfold run close
      split
      · exact flawed
      · simp [spoil]
  | cons octet rest inductionHypothesis =>
      exact inductionHypothesis (offset + 1) (flaw_feed decoder offset octet flawed)

/-- Without a flaw, a character that has been begun is completed. -/
theorem exists_completes (awaits : decoder.pending = some pending)
    (flawless : (decoder.run offset octets).flaw = none) :
    ∃ following rest c next, octets = following ++ rest ∧ Completes pending following c ∧
      decoder.run offset octets = (decoder.push c).run next rest := by
  induction octets generalizing decoder offset pending with
  | nil => simp [run, close, awaits, spoil] at flawless
  | cons octet rest inductionHypothesis =>
      rw [run] at flawless ⊢
      cases taken : pending.take octet with
      | complete c =>
          have fed : decoder.feed offset octet = decoder.push c := by simp [feed, awaits, taken]
          rw [fed]
          exact ⟨[octet], rest, c, offset + 1, rfl, .last taken, rfl⟩
      | more following =>
          have fed : decoder.feed offset octet = { decoder with pending := some following } := by
            simp [feed, awaits, taken]
          rw [fed] at flawless ⊢
          obtain ⟨others, left, c, next, rfl, completes, read⟩ := inductionHypothesis rfl flawless
          exact ⟨octet :: others, left, c, next, rfl, .next taken completes, read⟩
      | refused =>
          refine absurd flawless (flaw_run rest (offset + 1) ?_)
          simp only [feed, awaits, taken]
          exact flaw_start _ offset octet (by simp [spoil])

/-- Without a flaw, octets are read as the characters that they spell. -/
theorem exists_chars (idle : decoder.pending = none)
    (flawless : (decoder.run offset octets).flaw = none) :
    ∃ chars : List Char, octets = chars.flatMap String.utf8EncodeChar ∧
      (decoder.run offset octets).reversed = chars.reverse ++ decoder.reversed := by
  -- The induction is on the number of octets, since a character takes one of them or more away.
  induction length : octets.length using Nat.strongRecOn generalizing octets decoder offset with
  | ind count inductionHypothesis =>
  cases octets with
  | nil => exact ⟨[], rfl, by simp [run, close, idle]⟩
  | cons octet rest =>
      rw [List.length_cons] at length
      cases opened : opening octet with
      | complete c =>
          rw [run_of_complete idle opened] at flawless ⊢
          obtain ⟨chars, rfl, reversed⟩ :=
            inductionHypothesis _ (by omega) (rfl : (decoder.push c).pending = none) flawless rfl
          obtain ⟨ascii, made⟩ := opening_eq_complete opened
          refine ⟨c :: chars, ?_, by rw [reversed]; simp [push]⟩
          rw [List.flatMap_cons, utf8EncodeChar_of_opening ascii made, List.singleton_append]
      | more pending =>
          rw [run_of_more idle opened] at flawless ⊢
          obtain ⟨following, left, c, next, rfl, completes, read⟩ := exists_completes rfl flawless
          rw [read] at flawless ⊢
          rw [List.length_append] at length
          obtain ⟨chars, rfl, reversed⟩ :=
            inductionHypothesis _ (by omega) (rfl : (Decoder.push _ c).pending = none) flawless rfl
          refine ⟨c :: chars, ?_, by rw [reversed]; simp [push]⟩
          rw [List.flatMap_cons, utf8EncodeChar_of_completes (opens_of_opening opened) completes,
            List.cons_append]
      | refused =>
          refine absurd flawless (flaw_run rest (offset + 1) ?_)
          simp [feed, start, idle, opened, spoil]

end Decoder

/-- Octets are read as a text exactly if they are the octets of that text. -/
theorem decodeText_eq_ok_iff {octets : Octets} {text : String} :
    decodeText octets = .ok text ↔ octets = encode text := by
  constructor
  · intro decoded
    simp only [decodeText, decode] at decoded
    split at decoded
    case h_1 => cases decoded
    case h_2 flawless =>
        obtain ⟨chars, rfl, reversed⟩ := Decoder.exists_chars rfl flawless
        rw [reversed] at decoded
        obtain rfl : String.ofList chars = text := by
          simpa [Except.map] using decoded
        simp [encode]
  · rintro rfl
    exact decodeText_encode text

end Switchyard.Text.Utf8
