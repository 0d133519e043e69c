import Mathlib.Tactic.Common
import Switchyard.Text.Utf8

/-!
# Reading what is written in UTF-8

The octets of a character are read as that character, whatever was read before them, and so a text
is read back from its octets.
-/

set_option autoImplicit false

namespace Switchyard.Text.Utf8

variable {octet : UInt8}

theorem opening_one (high : octet.toNat ≤ 0x7F) :
    opening octet = .complete (Char.ofNat octet.toNat) := by
  simp [opening, UInt8.le_iff_toNat_le, high]

theorem opening_two (low : 0xC2 ≤ octet.toNat) (high : octet.toNat ≤ 0xDF) :
    opening octet = .more ⟨octet.toNat - 0xC0, 1, 1, 0x80, 0xBF⟩ := by
  have above : ¬ octet.toNat ≤ 127 := by omega
  simp [opening, UInt8.le_iff_toNat_le, above, low, high]

/-- After `E0` and `ED` the second of three octets is restricted. -/
theorem opening_three (octet : UInt8) (second : Nat) (low : 0xE0 ≤ octet.toNat)
    (high : octet.toNat ≤ 0xEF) (following : 0x80 ≤ second ∧ second ≤ 0xBF)
    (shortest : octet.toNat = 0xE0 → 0xA0 ≤ second)
    (scalar : octet.toNat = 0xED → second ≤ 0x9F) :
    ∃ pending, opening octet = .more pending ∧ pending.code = octet.toNat - 0xE0 ∧
      pending.owed = 2 ∧ pending.low.toNat ≤ second ∧ second ≤ pending.high.toNat := by
  by_cases first : octet = 0xE0
  · subst first
    exact ⟨_, rfl, rfl, rfl, shortest rfl, following.2⟩
  · by_cases surrogate : octet = 0xED
    · subst surrogate
      exact ⟨_, rfl, rfl, rfl, following.1, scalar rfl⟩
    · have notFirst : octet.toNat ≠ 0xE0 := fun same => first (UInt8.toNat_inj.mp same)
      have above : ¬ octet.toNat ≤ 127 := by omega
      have beyond : ¬ octet.toNat ≤ 223 := by omega
      have behind : 225 ≤ octet.toNat := by omega
      refine ⟨⟨octet.toNat - 0xE0, 1, 2, 0x80, 0xBF⟩, ?_, rfl, rfl, following⟩
      simp [opening, UInt8.le_iff_toNat_le, first, surrogate, above, beyond, behind, high]

/-- After `F0` and `F4` the second of four octets is restricted. -/
theorem opening_four (octet : UInt8) (second : Nat) (low : 0xF0 ≤ octet.toNat)
    (high : octet.toNat ≤ 0xF4) (following : 0x80 ≤ second ∧ second ≤ 0xBF)
    (shortest : octet.toNat = 0xF0 → 0x90 ≤ second)
    (scalar : octet.toNat = 0xF4 → second ≤ 0x8F) :
    ∃ pending, opening octet = .more pending ∧ pending.code = octet.toNat - 0xF0 ∧
      pending.owed = 3 ∧ pending.low.toNat ≤ second ∧ second ≤ pending.high.toNat := by
  by_cases first : octet = 0xF0
  · subst first
    exact ⟨_, rfl, rfl, rfl, shortest rfl, following.2⟩
  · by_cases last : octet = 0xF4
    · subst last
      exact ⟨_, rfl, rfl, rfl, following.1, scalar rfl⟩
    · have notFirst : octet.toNat ≠ 0xF0 := fun same => first (UInt8.toNat_inj.mp same)
      have notLast : octet.toNat ≠ 0xF4 := fun same => last (UInt8.toNat_inj.mp same)
      have above : ¬ octet.toNat ≤ 127 := by omega
      have beyond : ¬ octet.toNat ≤ 223 := by omega
      have outside : ¬ octet.toNat ≤ 239 := by omega
      have behind : 241 ≤ octet.toNat ∧ octet.toNat ≤ 243 := by omega
      have notThird : octet ≠ 0xE0 ∧ octet ≠ 0xED := by
        constructor <;> rintro rfl <;> simp at low
      refine ⟨⟨octet.toNat - 0xF0, 1, 3, 0x80, 0xBF⟩, ?_, rfl, rfl, following⟩
      simp [opening, UInt8.le_iff_toNat_le, first, above, beyond, outside, behind, notThird]

namespace Decoder

variable {decoder : Decoder} {offset : Nat} {rest : Octets} {c : Char} {pending : Pending}

theorem run_of_complete (idle : decoder.pending = none) (opened : opening octet = .complete c) :
    decoder.run offset (octet :: rest) = (decoder.push c).run (offset + 1) rest := by
  simp [run, feed, start, idle, opened]

theorem run_of_more (idle : decoder.pending = none) (opened : opening octet = .more pending) :
    decoder.run offset (octet :: rest) =
      ({ decoder with pending := some pending } : Decoder).run (offset + 1) rest := by
  simp [run, feed, start, idle, opened]

theorem run_of_last (awaits : decoder.pending = some pending) (last : pending.owed = 1)
    (low : pending.low.toNat ≤ octet.toNat) (high : octet.toNat ≤ pending.high.toNat) :
    decoder.run offset (octet :: rest) =
      (decoder.push (Char.ofNat (pending.code * 64 + (octet.toNat - 0x80)))).run
        (offset + 1) rest := by
  simp [run, feed, awaits, Pending.take, last, UInt8.le_iff_toNat_le, low, high]

theorem run_of_next (awaits : decoder.pending = some pending) (others : 1 < pending.owed)
    (low : pending.low.toNat ≤ octet.toNat) (high : octet.toNat ≤ pending.high.toNat) :
    decoder.run offset (octet :: rest) =
      ({ decoder with pending := some ⟨pending.code * 64 + (octet.toNat - 0x80),
        pending.seen + 1, pending.owed - 1, 0x80, 0xBF⟩ } : Decoder).run (offset + 1) rest := by
  simp [run, feed, awaits, Pending.take, Nat.not_le.mpr others, UInt8.le_iff_toNat_le, low, high]

end Decoder

theorem toNat_ofNat (value : Nat) (small : value < 256) : (UInt8.ofNat value).toNat = value := by
  simpa using Nat.mod_eq_of_lt small

/-- Code points in the range of surrogates are no characters. -/
theorem code_lt (c : Char) : c.toNat < 0xD800 ∨ (0xDFFF < c.toNat ∧ c.toNat < 0x110000) :=
  c.valid

namespace Decoder

variable {decoder : Decoder}

/-- The octets of a character are read as that character. -/
theorem run_utf8EncodeChar (idle : decoder.pending = none) (offset : Nat) (c : Char)
    (rest : Octets) :
    ∃ next, decoder.run offset (String.utf8EncodeChar c ++ rest) =
      (decoder.push c).run next rest := by
  have whole : Char.ofNat c.toNat = c := Char.ofNat_toNat c
  have valid := code_lt c
  have value : c.val.toNat = c.toNat := rfl
  simp only [String.utf8EncodeChar, value]
  split
  case isTrue one =>
      refine ⟨offset + 1, ?_⟩
      have octet := toNat_ofNat (c.toNat) (by omega)
      rw [List.singleton_append, run_of_complete idle (opening_one (by omega)), octet, whole]
  case isFalse =>
      split
      case isTrue two =>
          refine ⟨offset + 1 + 1, ?_⟩
          have first := toNat_ofNat (c.toNat / 64 % 0x20 + 0xC0) (by omega)
          have second := toNat_ofNat (c.toNat % 0x40 + 0x80) (by omega)
          rw [List.cons_append, run_of_more idle (opening_two (by omega) (by omega)),
            List.singleton_append, run_of_last rfl rfl (by simp; omega) (by simp; omega)]
          have code : (c.toNat / 64 % 0x20 + 0xC0 - 0xC0) * 64 + (c.toNat % 0x40 + 0x80 - 0x80) =
              c.toNat := by omega
          simp only [first, second, code, whole]
          rfl
      case isFalse =>
          split
          case isTrue three =>
              refine ⟨offset + 1 + 1 + 1, ?_⟩
              have first := toNat_ofNat (c.toNat / 4096 % 0x10 + 0xE0) (by omega)
              have second := toNat_ofNat (c.toNat / 64 % 0x40 + 0x80) (by omega)
              have third := toNat_ofNat (c.toNat % 0x40 + 0x80) (by omega)
              obtain ⟨pending, opened, begun, owed, low, high⟩ :=
                opening_three (UInt8.ofNat (c.toNat / 4096 % 0x10 + 0xE0))
                  (c.toNat / 64 % 0x40 + 0x80)
                  (by omega) (by omega) (by omega) (by omega) (by omega)
              rw [List.cons_append, run_of_more idle opened, List.cons_append,
                run_of_next rfl (by omega) (by omega) (by omega), List.singleton_append,
                run_of_last rfl (by simp [owed]) (by simp; omega) (by simp; omega)]
              have code : ((c.toNat / 4096 % 0x10 + 0xE0 - 0xE0) * 64 +
                  (c.toNat / 64 % 0x40 + 0x80 - 0x80)) * 64 + (c.toNat % 0x40 + 0x80 - 0x80) =
                    c.toNat := by omega
              simp only [begun, first, second, third, code, whole]
              rfl
          case isFalse =>
              refine ⟨offset + 1 + 1 + 1 + 1, ?_⟩
              have first := toNat_ofNat (c.toNat / 262144 % 0x08 + 0xF0) (by omega)
              have second := toNat_ofNat (c.toNat / 4096 % 0x40 + 0x80) (by omega)
              have third := toNat_ofNat (c.toNat / 64 % 0x40 + 0x80) (by omega)
              have fourth := toNat_ofNat (c.toNat % 0x40 + 0x80) (by omega)
              obtain ⟨pending, opened, begun, owed, low, high⟩ :=
                opening_four (UInt8.ofNat (c.toNat / 262144 % 0x08 + 0xF0))
                  (c.toNat / 4096 % 0x40 + 0x80)
                  (by omega) (by omega) (by omega) (by omega) (by omega)
              rw [List.cons_append, run_of_more idle opened, List.cons_append,
                run_of_next rfl (by omega) (by omega) (by omega),
                List.cons_append,
                run_of_next rfl (by simp [owed]) (by simp; omega) (by simp; omega),
                List.singleton_append,
                run_of_last rfl (by simp [owed]) (by simp; omega) (by simp; omega)]
              have code : (((c.toNat / 262144 % 0x08 + 0xF0 - 0xF0) * 64 +
                  (c.toNat / 4096 % 0x40 + 0x80 - 0x80)) * 64 +
                    (c.toNat / 64 % 0x40 + 0x80 - 0x80)) * 64 + (c.toNat % 0x40 + 0x80 - 0x80) =
                      c.toNat := by omega
              simp only [begun, first, second, third, fourth, code, whole]
              rfl

/-- The octets of characters are read as these characters, without a flaw. -/
theorem run_flatMap (idle : decoder.pending = none) (offset : Nat) (chars : List Char) :
    decoder.run offset (chars.flatMap String.utf8EncodeChar) =
      { decoder with reversed := chars.reverse ++ decoder.reversed } := by
  induction chars generalizing decoder offset with
  | nil =>
      rcases decoder with ⟨reversed, pending, flaw⟩
      cases idle
      rfl
  | cons c later inductionHypothesis =>
      obtain ⟨next, read⟩ :=
        run_utf8EncodeChar idle offset c (later.flatMap String.utf8EncodeChar)
      rw [List.flatMap_cons, read, inductionHypothesis rfl]
      simp [push, idle]

end Decoder

theorem encode_append (first second : String) :
    encode (first ++ second) = encode first ++ encode second := by
  simp only [encode, String.toList_append, List.flatMap_append]

/-- A text is read back from its octets. -/
@[simp]
theorem decodeText_encode (text : String) : decodeText (encode text) = .ok text := by
  have read : ({} : Decoder).run 0 (text.toList.flatMap String.utf8EncodeChar) = _ :=
    Decoder.run_flatMap rfl 0 text.toList
  simp [decodeText, decode, encode, read, Except.map]

end Switchyard.Text.Utf8
