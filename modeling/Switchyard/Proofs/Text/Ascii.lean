import Mathlib
import Switchyard.Proofs.Text.Utf8
import Switchyard.Text.Ascii

/-!
# Characters of ASCII

What holds of all characters of ASCII is checked one by one.  Texts of visible characters are read
back from the octets of a header field, and no other texts are.
-/

set_option autoImplicit false

namespace Switchyard.Text

theorem forall_ascii {p : Char → Bool} (every : ∀ code : Fin 128, p (Char.ofNat code) = true)
    {c : Char} (ascii : c.toNat < 128) : p c = true := by
  simpa using every ⟨c.toNat, ascii⟩

theorem toLower_eq_self {c : Char} (beyond : 128 ≤ c.toNat) : c.toLower = c := by
  apply Char.toLower_eq_of_not_isUpper
  simp only [Char.isUpper, decide_eq_true_eq, UInt32.le_iff_toNat_le]
  rintro ⟨-, upper⟩
  have bounded : c.toNat ≤ 90 := upper
  omega

@[simp]
theorem lowercase_lowercase (text : String) : lowercase (lowercase text) = lowercase text := by
  simp [lowercase, Function.comp_def]

/-- Whether a character may stand in a header field that is read as text. -/
def isVisibleChar (c : Char) : Bool :=
  c == '\t' || (32 ≤ c.toNat && c.toNat ≤ 126)

theorem isVisibleChar_eq_false {c : Char} (beyond : 128 ≤ c.toNat) : isVisibleChar c = false := by
  have notTab : c ≠ '\t' := by
    rintro rfl
    exact absurd beyond (by decide)
  have above : ¬ c.toNat ≤ 126 := by omega
  simp [isVisibleChar, notTab, above]

theorem isVisibleOctet_of_ascii {c : Char} (ascii : c.toNat < 128) :
    isVisibleOctet (UInt8.ofNat c.toNat) = isVisibleChar c ∧
      Char.ofNat (UInt8.ofNat c.toNat).toNat = c := by
  simpa using forall_ascii (p := fun c => isVisibleOctet (UInt8.ofNat c.toNat) = isVisibleChar c ∧
      Char.ofNat (UInt8.ofNat c.toNat).toNat = c) (by decide) ascii

theorem utf8EncodeChar_of_ascii {c : Char} (ascii : c.toNat < 128) :
    String.utf8EncodeChar c = [UInt8.ofNat c.toNat] := by
  have bounded : c.val.toNat ≤ 0x7F := Nat.le_of_lt_succ ascii
  simp only [String.utf8EncodeChar, bounded, if_true]
  rfl

/-- Characters of ASCII are told apart by their octets. -/
theorem ascii_inj {c d : Char} (ascii : c.toNat < 128) (asciiToo : d.toNat < 128)
    (same : UInt8.ofNat c.toNat = UInt8.ofNat d.toNat) : c = d := by
  rw [← (isVisibleOctet_of_ascii ascii).2, same, (isVisibleOctet_of_ascii asciiToo).2]

theorem isVisibleOctet_eq_false {octet : UInt8} (high : 127 ≤ octet.toNat) :
    isVisibleOctet octet = false := by
  have notTab : octet ≠ 9 := by
    rintro rfl
    simp at high
  have above : ¬ octet.toNat ≤ 126 := by omega
  simp [isVisibleOctet, notTab, UInt8.le_iff_toNat_le, above]

/-- A character beyond ASCII is spelled in octets that are all beyond it. -/
theorem high_utf8EncodeChar {c : Char} (beyond : 128 ≤ c.toNat) :
    ∀ octet ∈ String.utf8EncodeChar c, 128 ≤ octet.toNat := by
  have long : ¬ c.val.toNat ≤ 0x7F := Nat.not_le_of_lt beyond
  have kept (value : Nat) (high : 128 ≤ value) (small : value < 256) :
      128 ≤ (UInt8.ofNat value).toNat := by rwa [Utf8.toNat_ofNat value small]
  simp only [String.utf8EncodeChar, long, if_false]
  split
  · simp only [List.forall_mem_cons]
    exact ⟨kept _ (by omega) (by omega), kept _ (by omega) (by omega), List.forall_mem_nil _⟩
  · split
    · simp only [List.forall_mem_cons]
      exact ⟨kept _ (by omega) (by omega), kept _ (by omega) (by omega),
        kept _ (by omega) (by omega), List.forall_mem_nil _⟩
    · simp only [List.forall_mem_cons]
      exact ⟨kept _ (by omega) (by omega), kept _ (by omega) (by omega),
        kept _ (by omega) (by omega), kept _ (by omega) (by omega), List.forall_mem_nil _⟩

/-- A character is visible exactly if its octets are. -/
theorem all_isVisibleOctet (c : Char) :
    (String.utf8EncodeChar c).all isVisibleOctet = isVisibleChar c := by
  by_cases ascii : c.toNat < 128
  · simp [utf8EncodeChar_of_ascii ascii, (isVisibleOctet_of_ascii ascii).1]
  · have beyond : 128 ≤ c.toNat := Nat.le_of_not_lt ascii
    obtain ⟨octet, rest, spelled⟩ := List.exists_cons_of_ne_nil
      (String.utf8EncodeChar_ne_nil : String.utf8EncodeChar c ≠ [])
    have high := high_utf8EncodeChar beyond octet (spelled ▸ List.mem_cons_self)
    rw [isVisibleChar_eq_false beyond, spelled, List.all_cons,
      isVisibleOctet_eq_false (by omega), Bool.false_and]

theorem chars_of_visible {chars : List Char} (visible : chars.all isVisibleChar = true) :
    (chars.flatMap String.utf8EncodeChar).map (fun octet => Char.ofNat octet.toNat) = chars := by
  induction chars with
  | nil => rfl
  | cons c rest inductionHypothesis =>
      simp only [List.all_cons, Bool.and_eq_true] at visible
      have ascii : c.toNat < 128 := by
        have bounds := visible.1
        simp only [isVisibleChar, Bool.or_eq_true, beq_iff_eq, Bool.and_eq_true,
          decide_eq_true_eq] at bounds
        rcases bounds with rfl | bounds
        · decide
        · omega
      rw [List.flatMap_cons, List.map_append, inductionHypothesis visible.2,
        utf8EncodeChar_of_ascii ascii, List.map_singleton, (isVisibleOctet_of_ascii ascii).2]
      rfl

/-- Visible characters are read back from the octets of a field, and no others are. -/
theorem visible?_encode (text : String) :
    visible? (Utf8.encode text) = if text.toList.all isVisibleChar then some text else none := by
  have octets : (Utf8.encode text).all isVisibleOctet = text.toList.all isVisibleChar := by
    simp only [Utf8.encode, List.all_flatMap]
    congr 1
    funext c
    exact all_isVisibleOctet c
  simp only [visible?, octets]
  split
  case isTrue visible => rw [Utf8.encode, chars_of_visible visible, String.ofList_toList]
  case isFalse => rfl

end Switchyard.Text
