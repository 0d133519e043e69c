import Switchyard.Proofs.Http.Fields

/-!
# Responses and the lengths that they announce

A response that nobody has framed has neither a length nor a transfer encoding, and a measured one
announces no length or its own.
-/

set_option autoImplicit false

namespace Switchyard

theorem Text.Utf8.encode_injective {text other : String}
    (same : Text.Utf8.encode text = Text.Utf8.encode other) : text = other := by
  have octets := congrArg List.toByteArray same
  have encoded : text.toList.utf8Encode = other.toList.utf8Encode := octets
  rw [String.utf8Encode_toList, String.utf8Encode_toList] at encoded
  exact String.toByteArray_inj.mp encoded

namespace Http

theorem lengthValue_inj {length other : Nat} :
    lengthValue length = lengthValue other ↔ length = other := by
  constructor
  · intro same
    have digits := congrArg String.toList (Text.Utf8.encode_injective same)
    have read : Nat.ofDigitChars 10 (Nat.toDigits 10 length) 0 =
        Nat.ofDigitChars 10 (Nat.toDigits 10 other) 0 := by
      rw [← Nat.toList_repr, ← Nat.toList_repr]
      exact congrArg (fun chars => Nat.ofDigitChars 10 chars 0) digits
    simpa using read
  · rintro rfl
    rfl

/-- Fields that say nothing of how the body is framed. -/
structure Fields.Unframed (fields : Fields) : Prop where
  length : fields.getAll contentLengthName = []
  encoding : fields.getAll transferEncodingName = []

instance : DecidablePred Fields.Unframed := fun fields =>
  decidable_of_iff
    (fields.getAll contentLengthName = [] ∧ fields.getAll transferEncodingName = [])
    ⟨fun ⟨length, encoding⟩ => ⟨length, encoding⟩, fun bare => ⟨bare.length, bare.encoding⟩⟩

namespace Response

variable {response : Response} {length : Nat}

/-- A response that announces no length, or so many octets, and no transfer encoding. -/
structure Announces (response : Response) (length : Nat) : Prop where
  length : response.fields.getAll contentLengthName = [] ∨
    response.fields.getAll contentLengthName = [lengthValue length]
  encoding : response.fields.getAll transferEncodingName = []

/-- A response that announces no length other than its own. -/
def Measured (response : Response) : Prop :=
  response.Announces response.body.length

theorem announces_of_unframed (unframed : response.fields.Unframed) :
    response.Announces length :=
  ⟨.inl unframed.length, unframed.encoding⟩

theorem unframed_ofStatus (status : Status) : (ofStatus status).fields.Unframed :=
  ⟨rfl, rfl⟩

theorem unframed_withBody (status : Status) (contentType body : Octets) :
    (withBody status contentType body).fields.Unframed := by
  constructor
  · exact Fields.getAll_set_of_ne (by decide)
  · exact Fields.getAll_set_of_ne (by decide)

theorem isChunked_eq_false (bare : response.fields.getAll transferEncodingName = []) :
    response.isChunked = false :=
  Fields.contains_eq_false_iff.mpr bare

/-- A length is added where none is announced. -/
theorem getAll_withLength (announces : response.Announces length) (other : Nat) :
    (response.withLength other).fields.getAll contentLengthName =
      if response.fields.getAll contentLengthName = [] then [lengthValue other]
      else [lengthValue length] := by
  have plain := isChunked_eq_false announces.encoding
  unfold withLength
  rcases announces.length with absent | present
  · rw [Fields.contains_eq_false_iff.mpr absent, plain, if_pos absent]
    exact Fields.getAll_set_self
  · have contained : response.fields.contains contentLengthName = true := by
      apply (Bool.not_eq_false _).mp
      rw [Fields.contains_eq_false_iff, present]
      exact List.cons_ne_nil _ _
    rw [contained, Bool.true_or, if_pos rfl, present, if_neg (by simp)]

theorem getAll_withLength_of_unframed (unframed : response.fields.Unframed) (length : Nat) :
    (response.withLength length).fields.getAll contentLengthName = [lengthValue length] := by
  have announces : response.Announces length := announces_of_unframed unframed
  rw [getAll_withLength announces, if_pos unframed.length]

theorem getAll_transferEncoding_withLength :
    (response.withLength length).fields.getAll transferEncodingName =
      response.fields.getAll transferEncodingName :=
  getAll_withLength_of_ne (by decide)

end Response

end Http

end Switchyard
