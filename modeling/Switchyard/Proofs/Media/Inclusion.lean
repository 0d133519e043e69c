import Switchyard.Conversion.Converter
import Switchyard.Proofs.Media.Compatibility
import Switchyard.Proofs.Media.Spelling

/-!
# Media ranges that cover other ones

Ranges are ordered by `includes`, and two ranges with a single media type in common include one
another one way or the other.  What is compatible beyond that is a wildcard before a suffix with the
subtype that is the suffix alone.
-/

set_option autoImplicit false

namespace Switchyard

namespace Media

theorem word_append_iff {first second : String} :
    Word (first ++ second) ↔ Word first ∧ Word second := by
  have lower : Text.lowercase (first ++ second) = first ++ second ↔
      Text.lowercase first = first ∧ Text.lowercase second = second := by
    simp only [← String.toList_inj, Text.lowercase, String.toList_append, List.map_append,
      String.toList_ofList]
    refine ⟨fun same => List.append_inj same (List.length_map ..), ?_⟩
    rintro ⟨same, also⟩
    rw [same, also]
  constructor
  · rintro ⟨token, folded⟩
    rw [String.toList_append, List.forall_mem_append] at token
    exact ⟨⟨token.1, (lower.mp folded).1⟩, ⟨token.2, (lower.mp folded).2⟩⟩
  · rintro ⟨⟨token, folded⟩, ⟨alsoToken, alsoFolded⟩⟩
    refine ⟨?_, lower.mpr ⟨folded, alsoFolded⟩⟩
    rw [String.toList_append, List.forall_mem_append]
    exact ⟨token, alsoToken⟩

namespace MediaType

theorem base_bare (type : String) {base suffix : String} (given : base ≠ "")
    (plain : '+' ∉ suffix.toList) :
    (bare type (base ++ "+" ++ suffix)).base = base ∧
      (bare type (base ++ "+" ++ suffix)).suffix? = some suffix := by
  have cut := cutSuffix_append (by simpa using given : base.toList ≠ []) plain
  simp [MediaType.base, suffix?, bare, cut]

theorem spelled_bare {type subtype : String} (typed : type ≠ "") (word : Word type)
    (subword : Word subtype) : (bare type subtype).Spelled :=
  ⟨typed, word, subword, .inl ⟨rfl, rfl⟩⟩

end MediaType

namespace MediaRange

variable {range other third common : MediaRange}

theorem isWildcardSubtype_congr (same : range.media.subtype = other.media.subtype) :
    range.isWildcardSubtype = other.isWildcardSubtype := by
  rw [isWildcardSubtype, isWildcardSubtype, MediaType.base_congr same]

theorem isWildcardType_congr (same : range.media.type = other.media.type) :
    range.isWildcardType = other.isWildcardType := by
  rw [isWildcardType, isWildcardType, same]

/-- A wildcard subtype is a wildcard alone or one before a suffix. -/
theorem subtype_of_isWildcardSubtype (wildcard : range.isWildcardSubtype = true) :
    (range.media.suffix? = none ∧ range.media.subtype = "*") ∨
      ∃ suffix, range.media.suffix? = some suffix ∧ range.media.subtype = "*+" ++ suffix := by
  have star : range.media.base = "*" := of_decide_eq_true wildcard
  cases suffixed : range.media.suffix? with
  | none => exact .inl ⟨rfl, (MediaType.base_eq_subtype suffixed).symm.trans star⟩
  | some suffix =>
      refine .inr ⟨suffix, rfl, ?_⟩
      rw [(MediaType.subtype_eq_of_suffix? suffixed).1, star]
      rfl

theorem includes_iff : range.includes other = true ↔
    range.isWildcardType = true ∨
      (range.media.type = other.media.type ∧
        (range.media.subtype = other.media.subtype ∨
          (range.isWildcardSubtype = true ∧
            ∀ suffix ∈ range.media.suffix?, other.media.suffix? = some suffix))) := by
  unfold includes
  by_cases general : range.isWildcardType = true
  · simp [general]
  by_cases type : range.media.type = other.media.type
  · by_cases subtype : range.media.subtype = other.media.subtype
    · simp [type, subtype]
    · cases range.isWildcardSubtype <;> cases range.media.suffix? <;>
        simp [general, type, subtype]
  · simp [general, type]

theorem includes_refl (range : MediaRange) : range.includes range = true :=
  includes_iff.mpr (.inr ⟨rfl, .inl rfl⟩)

theorem includes_trans (covers : range.includes other = true)
    (coversOther : other.includes third = true) : range.includes third = true := by
  rw [includes_iff] at covers coversOther ⊢
  rcases covers with general | ⟨type, covers⟩
  · exact .inl general
  rcases coversOther with general | ⟨otherType, coversOther⟩
  · exact .inl ((isWildcardType_congr type).trans general)
  refine .inr ⟨type.trans otherType, ?_⟩
  rcases covers with same | ⟨wildcard, suffixed⟩
  · rwa [same, isWildcardSubtype_congr same, MediaType.suffix?_congr same]
  · refine .inr ⟨wildcard, fun suffix found => ?_⟩
    rcases coversOther with otherSame | ⟨-, otherSuffixed⟩
    · rw [← MediaType.suffix?_congr otherSame]
      exact suffixed suffix found
    · exact otherSuffixed suffix (suffixed suffix found)

/-- Whether a range is a wildcard before a suffix, and another one is that suffix alone. -/
structure EndsIn (range other : MediaRange) : Prop where
  type : range.media.type = other.media.type
  wildcard : range.isWildcardSubtype = true
  suffix : range.media.suffix? = some other.media.subtype

theorem isCompatible_of_includes (covers : range.includes other = true) :
    range.isCompatible other = true := by
  rcases includes_iff.mp covers with general | ⟨type, same | ⟨wildcard, suffixed⟩⟩
  · simp [isCompatible, general]
  · simp [isCompatible, type, same]
  · rcases subtype_of_isWildcardSubtype wildcard with ⟨-, everything⟩ | ⟨suffix, found, -⟩
    · simp [isCompatible, type, everything]
    · have shared := suffixed suffix found
      simp [isCompatible, type, wildcard, found, sharesSuffix, shared]

theorem EndsIn.isCompatible (ends : range.EndsIn other) : range.isCompatible other = true := by
  simp [MediaRange.isCompatible, ends.type, ends.wildcard, ends.suffix, sharesSuffix]

/-- A wildcard before a suffix shares it with what it includes and with the suffix alone. -/
theorem includes_or_endsIn {suffix : String} (type : range.media.type = other.media.type)
    (wildcard : range.isWildcardSubtype = true) (found : range.media.suffix? = some suffix)
    (shared : sharesSuffix suffix other = true) :
    range.includes other = true ∨ range.EndsIn other := by
  simp only [sharesSuffix, Bool.or_eq_true, decide_eq_true_eq] at shared
  rcases shared with alone | suffixed
  · exact .inr ⟨type, wildcard, alone ▸ found⟩
  · refine .inl (includes_iff.mpr (.inr ⟨type, .inr ⟨wildcard, ?_⟩⟩))
    simp [found, ← suffixed]

theorem includes_of_star (type : range.media.type = other.media.type)
    (everything : range.media.subtype = "*") : range.includes other = true := by
  have plain : range.media.suffix? = none :=
    (MediaType.suffix?_congr everything : range.media.suffix? = MediaType.any.suffix?).trans
      (by decide)
  refine includes_iff.mpr (.inr ⟨type, .inr ⟨isWildcardSubtype_of_subtype everything, ?_⟩⟩)
  simp [plain]

/-- Compatible ranges include one another one way or the other, unless one of them is a wildcard
before a suffix and the other that suffix alone. -/
theorem isCompatible_iff_includes : range.isCompatible other = true ↔
    (range.includes other = true ∨ other.includes range = true) ∨
      range.EndsIn other ∨ other.EndsIn range := by
  constructor
  · intro compatible
    unfold isCompatible at compatible
    split at compatible
    case isTrue general =>
        rw [Bool.or_eq_true] at general
        exact .inl (general.imp (includes_iff.mpr ∘ .inl) (includes_iff.mpr ∘ .inl))
    case isFalse =>
    split at compatible
    case isTrue => cases compatible
    case isFalse typed =>
    have type := not_not.mp typed
    split at compatible
    case isTrue same => exact .inl (.inl (includes_iff.mpr (.inr ⟨type, .inl same⟩)))
    case isFalse =>
    split at compatible
    case isTrue star =>
        exact .inl (star.imp (includes_of_star type) (includes_of_star type.symm))
    case isFalse =>
    split at compatible
    case h_1 suffix wildcard found =>
        exact (includes_or_endsIn type wildcard found compatible).imp .inl .inl
    case h_2 =>
        split at compatible
        case h_1 suffix wildcard found =>
            exact (includes_or_endsIn type.symm wildcard found compatible).imp .inr .inr
        case h_2 => cases compatible
  · rintro ((covers | covered) | ends | ends)
    · exact isCompatible_of_includes covers
    · exact (isCompatible_comm range other).trans (isCompatible_of_includes covered)
    · exact ends.isCompatible
    · exact (isCompatible_comm range other).trans ends.isCompatible

/-- Of two ranges that both include a third one, one includes the other. -/
theorem includes_or_includes_of_common (covers : range.includes common = true)
    (otherCovers : other.includes common = true) :
    range.includes other = true ∨ other.includes range = true := by
  rcases includes_iff.mp covers with general | ⟨type, covers⟩
  · exact .inl (includes_iff.mpr (.inl general))
  rcases includes_iff.mp otherCovers with general | ⟨otherType, otherCovers⟩
  · exact .inr (includes_iff.mpr (.inl general))
  have typed : range.media.type = other.media.type := type.trans otherType.symm
  rcases covers with same | ⟨wildcard, suffixed⟩
  · -- the first range has the subtype of the third one, so that what covers this covers it
    right
    rw [includes_iff, isWildcardType_congr otherType, same, MediaType.suffix?_congr same]
    exact .inr ⟨typed.symm, otherCovers⟩
  rcases otherCovers with same | ⟨otherWildcard, otherSuffixed⟩
  · left
    rw [includes_iff, same, MediaType.suffix?_congr same]
    exact .inr ⟨typed, .inr ⟨wildcard, suffixed⟩⟩
  rcases subtype_of_isWildcardSubtype wildcard with ⟨-, everything⟩ | ⟨suffix, found, spelled⟩
  · exact .inl (includes_of_star typed everything)
  rcases subtype_of_isWildcardSubtype otherWildcard with
    ⟨-, everything⟩ | ⟨otherSuffix, otherFound, otherSpelled⟩
  · exact .inr (includes_of_star typed.symm everything)
  -- Two wildcards before the suffix of the third range are one.
  have shared := (suffixed suffix found).symm.trans (otherSuffixed otherSuffix otherFound)
  obtain rfl := Option.some.inj shared
  exact .inl (includes_iff.mpr (.inr ⟨typed, .inl (spelled.trans otherSpelled.symm)⟩))

/-- A range includes a single media type, which is well spelled if the range is. -/
theorem exists_concrete (range : MediaRange) :
    ∃ common, common.isConcrete = true ∧ range.includes common = true ∧
      (range.media.Spelled → common.media.Spelled) := by
  by_cases general : range.isWildcardType = true
  · have read : MediaType.parse? "application/octet-stream" = some .octetStream := by decide
    exact ⟨.octetStream, by decide, includes_iff.mpr (.inl general),
      fun _ => MediaType.spelled_of_parse? read⟩
  by_cases wildcard : range.isWildcardSubtype = true
  case neg => exact ⟨range, by simp [isConcrete, general, wildcard], includes_refl range, id⟩
  -- A letter is put in the place of the wildcard.
  have single {subtype : String} (lettered : (MediaType.bare range.media.type subtype).base = "x") :
      (ofMedia (.bare range.media.type subtype)).isConcrete = true := by
    have typed : (ofMedia (.bare range.media.type subtype)).isWildcardType = false :=
      (isWildcardType_congr rfl).trans (Bool.eq_false_iff.mpr general)
    have based : (ofMedia (.bare range.media.type subtype)).isWildcardSubtype = false := by
      simp [isWildcardSubtype, ofMedia, lettered]
    simp [isConcrete, typed, based]
  have letter : Word "x" := .of_all (by decide) (by decide)
  rcases subtype_of_isWildcardSubtype wildcard with ⟨-, everything⟩ | ⟨suffix, found, spelled⟩
  · have alone : (MediaType.bare range.media.type "x").base = (MediaType.bare "" "x").base :=
      MediaType.base_congr rfl
    refine ⟨_, single (alone.trans (by decide)), ?_, ?_⟩
    · exact includes_of_star rfl everything
    · exact fun wellSpelled => MediaType.spelled_bare wellSpelled.typed wellSpelled.word letter
  · have plain := (MediaType.subtype_eq_of_suffix? found).2.2
    obtain ⟨base, suffixed⟩ := MediaType.base_bare range.media.type (by decide : "x" ≠ "") plain
    refine ⟨_, single base, includes_iff.mpr (.inr ⟨rfl, .inr ⟨wildcard, ?_⟩⟩), ?_⟩
    · intro other same
      rw [found] at same
      obtain rfl := Option.some.inj same
      exact suffixed
    · intro wellSpelled
      have subword := wellSpelled.subword
      rw [spelled, word_append_iff] at subword
      refine MediaType.spelled_bare wellSpelled.typed wellSpelled.word ?_
      exact word_append_iff.mpr ⟨.of_all (by decide) (by decide), subword.2⟩

/-- What one of two ranges includes in the other holds a single media type of both. -/
theorem exists_common (covers : range.includes other = true ∨ other.includes range = true) :
    ∃ common, common.isConcrete = true ∧ range.includes common = true ∧
      other.includes common = true ∧
      (range.media.Spelled → other.media.Spelled → common.media.Spelled) := by
  rcases covers with covers | covered
  · obtain ⟨common, concrete, included, spelled⟩ := exists_concrete other
    exact ⟨common, concrete, includes_trans covers included, included, fun _ => spelled⟩
  · obtain ⟨common, concrete, included, spelled⟩ := exists_concrete range
    exact ⟨common, concrete, included, includes_trans covered included,
      fun known _ => spelled known⟩

/-- Ranges are compatible exactly if they include a single media type in common, or one of them is a
wildcard before a suffix and the other that suffix alone. -/
theorem isCompatible_iff_common : range.isCompatible other = true ↔
    (∃ common, common.isConcrete = true ∧ range.includes common = true ∧
      other.includes common = true) ∨ range.EndsIn other ∨ other.EndsIn range := by
  rw [isCompatible_iff_includes]
  refine or_congr_left ⟨fun covers => ?_, ?_⟩
  · obtain ⟨common, concrete, included, alsoIncluded, -⟩ := exists_common covers
    exact ⟨common, concrete, included, alsoIncluded⟩
  · rintro ⟨common, -, included, alsoIncluded⟩
    exact includes_or_includes_of_common included alsoIncluded

end MediaRange

end Media

namespace Conversion

open Media (MediaRange)

/-- What media types cover is compatible with one of them. -/
theorem reachesAny_of_coversAny {media : List MediaRange} {contentType : MediaRange}
    (covers : coversAny media contentType = true) : reachesAny media contentType = true := by
  simp only [coversAny, List.any_eq_true] at covers
  obtain ⟨supported, listed, included⟩ := covers
  simp only [reachesAny, Bool.or_eq_true, List.any_eq_true]
  exact .inr ⟨supported, listed, MediaRange.isCompatible_of_includes included⟩

/-- Ranges are ordered by inclusion.  Compatibility is symmetric and holds of what is included; it
says that a single media type is included in both ranges, unless one of them is a wildcard before a
suffix and the other that suffix alone.  For ranges as they are read the single media type is one
that can be read too.  So a converter that goes by its media types alone writes whatever it
reads. -/
theorem inclusion_laws (range other third : MediaRange) :
    range.includes range = true ∧
      (range.includes other = true → other.includes third = true →
        range.includes third = true) ∧
      range.isCompatible other = other.isCompatible range ∧
      (range.includes other = true → range.isCompatible other = true) ∧
      (range.isCompatible other = true ↔
        (∃ common, common.isConcrete = true ∧ range.includes common = true ∧
          other.includes common = true) ∨ range.EndsIn other ∨ other.EndsIn range) ∧
      (range.media.Spelled → other.media.Spelled → range.isCompatible other = true →
        (∃ common, common.media.Spelled ∧ common.isConcrete = true ∧
          range.includes common = true ∧ other.includes common = true) ∨
        range.EndsIn other ∨ other.EndsIn range) ∧
      ∀ name kind media charset read write asked contentType,
        Converter.canRead { name, kind, media, charset, read, write } asked contentType = true →
          Converter.canWrite { name, kind, media, charset, read, write } asked contentType =
            true := by
  refine ⟨range.includes_refl, MediaRange.includes_trans, range.isCompatible_comm other,
    MediaRange.isCompatible_of_includes, MediaRange.isCompatible_iff_common, ?_, ?_⟩
  · intro spelled otherSpelled compatible
    refine (MediaRange.isCompatible_iff_includes.mp compatible).imp_left fun covers => ?_
    obtain ⟨common, concrete, included, alsoIncluded, known⟩ := MediaRange.exists_common covers
    exact ⟨common, known spelled otherSpelled, concrete, included, alsoIncluded⟩
  · intro name kind media charset read write asked contentType reads
    simp only [Bool.true_and, Bool.and_eq_true] at reads ⊢
    exact ⟨reads.1, reachesAny_of_coversAny reads.2⟩

end Conversion

end Switchyard
