import Mathlib.Data.List.TakeWhile
import Switchyard.Media.Negotiation
import Switchyard.Proofs.Text.Split

/-!
# Media ranges with a type in common

`isCompatible` is reflexive and symmetric, and holds of what two ranges come to.
-/

set_option autoImplicit false

namespace Switchyard.Media

namespace MediaType

variable {media other : MediaType}

theorem suffix?_congr (same : media.subtype = other.subtype) : media.suffix? = other.suffix? := by
  rw [suffix?, suffix?, same]

theorem base_congr (same : media.subtype = other.subtype) : media.base = other.base := by
  rw [base, base, same]

/-- A suffix stands behind the last plus sign, and something stands before that. -/
theorem eq_of_cutSuffix {chars suffix : List Char} (cut : (cutSuffix chars).2 = some suffix) :
    chars = (cutSuffix chars).1 ++ '+' :: suffix ∧ (cutSuffix chars).1 ≠ [] ∧ '+' ∉ suffix := by
  simp only [cutSuffix, Text.drop_length_takeWhile] at cut ⊢
  split at cut
  case h_2 => cases cut
  case h_1 sign c base behind =>
      obtain rfl := Option.some.inj cut
      have stop := List.head?_dropWhile_not (fun c => decide (c ≠ '+')) chars.reverse
      have whole := List.takeWhile_append_dropWhile (p := fun c => decide (c ≠ '+'))
        (l := chars.reverse)
      rw [behind] at stop whole
      have plus : sign = '+' := by simpa using stop
      have spelled := congrArg List.reverse whole
      rw [List.reverse_append, List.reverse_reverse] at spelled
      refine ⟨spelled.symm.trans (by simp [plus]), by simp, fun membership => ?_⟩
      simpa using List.mem_takeWhile_imp (List.mem_reverse.mp membership)

theorem cutSuffix_append {base suffix : List Char} (given : base ≠ []) (plain : '+' ∉ suffix) :
    cutSuffix (base ++ '+' :: suffix) = (base, some suffix) := by
  obtain ⟨c, rest, reversed⟩ := List.exists_cons_of_ne_nil (mt List.reverse_eq_nil_iff.mp given)
  have run : (suffix.reverse ++ '+' :: (c :: rest)).takeWhile (fun c => decide (c ≠ '+')) =
      suffix.reverse := by
    rw [List.takeWhile_append_of_pos]
    · simp
    · simpa using fun c membership (same : c = '+') => plain (same ▸ membership)
  have front : (c :: rest).reverse = base := by rw [← reversed, List.reverse_reverse]
  simp only [cutSuffix, List.reverse_append, List.reverse_cons, List.append_assoc, reversed,
    List.singleton_append, run, List.drop_left, List.reverse_reverse]
  rw [← front, List.reverse_cons]

/-- A subtype with a suffix is spelled with its base and that suffix. -/
theorem subtype_eq_of_suffix? {suffix : String}
    (found : media.suffix? = some suffix) :
    media.subtype = media.base ++ "+" ++ suffix ∧ media.base ≠ "" ∧ '+' ∉ suffix.toList := by
  obtain ⟨chars, cut, rfl⟩ := Option.map_eq_some_iff.mp found
  obtain ⟨spelled, given, plain⟩ := eq_of_cutSuffix cut
  refine ⟨String.toList_inj.mp ?_, by simpa [base] using given, by simpa using plain⟩
  rw [spelled]
  simp [base]

theorem base_eq_subtype (plain : media.suffix? = none) :
    media.base = media.subtype := by
  unfold suffix? at plain
  unfold base
  rw [Option.map_eq_none_iff] at plain
  simp only [cutSuffix] at plain ⊢
  split at plain
  · cases plain
  · simp

theorem suffix?_ne_subtype {suffix : String}
    (found : media.suffix? = some suffix) (other : MediaType) (otherFound : other.suffix?.isSome) :
    suffix ≠ other.subtype := by
  obtain ⟨_, otherSuffix⟩ := Option.isSome_iff_exists.mp otherFound
  rintro rfl
  apply (subtype_eq_of_suffix? found).2.2
  rw [(subtype_eq_of_suffix? otherSuffix).1]
  simp

end MediaType

namespace MediaRange

variable {range other : MediaRange}

theorem isCompatible_refl (range : MediaRange) : range.isCompatible range = true := by
  simp [isCompatible]

theorem isWildcardType_quality (range : MediaRange) (quality : Quality) :
    isWildcardType { range with quality := quality } = range.isWildcardType := rfl

theorem isWildcardSubtype_quality (range : MediaRange) (quality : Quality) :
    isWildcardSubtype { range with quality := quality } = range.isWildcardSubtype := rfl

theorem sharesSuffix_quality (suffix : String) (range : MediaRange) (quality : Quality) :
    sharesSuffix suffix { range with quality := quality } = sharesSuffix suffix range := rfl

theorem isCompatible_quality (range other : MediaRange) (quality : Quality) :
    isCompatible { range with quality := quality } other = range.isCompatible other := by
  simp only [isCompatible, isWildcardType_quality, isWildcardSubtype_quality,
    sharesSuffix_quality]
  rfl

theorem sharesSuffix_comm {suffix otherSuffix : String} (found : range.media.suffix? = some suffix)
    (otherFound : other.media.suffix? = some otherSuffix) :
    sharesSuffix suffix other = sharesSuffix otherSuffix range := by
  have apart := MediaType.suffix?_ne_subtype found other.media (by simp [otherFound])
  have otherApart := MediaType.suffix?_ne_subtype otherFound range.media (by simp [found])
  simp [sharesSuffix, found, otherFound, apart, otherApart, eq_comm]

theorem isCompatible_comm (range other : MediaRange) :
    range.isCompatible other = other.isCompatible range := by
  unfold isCompatible
  refine ite_congr (congrArg (· = true) (Bool.or_comm _ _)) (fun _ => rfl) fun _ => ?_
  refine ite_congr (propext ne_comm) (fun _ => rfl) fun _ => ?_
  refine ite_congr (propext eq_comm) (fun _ => rfl) fun _ => ?_
  refine ite_congr (propext or_comm) (fun _ => rfl) fun _ => ?_
  cases wildcard : range.isWildcardSubtype <;> cases suffix : range.media.suffix? <;>
    cases otherWildcard : other.isWildcardSubtype <;> cases otherSuffix : other.media.suffix? <;>
      simp only
  exact sharesSuffix_comm suffix otherSuffix

/-- A candidate has types in common with both ranges of which it is the more specific one. -/
theorem isCompatible_mostSpecific (compatible : range.isCompatible other = true) :
    (range.mostSpecific other).isCompatible range = true ∧
      (range.mostSpecific other).isCompatible other = true := by
  unfold mostSpecific
  split
  · exact ⟨isCompatible_refl range, compatible⟩
  · rw [isCompatible_quality other range, isCompatible_quality other other,
      isCompatible_comm other range]
    exact ⟨compatible, isCompatible_refl other⟩

theorem isWildcardSubtype_of_subtype (everything : range.media.subtype = "*") :
    range.isWildcardSubtype = true := by
  simp only [isWildcardSubtype, MediaType.base, everything]
  decide

theorem isWildcardType_of_rank (general : 2 ≤ range.specificityRank) :
    range.isWildcardType = true := by
  unfold specificityRank at general
  split at general
  · assumption
  · split at general <;> omega

theorem isConcrete_iff_rank : range.isConcrete = true ↔ range.specificityRank = 0 := by
  unfold isConcrete specificityRank
  cases range.isWildcardType <;> cases range.isWildcardSubtype <;> simp

end MediaRange

end Switchyard.Media
