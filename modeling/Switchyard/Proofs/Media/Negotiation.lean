import Switchyard.Proofs.Media.Compatibility

/-!
# What negotiation comes to

A negotiated type is a single media type among the candidates if there is one, and octets for a
candidate that covers them otherwise.  It always is of a type that the client accepts.
-/

set_option autoImplicit false

namespace Switchyard.Media

/-- Two texts around a slash determine one another where only one slash is. -/
theorem eq_of_append_slash {first second other another : List Char}
    (spelled : first ++ '/' :: second = other ++ '/' :: another) (bare : '/' ∉ other)
    (alsoBare : '/' ∉ another) : first = other ∧ second = another := by
  rcases List.append_eq_append_iff.mp spelled with ⟨middle, rfl, rest⟩ | ⟨middle, rfl, rest⟩
  · cases middle with
    | nil => simpa using rest
    | cons head tail => simp_all
  · cases middle with
    | nil => simpa [eq_comm] using rest
    | cons head tail =>
        simp only [List.cons_append, List.cons.injEq] at rest
        exact absurd (by simp [rest.2]) alsoBare

namespace MediaType

theorem eq_of_essence {media : MediaType} (type subtype : String)
    (spelled : media.essence = type ++ "/" ++ subtype) (bare : '/' ∉ type.toList)
    (alsoBare : '/' ∉ subtype.toList) : media.type = type ∧ media.subtype = subtype := by
  have chars := congrArg String.toList spelled
  simp only [essence, String.toList_append] at chars
  have parts := eq_of_append_slash (by simpa using chars) bare alsoBare
  exact ⟨String.toList_inj.mp parts.1, String.toList_inj.mp parts.2⟩

end MediaType

namespace MediaRange

variable {accepted producible : List MediaRange} {selected range other : MediaRange}

instance : Std.TransCmp compareSpecificity :=
  inferInstanceAs <| Std.TransCmp <|
    compareLex (compareOn specificityRank) fun range other =>
      compareOn (fun range => range.quality.rank) other range

theorem mem_candidates : selected ∈ candidates accepted producible ↔
    ∃ range ∈ accepted, ∃ other ∈ producible,
      range.isCompatible other = true ∧ range.mostSpecific other = selected := by
  simp [candidates, and_assoc]

theorem firstConcrete?_eq_some {ranges : List MediaRange}
    (found : firstConcrete? ranges = some selected) :
    (selected ∈ ranges ∧ selected.isConcrete = true) ∨
      (selected = .octetStream ∧ ∃ range ∈ ranges, range.coversOctets = true) := by
  induction ranges with
  | nil => cases found
  | cons head rest inductionHypothesis =>
      simp only [firstConcrete?] at found
      split at found
      · simp only [Option.some.injEq] at found
        subst found
        exact .inl ⟨List.mem_cons_self, by assumption⟩
      · split at found
        · simp only [Option.some.injEq] at found
          exact .inr ⟨found.symm, head, List.mem_cons_self, by assumption⟩
        · rcases inductionHypothesis found with ⟨membership, concrete⟩ | ⟨octets, covering⟩
          · exact .inl ⟨List.mem_cons_of_mem _ membership, concrete⟩
          · obtain ⟨range, membership, covers⟩ := covering
            exact .inr ⟨octets, range, List.mem_cons_of_mem _ membership, covers⟩

/-- What comes first in a sorted list stood before everything that it is as good as, and after
only what it is better than. -/
theorem exists_of_mergeSort_eq_cons {Entry : Type} {before? : Entry → Entry → Bool}
    (transitive : ∀ entry other third : Entry,
      before? entry other = true → before? other third = true → before? entry third = true)
    (total : ∀ entry other : Entry, (before? entry other || before? other entry) = true)
    {first : Entry} {entries rest : List Entry}
    (ordered : entries.mergeSort before? = first :: rest) :
    ∃ earlier later, entries = earlier ++ first :: later ∧
      (∀ other ∈ earlier, before? other first = false) ∧
      ∀ other ∈ later, before? first other = true := by
  induction entries generalizing rest with
  | nil => simp at ordered
  | cons head tail inductionHypothesis =>
      -- the head is sorted in behind everything that it is strictly worse than
      obtain ⟨front, back, whole, without, ahead⟩ :=
        List.mergeSort_cons transitive total head tail
      cases front with
      | nil =>
          obtain ⟨rfl, rfl⟩ : head = first ∧ back = rest := by simpa [ordered] using whole.symm
          have pairwise := List.pairwise_mergeSort transitive total (head :: tail)
          rw [ordered, List.pairwise_cons] at pairwise
          refine ⟨[], tail, rfl, by simp, fun other membership => pairwise.1 other ?_⟩
          rw [← List.nil_append back, ← without]
          exact List.mem_mergeSort.mpr membership
      | cons leader front =>
          obtain ⟨rfl, -⟩ : leader = first ∧ _ := by simpa [ordered] using whole.symm
          obtain ⟨earlier, later, split, worse, asGood⟩ := inductionHypothesis without
          refine ⟨head :: earlier, later, by rw [split, List.cons_append], ?_, asGood⟩
          intro other membership
          rcases List.mem_cons.mp membership with rfl | inEarlier
          · simpa using ahead leader List.mem_cons_self
          · exact worse other inEarlier

theorem compareSpecificity_of_isConcrete (single : range.isConcrete = true)
    (general : other.isConcrete = false) : range.compareSpecificity other = .lt := by
  rw [isConcrete_iff_rank] at single
  rw [← Bool.not_eq_true, isConcrete_iff_rank] at general
  simp [compareSpecificity, single, Nat.compare_eq_lt.mpr (Nat.pos_of_ne_zero general)]

theorem compareSpecificity_eq_compare (single : range.isConcrete = true)
    (alsoSingle : other.isConcrete = true) :
    range.compareSpecificity other = compare other.quality.rank range.quality.rank := by
  rw [isConcrete_iff_rank] at single alsoSingle
  simp [compareSpecificity, single, alsoSingle]

/-- What comes first after sorting stood behind what it is strictly before, and ahead of its
equals. -/
theorem sorted_eq_cons {ranges rest : List MediaRange}
    (ordered : sorted ranges = selected :: rest) :
    ∃ earlier later, ranges = earlier ++ selected :: later ∧
      (∀ other ∈ earlier, other.compareSpecificity selected = .gt) ∧
      ∀ other ∈ later, selected.compareSpecificity other ≠ .gt := by
  have transitive (first second third : MediaRange)
      (before : decide (first.compareSpecificity second ≠ .gt) = true)
      (behind : decide (second.compareSpecificity third ≠ .gt) = true) :
      decide (first.compareSpecificity third ≠ .gt) = true := by
    simp only [decide_eq_true_eq, ← Ordering.isLE_iff_ne_gt] at before behind ⊢
    exact Std.TransCmp.isLE_trans before behind
  have total (first second : MediaRange) :
      (decide (first.compareSpecificity second ≠ .gt) ||
        decide (second.compareSpecificity first ≠ .gt)) = true := by
    have swapped : second.compareSpecificity first =
        (first.compareSpecificity second).swap := Std.OrientedCmp.eq_swap
    rw [swapped]
    cases first.compareSpecificity second <;> rfl
  simpa using exists_of_mergeSort_eq_cons transitive total ordered

/-- Sorting puts a single media type first if there is one. -/
theorem sorted_of_isConcrete {ranges : List MediaRange}
    (single : ∃ range ∈ ranges, range.isConcrete = true) :
    ∃ first rest, sorted ranges = first :: rest ∧ first.isConcrete = true := by
  obtain ⟨range, membership, concrete⟩ := single
  cases listed : sorted ranges with
  | nil =>
      have inSorted : range ∈ sorted ranges := List.mem_mergeSort.mpr membership
      simp [listed] at inSorted
  | cons first rest =>
      refine ⟨first, rest, rfl, ?_⟩
      by_contra general
      obtain ⟨earlier, later, rfl, worse, asGood⟩ := sorted_eq_cons listed
      have behind := compareSpecificity_of_isConcrete concrete (by simpa using general)
      rcases List.mem_append.mp membership with ahead | rest
      · exact absurd (worse range ahead) (by simp [behind])
      · rcases List.mem_cons.mp rest with rfl | inLater
        · exact general concrete
        · exact asGood range inLater (Std.OrientedCmp.gt_of_lt behind)

theorem firstConcrete?_sorted {ranges : List MediaRange}
    (single : ∃ range ∈ ranges, range.isConcrete = true) :
    ∃ first ∈ ranges, first.isConcrete = true ∧
      firstConcrete? (sorted ranges) = some first := by
  obtain ⟨first, rest, listed, concrete⟩ := sorted_of_isConcrete single
  refine ⟨first, ?_, concrete, by simp [listed, firstConcrete?, concrete]⟩
  exact List.mem_mergeSort.mp (by rw [← sorted, listed]; exact List.mem_cons_self)

/-- A negotiated type is a single one among the candidates, or stands for a candidate that covers
octets where no candidate is a single type. -/
theorem negotiate?_eq_some (found : negotiate? accepted producible = some selected) :
    (selected ∈ candidates accepted producible ∧ selected.isConcrete = true) ∨
      (¬ (∃ range ∈ candidates accepted producible, range.isConcrete = true) ∧
        selected = .octetStream ∧
        ∃ range ∈ candidates accepted producible, range.coversOctets = true) := by
  unfold negotiate? at found
  by_cases single : ∃ range ∈ candidates accepted producible, range.isConcrete = true
  · obtain ⟨first, membership, concrete, taken⟩ := firstConcrete?_sorted single
    rw [taken, Option.some.injEq] at found
    exact .inl ⟨found ▸ membership, found ▸ concrete⟩
  · rcases firstConcrete?_eq_some found with
      ⟨membership, concrete⟩ | ⟨octets, range, inSorted, covers⟩
    · exact absurd ⟨selected, List.mem_mergeSort.mp membership, concrete⟩ single
    · exact .inr ⟨single, octets, range, List.mem_mergeSort.mp inSorted, covers⟩

theorem firstConcrete?_eq_none_iff {ranges : List MediaRange} :
    firstConcrete? ranges = none ↔
      ∀ range ∈ ranges, range.isConcrete = false ∧ range.coversOctets = false := by
  induction ranges with
  | nil => simp [firstConcrete?]
  | cons head rest inductionHypothesis =>
      simp only [firstConcrete?, List.forall_mem_cons]
      cases head.isConcrete <;> cases head.coversOctets <;> simp [inductionHypothesis]

/-- Nothing is negotiated where every candidate is general and none covers octets. -/
theorem negotiate?_eq_none_iff :
    negotiate? accepted producible = none ↔
      ∀ candidate ∈ candidates accepted producible,
        candidate.isConcrete = false ∧ candidate.coversOctets = false := by
  rw [negotiate?, firstConcrete?_eq_none_iff]
  exact forall_congr' fun candidate => imp_congr_left List.mem_mergeSort

/-- Nothing is negotiated for ranges exactly if nothing is for any of them alone. -/
theorem negotiate?_eq_none_iff_each :
    negotiate? accepted producible = none ↔
      ∀ range ∈ accepted, negotiate? [range] producible = none := by
  simp only [negotiate?_eq_none_iff, mem_candidates, List.mem_singleton, exists_eq_left]
  constructor
  · rintro general range listed candidate ⟨other, produced⟩
    exact general candidate ⟨range, listed, other, produced⟩
  · rintro general candidate ⟨range, listed, other, produced⟩
    exact general range listed candidate ⟨other, produced⟩

theorem isCompatible_octetStream_of_wildcardType (general : range.isWildcardType = true) :
    octetStream.isCompatible range = true := by
  simp [isCompatible, general]

theorem parts_of_coversOctets (covers : range.coversOctets = true) :
    range.isWildcardType = true ∨
      (range.media.type = "application" ∧ range.media.subtype = "*") := by
  simp only [coversOctets, Bool.or_eq_true, decide_eq_true_eq] at covers
  rcases covers with spelled | spelled
  · left
    have parts := MediaType.eq_of_essence "*" "*" spelled
      (by decide) (by decide)
    simp [isWildcardType, parts.1]
  · right
    exact MediaType.eq_of_essence "application" "*" spelled
      (by decide) (by decide)

/-- Where a candidate covers octets, so does the accepted range that it comes from: a producible
range is the candidate only if the accepted one is still more general. -/
theorem isCompatible_octetStream_of_mostSpecific
    (covers : (range.mostSpecific other).coversOctets = true) :
    octetStream.isCompatible range = true := by
  unfold mostSpecific at covers
  split at covers
  case isTrue =>
    rcases parts_of_coversOctets covers with general | ⟨type, subtype⟩
    · exact isCompatible_octetStream_of_wildcardType general
    · simp [isCompatible, octetStream, ofMedia, MediaType.octetStream, MediaType.bare, type,
        subtype]
  case isFalse behind =>
    apply isCompatible_octetStream_of_wildcardType
    apply isWildcardType_of_rank
    have ranked : 1 ≤ other.specificityRank := by
      rcases parts_of_coversOctets covers with general | ⟨-, subtype⟩
      · have : other.isWildcardType = true := general
        simp [specificityRank, this]
      · have wildcard : other.isWildcardSubtype = true := isWildcardSubtype_of_subtype subtype
        unfold specificityRank
        split
        · omega
        · simp
    omega

/-- Where a candidate covers octets, so does the producible range that it comes from, unless that
is a wildcard before a suffix and the client accepts all subtypes. -/
theorem isCompatible_octetStream_or_suffixed (compatible : range.isCompatible other = true)
    (covers : (range.mostSpecific other).coversOctets = true) :
    octetStream.isCompatible other = true ∨
      (range.media.type = "application" ∧ range.media.subtype = "*" ∧
        other.media.type = "application" ∧ other.isWildcardSubtype = true ∧
        other.media.suffix?.isSome = true) := by
  by_cases general : other.isWildcardType = true
  · exact .inl (isCompatible_octetStream_of_wildcardType general)
  unfold mostSpecific at covers
  split at covers
  case isFalse =>
    rcases parts_of_coversOctets covers with everything | ⟨type, subtype⟩
    · exact absurd everything general
    · left
      have type : other.media.type = "application" := type
      have subtype : other.media.subtype = "*" := subtype
      simp [isCompatible, octetStream, ofMedia, MediaType.octetStream, MediaType.bare, type,
        subtype]
  case isTrue ordered =>
    rcases parts_of_coversOctets covers with everything | ⟨type, subtype⟩
    · refine absurd (isWildcardType_of_rank ?_) general
      simpa [specificityRank, everything] using ordered
    · have typed : range.isWildcardType = false := by simp [isWildcardType, type]
      have wildcard : range.isWildcardSubtype = true := isWildcardSubtype_of_subtype subtype
      have otherWildcard : other.isWildcardSubtype = true := by
        by_contra single
        simp [specificityRank, typed, wildcard, general, single] at ordered
      have otherType : other.media.type = "application" := by
        by_contra apart
        simp [isCompatible, typed, general, type, Ne.symm apart] at compatible
      cases suffixed : other.media.suffix? with
      | some suffix => exact .inr ⟨type, subtype, otherType, otherWildcard, by simp⟩
      | none =>
          left
          have otherSubtype : other.media.subtype = "*" := by
            rw [← MediaType.base_eq_subtype suffixed]
            simpa [isWildcardSubtype] using otherWildcard
          simp [isCompatible, octetStream, ofMedia, MediaType.octetStream, MediaType.bare,
            otherType, otherSubtype]

end MediaRange

end Switchyard.Media
