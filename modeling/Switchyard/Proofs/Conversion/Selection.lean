import Switchyard.Conversion.Registry
import Switchyard.Proofs.Media.Negotiation

/-!
# The media type that is selected

Selecting sorts the candidates and scans what comes of it.  It comes to the first of the single
media types of most weight among the candidates, in the order in which they stand.
-/

set_option autoImplicit false

namespace Switchyard.Media.MediaRange

variable {accepted producible ranges : List MediaRange} {selected : MediaRange}

/-- Whether a range is the first of most weight among the single media types of a list: those
before it have less, and those after it no more. -/
def Foremost (ranges : List MediaRange) (selected : MediaRange) : Prop :=
  ∃ earlier later,
    ranges.filter isConcrete = earlier ++ selected :: later ∧
      (∀ other ∈ earlier, other.quality.rank < selected.quality.rank) ∧
      ∀ other ∈ later, other.quality.rank ≤ selected.quality.rank

theorem Foremost.mem (foremost : Foremost ranges selected) :
    selected ∈ ranges ∧ selected.isConcrete = true := by
  obtain ⟨earlier, later, single, -⟩ := foremost
  exact List.mem_filter.mp (by rw [single]; simp)

/-- Sorting keeps the order of equals, so that it puts first what a scan for the most weight
finds. -/
theorem foremost_of_sorted {rest : List MediaRange} (listed : sorted ranges = selected :: rest)
    (concrete : selected.isConcrete = true) : Foremost ranges selected := by
  obtain ⟨earlier, later, rfl, worse, asGood⟩ := sorted_eq_cons listed
  refine ⟨earlier.filter isConcrete, later.filter isConcrete, by simp [concrete], ?_, ?_⟩
  · intro other membership
    obtain ⟨inEarlier, single⟩ := List.mem_filter.mp membership
    have behind := worse other inEarlier
    rwa [compareSpecificity_eq_compare single concrete, Nat.compare_eq_gt] at behind
  · intro other membership
    obtain ⟨inLater, single⟩ := List.mem_filter.mp membership
    have ahead := asGood other inLater
    rwa [compareSpecificity_eq_compare concrete single, Nat.compare_ne_gt] at ahead

theorem negotiate?_of_isConcrete
    (single : ∃ range ∈ candidates accepted producible, range.isConcrete = true) :
    ∃ selected, negotiate? accepted producible = some selected ∧
      Foremost (candidates accepted producible) selected := by
  obtain ⟨first, rest, listed, concrete⟩ := sorted_of_isConcrete single
  refine ⟨first, ?_, foremost_of_sorted listed concrete⟩
  simp [negotiate?, listed, firstConcrete?, concrete]

theorem negotiate?_of_general
    (general : ∀ range ∈ candidates accepted producible, range.isConcrete = false) :
    negotiate? accepted producible =
      if (candidates accepted producible).any coversOctets then some .octetStream else none := by
  split
  case isTrue covering =>
    cases negotiated : negotiate? accepted producible with
    | none =>
        obtain ⟨range, membership, covers⟩ := List.any_eq_true.mp covering
        simp [(negotiate?_eq_none_iff.mp negotiated range membership).2] at covers
    | some selected =>
        rcases negotiate?_eq_some negotiated with ⟨membership, single⟩ | ⟨-, rfl, -⟩
        · simp [general selected membership] at single
        · rfl
  case isFalse uncovered =>
    refine negotiate?_eq_none_iff.mpr fun range membership => ⟨general range membership, ?_⟩
    simpa using fun covers => uncovered (List.any_eq_true.mpr ⟨range, membership, covers⟩)

end Switchyard.Media.MediaRange

namespace Switchyard.Conversion.Registry

open Media (MediaRange)
open Media.MediaRange (candidates Foremost)

variable {accepted producible : List MediaRange}

theorem choose_of_isConcrete
    (single : ∃ range ∈ candidates accepted producible, range.isConcrete = true) :
    ∃ selected, choose accepted producible = .ok selected ∧
      Foremost (candidates accepted producible) selected := by
  obtain ⟨selected, negotiated, foremost⟩ := MediaRange.negotiate?_of_isConcrete single
  exact ⟨selected, by simp only [choose, negotiated], foremost⟩

theorem choose_of_general
    (general : ∀ range ∈ candidates accepted producible, range.isConcrete = false) :
    choose accepted producible =
      if (candidates accepted producible).any MediaRange.coversOctets then .ok .octetStream
      else .error (.notAcceptable (MediaRange.join producible)) := by
  rw [choose, MediaRange.negotiate?_of_general general]
  cases (candidates accepted producible).any MediaRange.coversOctets <;> rfl

/-- A candidate that is a single media type is selected exactly if there is one, and then it is the
foremost one.  Without one, octets are selected exactly if some candidate is a wildcard that covers
them, and otherwise the refusal lists what can be produced. -/
theorem choose_spec (accepted producible : List MediaRange) :
    ((∃ selected ∈ candidates accepted producible, selected.isConcrete = true ∧
          choose accepted producible = .ok selected) ↔
        ∃ range ∈ candidates accepted producible, range.isConcrete = true) ∧
      ((∃ range ∈ candidates accepted producible, range.isConcrete = true) →
        ∃ selected, choose accepted producible = .ok selected ∧
          Foremost (candidates accepted producible) selected) ∧
      ((∀ range ∈ candidates accepted producible, range.isConcrete = false) →
        (choose accepted producible = .ok .octetStream ↔
            ∃ range ∈ candidates accepted producible,
              range.media.essence = "*/*" ∨ range.media.essence = "application/*") ∧
          (choose accepted producible ≠ .ok .octetStream →
            choose accepted producible =
              .error (.notAcceptable (MediaRange.join producible)))) := by
  refine ⟨⟨?_, fun single => ?_⟩, choose_of_isConcrete, fun general => ?_⟩
  · rintro ⟨selected, membership, concrete, -⟩
    exact ⟨selected, membership, concrete⟩
  · obtain ⟨selected, chosen, foremost⟩ := choose_of_isConcrete single
    exact ⟨selected, foremost.mem.1, foremost.mem.2, chosen⟩
  · have covering : (candidates accepted producible).any MediaRange.coversOctets = true ↔
        ∃ range ∈ candidates accepted producible,
          range.media.essence = "*/*" ∨ range.media.essence = "application/*" := by
      simp [MediaRange.coversOctets]
    rw [choose_of_general general, ← covering]
    cases (candidates accepted producible).any MediaRange.coversOctets <;> simp

end Switchyard.Conversion.Registry
