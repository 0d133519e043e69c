import Mathlib.Data.Nat.Periodic
import Switchyard.Serving.Sampling

/-!
# Which requests a gate lets through

Every call of a gate sees the count that the call before it left, whoever makes it.  The mask picks
the multiples of the interval, so that after the threshold one in as many calls as the interval says
is let through.
-/

set_option autoImplicit false

namespace Switchyard.Serving.Gate

variable {interval count : UInt64} {threshold : Int64} {gate : Gate}

/-- The distance between requests that are let through after the threshold: the interval asked for
if it is a power of two, and eight otherwise. -/
def period (interval : UInt64) : Nat :=
  if interval.toNat.isPowerOfTwo then interval.toNat else 8

theorem exists_period (interval : UInt64) : ∃ exponent, period interval = 2 ^ exponent := by
  unfold period
  split
  case isTrue power => exact power
  case isFalse => exact ⟨3, rfl⟩

theorem period_pos (interval : UInt64) : 0 < period interval := by
  obtain ⟨exponent, power⟩ := exists_period interval
  exact power ▸ Nat.two_pow_pos exponent

theorem toNat_sub_one {word : UInt64} (positive : 0 < word.toNat) :
    (word - 1).toNat = word.toNat - 1 :=
  UInt64.toNat_sub_of_le word 1 (UInt64.le_iff_toNat_le.mpr positive)

theorem isPowerOfTwo_iff {word : UInt64} :
    isPowerOfTwo word = true ↔ word.toNat.isPowerOfTwo := by
  rw [← Nat.ne_zero_and_sub_one_eq_zero_iff_isPowerOfTwo]
  rcases Nat.eq_zero_or_pos word.toNat with zero | positive
  · have none : word = 0 := UInt64.toNat_inj.mp zero
    simp [isPowerOfTwo, none]
  · simp [isPowerOfTwo, ← UInt64.toNat_inj, toNat_sub_one positive]

theorem toNat_interval : (ofInterval interval threshold).interval.toNat = period interval := by
  simp only [ofInterval, period, isPowerOfTwo_iff]
  split <;> rfl

/-- The mask takes the remainder. -/
theorem toNat_masked : (count &&& ((ofInterval interval threshold).interval - 1)).toNat =
    count.toNat % period interval := by
  obtain ⟨exponent, power⟩ := exists_period interval
  have positive : 0 < (ofInterval interval threshold).interval.toNat := by
    rw [toNat_interval]
    exact period_pos interval
  rw [UInt64.toNat_and, toNat_sub_one positive, toNat_interval, power,
    Nat.and_two_pow_sub_one_eq_mod]

theorem lets_iff : (ofInterval interval threshold).lets count = true ↔
    threshold.toInt < 0 ∨ (count.toNat : Int) < threshold.toInt ∨
      count.toNat % period interval = 0 := by
  have masked : count &&& ((ofInterval interval threshold).interval - 1) = 0 ↔
      count.toNat % period interval = 0 := by
    rw [← UInt64.toNat_inj, toNat_masked]
    rfl
  have below (counted : 0 ≤ threshold.toInt) : count < threshold.toUInt64 ↔
      (count.toNat : Int) < threshold.toInt := by
    have natural : 0 ≤ threshold := Int64.le_iff_toInt_le.mpr counted
    rw [UInt64.lt_iff_toNat_lt, Int64.toNat_toUInt64_of_le natural,
      ← Int64.cast_toNatClampNeg threshold natural, Nat.cast_lt]
  have kept : (ofInterval interval threshold).threshold = threshold := rfl
  simp only [lets, Bool.or_eq_true, decide_eq_true_eq, beq_iff_eq, masked, or_assoc, kept]
  rw [Int64.lt_iff_toInt_lt, Int64.toInt_zero]
  rcases Int.lt_or_le threshold.toInt 0 with negative | counted
  · simp [negative]
  · rw [below counted]

/-- A call of a gate: the count that it saw, and whether it let a request through. -/
structure Draw where
  seen : UInt64
  sampled : Bool

/-- The draws of calls one after another, and the gate after them. -/
def run (gate : Gate) : Nat → List Draw × Gate
  | 0 => ([], gate)
  | calls + 1 =>
      let (sampled, next) := gate.next
      let (draws, last) := next.run calls
      (⟨gate.count, sampled⟩ :: draws, last)

theorem run_eq (gate : Gate) (calls : Nat) : gate.run calls =
    ((List.range calls).map fun k =>
        ⟨gate.count + .ofNat k, gate.lets (gate.count + .ofNat k)⟩,
      { gate with count := gate.count + .ofNat calls }) := by
  induction calls generalizing gate with
  | zero => simp [run]
  | succ calls inductionHypothesis =>
      have later (k : Nat) : gate.count + 1 + .ofNat k = gate.count + .ofNat (k + 1) := by
        rw [UInt64.ofNat_add, UInt64.add_assoc, UInt64.add_comm 1]
        rfl
      simp only [run, next, inductionHypothesis, List.range_succ_eq_map, List.map_cons,
        List.map_map, later]
      simp [lets, Function.comp_def]

/-- Of as many consecutive numbers as a positive number says, one is a multiple of it. -/
theorem countP_multiples {size : Nat} (positive : 0 < size) (start : Nat) :
    (List.range' start size).countP (fun k => k % size = 0) = 1 := by
  have counted := Nat.filter_multiset_Ico_card_eq_of_periodic start size (fun k => k % size = 0)
    (fun k => by simp)
  have first : size.count (fun k => k % size = 0) = 1 := by
    have only : {k ∈ Finset.range size | k % size = 0} = {0} := by
      ext k
      simp only [Finset.mem_filter, Finset.mem_range, Finset.mem_singleton]
      constructor
      · rintro ⟨less, multiple⟩
        rwa [Nat.mod_eq_of_lt less] at multiple
      · rintro rfl
        exact ⟨positive, Nat.zero_mod size⟩
    rw [Nat.count_eq_card_filter_range, only, Finset.card_singleton]
  have listed : Multiset.Ico start (start + size) = (List.range' start size : Multiset Nat) := by
    change (List.range' start (start + size - start) : Multiset Nat) = _
    rw [Nat.add_sub_cancel_left]
  rwa [first, ← Multiset.countP_eq_card_filter, listed, Multiset.coe_countP] at counted

/-- Fewer calls of a new gate than there are words see the numbers from zero on, each once and in
their order, and the gate counts the calls.  A call is let through exactly if the threshold is
negative, or its number is below the threshold or a multiple of the period; so of as many calls in a
row as the period says, none of them below a threshold that is not negative, one is let through. -/
theorem run_samples (interval : UInt64) (threshold : Int64) {calls : Nat}
    (bounded : calls < 2 ^ 64) :
    let (draws, last) := (ofInterval interval threshold).run calls
    draws.map (fun draw => draw.seen.toNat) = List.range calls ∧
      (∀ draw ∈ draws, draw.sampled = true ↔
        threshold.toInt < 0 ∨ (draw.seen.toNat : Int) < threshold.toInt ∨
          draw.seen.toNat % period interval = 0) ∧
      (∀ start : Nat, 0 ≤ threshold.toInt → threshold.toInt ≤ start →
        start + period interval ≤ calls →
        ((draws.drop start).take (period interval)).countP Draw.sampled = 1) ∧
      last.count.toNat = calls := by
  have none (k : Nat) : (ofInterval interval threshold).count + .ofNat k = .ofNat k :=
    UInt64.zero_add _
  have small {k : Nat} (within : k < calls) : (UInt64.ofNat k).toNat = k :=
    UInt64.toNat_ofNat_of_lt' (within.trans bounded)
  simp only [run_eq, none]
  refine ⟨?_, ?_, ?_, UInt64.toNat_ofNat_of_lt' bounded⟩
  · rw [List.map_map]
    refine (List.map_congr_left fun k within => ?_).trans (List.map_id _)
    exact small (List.mem_range.mp within)
  · intro draw membership
    obtain ⟨k, -, rfl⟩ := List.mem_map.mp membership
    exact lets_iff
  · intro start counted above within
    have window : ((List.range calls).drop start).take (period interval) =
        List.range' start (period interval) := by
      rw [List.range_eq_range', List.drop_range', List.take_range'_of_length_ge (by omega)]
      simp
    rw [← List.map_drop, ← List.map_take, window, List.countP_map]
    refine (List.countP_congr fun k inWindow => ?_).trans
      (countP_multiples (period_pos interval) start)
    obtain ⟨reached, less⟩ := List.mem_range'_1.mp inWindow
    have seen : (UInt64.ofNat k).toNat = k := small (by omega)
    simp only [Function.comp_apply, lets_iff, seen, decide_eq_true_eq]
    omega

theorem run_samples_of_four :
    10 < 2 ^ 64 ∧ (0 : Int) ≤ (2 : Int64).toInt ∧ (2 : Int64).toInt ≤ (3 : Nat) ∧
      3 + period 4 ≤ 10 ∧
      let (draws, last) := (ofInterval 4 2).run 10
      draws.map Draw.sampled =
          [true, true, false, false, true, false, false, false, true, false] ∧
        ((draws.drop 3).take (period 4)).countP Draw.sampled = 1 ∧ last.count.toNat = 10 := by
  have bounded : 10 < 2 ^ 64 := by decide
  obtain ⟨-, -, window, counted⟩ := run_samples 4 2 bounded
  have within : 3 + period 4 ≤ 10 := by decide
  exact ⟨bounded, by decide, by decide, within, by decide,
    window 3 (by decide) (by decide) within, counted⟩

end Switchyard.Serving.Gate
