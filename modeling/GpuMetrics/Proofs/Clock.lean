import GpuMetrics.Command.Supervision
import Mathlib

/-!
# Clocks that round

A watch adds a limit to a reading of its clock, takes a reading from the sum and compares. What it
needs of this arithmetic is little: sums and differences may be rounded in any way, as long as they
are numbers, and numbers are in order (`LawfulTime`). Exact seconds keep to that at once.

For binary numbers it goes bottom up through their model. A number is packed and unpacked as a
number (`isNaN_unpack_pack`), so sums and differences with a finite reading are numbers
(`isNaN_add`, `isNaN_sub`). Numbers compare as their ranks do, which are triples of whole numbers in
dictionary order (`compare_eq`), so their order is transitive and any two of them are in order.
-/

namespace GpuMetrics.Supervision

/-- The laws of a clock's arithmetic, whatever its rounding. -/
class LawfulTime (τ : Type) [Time τ] where
  /-- The times that are in order with each other. -/
  IsNumber : τ → Prop
  /-- The times that a clock can show. -/
  IsReading : τ → Prop
  /-- A number after a reading is a number. -/
  isNumber_add {t limit : τ} : IsReading t → IsNumber limit → IsNumber (Time.add t limit)
  /-- The time between a reading and a number is a number. -/
  isNumber_sub {d t : τ} : IsNumber d → IsReading t → IsNumber (Time.sub d t)
  /-- No time is a number. -/
  isNumber_zero : IsNumber (Time.zero : τ)
  /-- The poll interval is a number. -/
  isNumber_pollInterval : IsNumber (Time.pollInterval : τ)
  /-- The poll interval is not below zero. -/
  zero_le_pollInterval : Time.atMost (Time.zero : τ) Time.pollInterval = true
  /-- What is less is at most. -/
  atMost_of_less {a b : τ} : Time.less a b = true → Time.atMost a b = true
  /-- Of two numbers, one is less than the other or the other is at most the one. -/
  atMost_of_not_less {a b : τ} :
    IsNumber a → IsNumber b → Time.less b a = false → Time.atMost a b = true
  /-- The order is transitive. -/
  atMost_trans {a b c : τ} :
    Time.atMost a b = true → Time.atMost b c = true → Time.atMost a c = true

/-! ## How long a round lasts -/

section Rounds

open LawfulTime

variable {τ : Type} [Time τ] [LawfulTime τ] {a b d t : τ}

/-- A number is at most itself. -/
theorem atMost_refl (h : IsNumber a) : Time.atMost a a = true := by
  cases hless : Time.less a a with
  | true => exact atMost_of_less hless
  | false => exact atMost_of_not_less h h hless

/-- The shorter of two times is at most the first. -/
theorem shorter_atMost_left (ha : IsNumber a) (b : τ) : Time.atMost (shorter a b) a = true := by
  rw [shorter]
  split
  next hless => exact atMost_of_less hless
  next => exact atMost_refl ha

/-- The shorter of two times is at most the second. -/
theorem shorter_atMost_right (ha : IsNumber a) (hb : IsNumber b) :
    Time.atMost (shorter a b) b = true := by
  rw [shorter]
  split
  next => exact atMost_refl hb
  next hless => exact atMost_of_not_less ha hb (Bool.not_eq_true _ ▸ hless)

/-- What is left until a deadline is not negative. -/
theorem zero_atMost_remaining (hd : IsNumber d) (ht : IsReading t) :
    Time.atMost Time.zero (remaining d t) = true := by
  rw [remaining]
  split
  next => exact atMost_refl isNumber_zero
  next hless =>
    exact atMost_of_not_less isNumber_zero (isNumber_sub hd ht) (Bool.not_eq_true _ ▸ hless)

/-- What is left until a deadline is a number. -/
theorem isNumber_remaining (hd : IsNumber d) (ht : IsReading t) : IsNumber (remaining d t) := by
  rw [remaining]
  split
  next => exact isNumber_zero
  next => exact isNumber_sub hd ht

/-- What is left until a deadline is at most the time between a reading and the deadline, or it is
nothing. -/
theorem remaining_atMost (hd : IsNumber d) (ht : IsReading t) :
    Time.atMost (remaining d t) (Time.sub d t) = true ∨
      Time.atMost (remaining d t) Time.zero = true := by
  rw [remaining]
  split
  next => exact .inr (atMost_refl isNumber_zero)
  next => exact .inl (atMost_refl (isNumber_sub hd ht))

/-- The shorter of the poll interval and what is left until a deadline is not negative. -/
theorem zero_atMost_shorter (hd : IsNumber d) (ht : IsReading t) :
    Time.atMost Time.zero (shorter Time.pollInterval (remaining d t)) = true := by
  rw [shorter]
  split
  next => exact zero_atMost_remaining hd ht
  next => exact zero_le_pollInterval

end Rounds

/-! ## Exact seconds -/

instance : LawfulTime Rat where
  IsNumber _ := True
  IsReading _ := True
  isNumber_add _ _ := trivial
  isNumber_sub _ _ := trivial
  isNumber_zero := trivial
  isNumber_pollInterval := trivial
  zero_le_pollInterval := by decide +kernel
  atMost_of_less h := decide_eq_true (Rat.le_of_lt (of_decide_eq_true h))
  atMost_of_not_less _ _ h := decide_eq_true (Rat.not_lt.mp (of_decide_eq_false h))
  atMost_trans hab hbc := decide_eq_true (Rat.le_trans (of_decide_eq_true hab)
    (of_decide_eq_true hbc))

/-! ## Binary numbers -/

namespace Binary

open Float.Model (Format UnpackedFloat)
open Float.Model.UnpackedFloat

variable {spec : Format}

/-- A packed number that is none has the largest exponent, and a mantissa. -/
theorem isNaN_unpack_iff (b : BitVec spec.numBits) :
    (unpack spec b).isNaN = true ↔ unpackExponent b = (-1#_) ∧ unpackMantissa b ≠ 0#_ := by
  fun_cases unpack with
  | case1 mantissa exponent sign s hexponent hmantissa =>
    exact iff_of_false Bool.false_ne_true fun h => h.2 hmantissa
  | case2 mantissa exponent hexponent hmantissa => exact iff_of_true rfl ⟨hexponent, hmantissa⟩
  | case3 mantissa exponent sign s hexponent | case4 mantissa exponent e sign s hexponent
  | case5 mantissa exponent e sign s hexponent =>
    exact iff_of_false Bool.false_ne_true fun h => hexponent h.1

/-- A number is a number after it was packed. -/
theorem isNaN_unpack_pack {f : UnpackedFloat} (h : f.isNaN = false) :
    (unpack spec (pack spec f)).isNaN = false := by
  rw [← Bool.not_eq_true, isNaN_unpack_iff, not_and_not_right]
  fun_cases pack with
  | case1 => cases h
  | case2 s => simp [packedInfinity]
  | case3 s => simp [packedZero]
  | case4 s m e hm biased hbiased =>
    -- Too large for its format, it is packed as an infinity.
    simp [packedInfinity]
  | case5 s m e hm bits biased hbiased hbits =>
    rw [unpackExponent_packComponents]
    intro hexponent
    have hlt : biased < 2 ^ spec.exponentBits := by omega
    rw [BitVec.neg_one_eq_allOnes, ← BitVec.toNat_inj, BitVec.toNat_ofNat, BitVec.toNat_allOnes,
      Nat.mod_eq_of_lt hlt] at hexponent
    omega
  | case6 s m e hm bits biased hbiased hbits =>
    simp [Nat.pos_iff_ne_zero.1 spec.he]

/-- What is rounded is a number. -/
theorem isNaN_round (s : Sign) (m : Nat) (e : Int) :
    (UnpackedFloat.round spec s m e).isNaN = false := by
  unfold UnpackedFloat.round roundWithAccuracy
  dsimp only
  split
  · rfl
  · rfl

/-- What is brought to a format is a number. -/
theorem isNaN_normalize (m e : Int) (s : Sign) :
    (UnpackedFloat.normalize spec m e s).isNaN = false := by
  unfold UnpackedFloat.normalize
  split
  · exact isNaN_round ..
  · rfl
  · exact isNaN_round ..

/-- The sum of a finite number and a number is a number. -/
theorem isNaN_add {a b : UnpackedFloat} (ha : a.isFinite = true) (hb : b.isNaN = false) :
    (add spec a b).isNaN = false := by
  cases a with
  | notANumber | infinity => cases ha
  | zero s =>
    cases b with
    | notANumber => cases hb
    | zero s' => cases s <;> cases s' <;> rfl
    | _ => rfl
  | finite s m e =>
    cases b with
    | notANumber => cases hb
    -- Only here is anything rounded.
    | finite s' m' e' => exact isNaN_normalize ..
    | _ => rfl

/-- The difference of a number and a finite number is a number. -/
theorem isNaN_sub {a b : UnpackedFloat} (ha : a.isNaN = false) (hb : b.isFinite = true) :
    (sub spec a b).isNaN = false := by
  cases b with
  | notANumber | infinity => cases hb
  | zero s =>
    cases a with
    | notANumber => cases ha
    | zero s' => cases s <;> cases s' <;> rfl
    | _ => rfl
  | finite s m e =>
    cases a with
    | notANumber => cases ha
    | finite s' m' e' => exact isNaN_normalize ..
    | _ => rfl

/-- The place of a number among the numbers: what kind it is of, its exponent and its mantissa. Both
zeros have one place. -/
def rank : UnpackedFloat → ℤ ×ₗ ℤ ×ₗ ℤ
  | .infinity .negative => toLex (-2, toLex (0, 0))
  | .finite .negative m e _ => toLex (-1, toLex (-e, -m))
  | .notANumber | .zero _ => toLex (0, toLex (0, 0))
  | .finite .positive m e _ => toLex (1, toLex (e, m))
  | .infinity .positive => toLex (2, toLex (0, 0))

/-- Whole numbers compare as they do among the integers. -/
theorem compare_natCast (m n : ℕ) : compare (m : ℤ) (n : ℤ) = compare m n := by
  rw [Int.compare_eq_ite_lt, Nat.compare_eq_ite_lt]
  simp only [Int.ofNat_lt]

/-- With their signs turned, integers compare the other way. -/
theorem compare_neg (a b : ℤ) : compare (-a) (-b) = (compare a b).swap := by
  rw [← Std.OrientedCmp.eq_swap, Int.compare_eq_ite_lt, Int.compare_eq_ite_lt]
  simp only [Int.neg_lt_neg_iff]

/-- Numbers compare as their ranks do. -/
theorem compare_eq {a b : UnpackedFloat} (ha : a.isNaN = false) (hb : b.isNaN = false) :
    a.compare b = some (compare (rank a) (rank b)) := by
  cases a with
  | notANumber => cases ha
  | infinity s =>
    cases b with
    | notANumber => cases hb
    | _ s' => cases s <;> cases s' <;> rfl
  | zero s =>
    cases b with
    | notANumber => cases hb
    | _ s' => cases s <;> cases s' <;> rfl
  | finite s m e =>
    cases b with
    | notANumber => cases hb
    | infinity s' | zero s' => cases s <;> cases s' <;> rfl
    | finite s' m' e' =>
      -- Only for two finite numbers of one sign do exponents and mantissas count.
      cases s with
      | negative =>
        cases s' with
        | positive => rfl
        | negative =>
          show some ((compare e e').then (compare m m')).swap =
            some ((compare (-e) (-e')).then (compare (-(m : ℤ)) (-(m' : ℤ))))
          rw [compare_neg, compare_neg, compare_natCast, Ordering.swap_then]
      | positive =>
        cases s' with
        | negative => rfl
        | positive =>
          show some ((compare e e').then (compare m m')) =
            some ((compare e e').then (compare (m : ℤ) (m' : ℤ)))
          rw [compare_natCast]

/-- Only numbers can be compared. -/
theorem isNaN_of_compare {a b : UnpackedFloat} {o : Ordering} (h : a.compare b = some o) :
    a.isNaN = false ∧ b.isNaN = false := by
  cases a with
  | notANumber => cases h
  | _ =>
    refine ⟨rfl, ?_⟩
    cases b with
    | notANumber => cases h
    | _ => rfl

/-- What is at most something are numbers up to a rank. -/
theorem le_iff {a b : UnpackedFloat} :
    a.le b = true ↔ (a.isNaN = false ∧ b.isNaN = false) ∧ rank a ≤ rank b := by
  have hrank (h : a.isNaN = false ∧ b.isNaN = false) : a.le b = true ↔ rank a ≤ rank b := by
    rw [UnpackedFloat.le, compare_eq h.1 h.2, Option.any_some, ← Ordering.ne_gt_iff_isLE,
      compare_gt_iff_gt, not_lt]
  refine ⟨fun h => ?_, fun h => (hrank h.1).mpr h.2⟩
  obtain ⟨o, ho, -⟩ := (Option.any_eq_true ..).mp h
  have hnumbers := isNaN_of_compare ho
  exact ⟨hnumbers, (hrank hnumbers).mp h⟩

/-- What is less than something are numbers below a rank. -/
theorem lt_iff {a b : UnpackedFloat} :
    a.lt b = true ↔ (a.isNaN = false ∧ b.isNaN = false) ∧ rank a < rank b := by
  have hrank (h : a.isNaN = false ∧ b.isNaN = false) : a.lt b = true ↔ rank a < rank b := by
    rw [UnpackedFloat.lt, compare_eq h.1 h.2, beq_iff_eq, Option.some.injEq, compare_lt_iff_lt]
  refine ⟨fun h => ?_, fun h => (hrank h.1).mpr h.2⟩
  have hnumbers := isNaN_of_compare (beq_iff_eq.mp h)
  exact ⟨hnumbers, (hrank hnumbers).mp h⟩

/-- What is not above something is at most that. -/
theorem le_of_lt_eq_false {a b : UnpackedFloat} (ha : a.isNaN = false) (hb : b.isNaN = false)
    (h : b.lt a = false) : a.le b = true := by
  refine le_iff.mpr ⟨⟨ha, hb⟩, not_lt.mp fun hrank => ?_⟩
  rw [lt_iff.mpr ⟨⟨hb, ha⟩, hrank⟩] at h
  cases h

/-- Binary seconds are in order as their unpacked forms are. -/
theorem atMost_eq (a b : Float) :
    Time.atMost a b = a.toModel.unpack.le b.toModel.unpack := by
  show decide (decide (a.toModel.unpack.le b.toModel.unpack = true) = true) = _
  rw [Bool.decide_eq_true, Bool.decide_eq_true]

/-- Binary seconds are less than others as their unpacked forms are. -/
theorem less_eq (a b : Float) : Time.less a b = a.toModel.unpack.lt b.toModel.unpack := by
  show decide (decide (a.toModel.unpack.lt b.toModel.unpack = true) = true) = _
  rw [Bool.decide_eq_true, Bool.decide_eq_true]

end Binary

open Binary in
/-- A reading is finite. A limit is a number, and may be infinite. -/
instance : LawfulTime Float where
  IsNumber x := x.isNaN = false
  IsReading x := x.isFinite = true
  isNumber_add ht hlimit := isNaN_unpack_pack (isNaN_add ht hlimit)
  isNumber_sub hd ht := isNaN_unpack_pack (isNaN_sub hd ht)
  isNumber_zero := by decide +kernel
  isNumber_pollInterval := by decide +kernel
  zero_le_pollInterval := by decide +kernel
  atMost_of_less {a b} h := by
    rw [less_eq, lt_iff] at h
    rw [atMost_eq, le_iff]
    exact ⟨h.1, h.2.le⟩
  atMost_of_not_less {a b} ha hb h := by
    rw [less_eq] at h
    rw [atMost_eq]
    exact le_of_lt_eq_false ha hb h
  atMost_trans {a b c} hab hbc := by
    rw [atMost_eq, le_iff] at *
    exact ⟨⟨hab.1.1, hbc.1.2⟩, hab.2.trans hbc.2⟩

end GpuMetrics.Supervision
