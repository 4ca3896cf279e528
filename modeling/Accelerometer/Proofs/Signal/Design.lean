import Accelerometer.Proofs.Double.Comparison
import Accelerometer.Signal.LowPassSpec

/-!
# Designed coefficients

The coefficients of a filter are taps over their sum. The taps are small doubles whatever the
specification, but their sum may be as small as zero.

* `within_sinc`, `within_hamming`: the factors of a tap.
* `within_unscaledTaps`: the taps.
* `valid_spec_designed`: the coefficients.
-/

namespace Accelerometer.Proofs.Signal
open Accelerometer.Signal Proofs.Double

variable {α : Type} {sin cos : Float → Float} {x : Float} {k : Int} {taps : Nat}
  {spec : LowPassSpec}

@[reducible] def doublesWith (sin cos : Float → Float) : Arithmetic Float :=
  { (inferInstance : Arithmetic Float) with
    sin := sin
    cos := cos }

def designWith (sin cos : Float → Float) (spec : LowPassSpec) : Except InvalidSpec (List Float) := do
  spec.validate
  return @lowPass Float (doublesWith sin cos) spec.taps spec.cutoff spec.rate

def gainWith (sin cos : Float → Float) (spec : LowPassSpec) : Float :=
  @total Float (doublesWith sin cos)
    (@unscaledTaps Float (doublesWith sin cos) spec.taps (spec.cutoff / nyquist spec.rate))

/-- What is used of the sine and the cosine: neither is too large. -/
structure Circular (sin cos : Float → Float) : Prop where
  sin_le : ∀ x, x.isFinite = true → (sin x).abs ≤ x.abs
  cos_le : ∀ x, x.isFinite = true → (cos x).abs ≤ 1.0

def leastNormal : Float :=
  Float.ofBits 0x0010000000000000

/-! ## Specifications -/

theorem validate_eq_ok : spec.validate = .ok () ↔
    spec.taps ≠ 0 ∧ (spec.rate.isFinite ∧ 0.0 < spec.rate) ∧
      0.0 < spec.cutoff ∧ spec.cutoff < nyquist spec.rate := by
  simp only [LowPassSpec.validate]
  split_ifs <;> simp_all

theorem designWith_of_validate (accepted : spec.validate = .ok ()) :
    designWith sin cos spec =
      .ok (@lowPass Float (doublesWith sin cos) spec.taps spec.cutoff spec.rate) := by
  rw [designWith, accepted]
  rfl

/-! ## Taps -/

theorem length_hamming [Arithmetic α] (taps : Nat) : (hamming (α := α) taps).length = taps := by
  rw [hamming]
  split
  · rename_i one
    exact one.symm
  · rw [List.length_map, List.length_range]

theorem length_unscaledTaps [Arithmetic α] (taps : Nat) (cutoff : α) :
    (unscaledTaps taps cutoff).length = taps := by
  rw [unscaledTaps, List.length_map, List.length_zipIdx, length_hamming]

theorem within_pi : Within 2 3.141592653589793 := by
  decide

theorem beyond_pi : Beyond 1 3.141592653589793 := by
  decide

theorem within_sinc (circular : Circular sin cos) (within : Within k x) (least : -1074 ≤ k)
    (small : 2 + k ≤ 1023) : Within 0 (@sinc Float (doublesWith sin cos) x) := by
  show Within 0 (if (x == 0.0) = true then 1.0
    else sin (3.141592653589793 * x) / (3.141592653589793 * x))
  split
  · decide
  · rename_i nonzero
    have within' : Within (2 + k) (3.141592653589793 * x) :=
      within_mul within_pi within (by omega) small
    have beyond : Beyond (1 + -1074) (3.141592653589793 * x) :=
      beyond_mul within_pi within beyond_pi (beyond_of_nonzero within nonzero) (by decide) small
    have less := circular.sin_le _ (isFinite_of_within within')
    exact within_div_of_abs_le less (isFinite_of_within (within_of_abs_le less within'))
      (nonzero_of_beyond beyond)

theorem within_cos (circular : Circular sin cos) (finite : x.isFinite = true) :
    Within 0 (cos x) := by
  have one : Float.abs 1.0 = 1.0 := by decide
  have less := circular.cos_le x finite
  rw [← one] at less
  exact within_of_abs_le less (by decide)

theorem within_count {n : Nat} (size : n < 2 ^ 64) : Within 64 (Float.ofNat n) :=
  within_ofNat size.le (by decide)

theorem within_hamming (circular : Circular sin cos) (size : taps < 2 ^ 64) :
    ∀ weight ∈ @hamming Float (doublesWith sin cos) taps, Within 1 weight := by
  have shown : @hamming Float (doublesWith sin cos) taps = if taps = 1 then [1.0] else
      (List.range taps).map fun n =>
        0.54 - 0.46 * cos (2.0 * 3.141592653589793 * Float.ofNat n / Float.ofNat (taps - 1)) := rfl
  have small : Within 0 0.54 ∧ Within 0 0.46 ∧ Within 1 1.0 := by decide
  have turn : Within 3 (2.0 * 3.141592653589793) := by decide
  rw [shown]
  intro weight member
  split at member
  · rw [List.mem_singleton.mp member]
    exact small.2.2
  · rename_i notOne
    obtain ⟨n, inside, rfl⟩ := List.mem_map.mp member
    have inside := List.mem_range.mp inside
    have numerator : Within (3 + 64) (2.0 * 3.141592653589793 * Float.ofNat n) :=
      within_mul turn (within_count (inside.trans size)) (by decide) (by decide)
    have span : Beyond 0 (Float.ofNat (taps - 1)) :=
      (ofNat_bounds (by omega) (by omega : taps - 1 ≤ 2 ^ 64) (by decide)).2
    have angle := isFinite_of_within (within_div numerator span (by decide) (by decide))
    have swing := within_mul small.2.1 (within_cos circular angle) (by decide) (by decide)
    exact within_sub small.1 swing (by decide) (by decide)

theorem exists_tap {tap : Float} (size : taps < 2 ^ 64) (within : Within 0 x)
    (member : tap ∈ @unscaledTaps Float (doublesWith sin cos) taps x) :
    ∃ position weight, Within (0 + (64 + 1)) position ∧
      weight ∈ @hamming Float (doublesWith sin cos) taps ∧
      tap = x * @sinc Float (doublesWith sin cos) position * weight := by
  obtain ⟨⟨weight, n⟩, inside, rfl⟩ := List.mem_map.mp member
  have half : Within 0 0.5 := by decide
  have bound : n < taps := by
    have index := List.snd_lt_of_mem_zipIdx inside
    rwa [@length_hamming Float (doublesWith sin cos)] at index
  have middle : Within (0 + 64) (0.5 * Float.ofNat (taps - 1)) :=
    within_mul half (within_count (by omega)) (by decide) (by decide)
  have distance : Within (64 + 1) (Float.ofNat n - 0.5 * Float.ofNat (taps - 1)) :=
    within_sub (within_count (bound.trans size)) middle (by decide) (by decide)
  have position := within_mul within distance (by decide) (by decide)
  exact ⟨_, weight, position, List.fst_mem_of_mem_zipIdx inside, rfl⟩

theorem within_unscaledTaps (circular : Circular sin cos) (size : taps < 2 ^ 64)
    (within : Within 0 x) :
    ∀ tap ∈ @unscaledTaps Float (doublesWith sin cos) taps x, Within 1 tap := by
  intro tap member
  obtain ⟨position, weight, bound, inside, rfl⟩ := exists_tap size within member
  have unweighted := within_mul within (within_sinc circular bound (by decide) (by decide))
    (by decide) (by decide)
  exact within_mul unweighted (within_hamming circular size weight inside) (by decide) (by decide)

theorem total_isZero {terms : List Float} (zeros : ∀ term ∈ terms, (term == 0.0) = true) :
    (@total Float (doublesWith sin cos) terms == 0.0) = true := by
  have fold : ∀ start : Float, (start == 0.0) = true →
      (terms.foldl (· + ·) start == 0.0) = true := by
    induction terms with
    | nil => exact fun start zero => zero
    | cons term terms ih =>
        intro start zero
        exact ih (fun other member => zeros other (List.mem_cons_of_mem _ member)) (start + term)
          (add_isZero zero (zeros term List.mem_cons_self))
  exact fold 0.0 (by decide)

/-- A share of the Nyquist frequency that has been rounded to zero leaves nothing of the taps. -/
theorem gain_isZero (circular : Circular sin cos) (size : spec.taps < 2 ^ 64)
    (zero : (spec.cutoff / nyquist spec.rate == 0.0) = true) :
    (gainWith sin cos spec == 0.0) = true := by
  have within : Within 0 (spec.cutoff / nyquist spec.rate) := by
    obtain ⟨sign, zero⟩ := beq_zero.mp zero
    rw [Within, zero]
    trivial
  apply total_isZero
  intro tap member
  obtain ⟨position, weight, bound, inside, rfl⟩ := exists_tap size within member
  have weighted := within_hamming circular size weight inside
  exact mul_isZero (mul_isZero zero (within_sinc circular bound (by decide) (by decide))) weighted

/-! ## Coefficients -/

theorem isFinite_coefficients (circular : Circular sin cos) (size : spec.taps < 2 ^ 64)
    (accepted : spec.validate = .ok ()) (normal : leastNormal ≤ (gainWith sin cos spec).abs) :
    ∀ c ∈ @lowPass Float (doublesWith sin cos) spec.taps spec.cutoff spec.rate,
      c.isFinite = true := by
  intro c member
  obtain ⟨tap, inside, rfl⟩ := List.mem_map.mp member
  obtain ⟨-, -, positive, below⟩ := validate_eq_ok.mp accepted
  obtain ⟨less, finite, nonzero⟩ := abs_le_of_lt positive below
  have share := within_div_of_abs_le less finite nonzero
  have bounded := within_unscaledTaps circular size share tap inside
  have least : Beyond (-1022) leastNormal := by decide
  have same : leastNormal.abs = leastNormal := by decide
  rw [← same] at normal
  have gain := beyond_of_abs_le normal least
  exact isFinite_of_within (within_div bounded gain (by decide) (by decide))

/-- An accepted specification is designed into as many coefficients as it asks for. They are finite
unless the gain that the taps are divided by is smaller than any normal double. If that gain is zero
then none of them is: as it is whenever the cutoff is so small a share of the Nyquist frequency that the
quotient of the two is rounded to zero. -/
theorem valid_spec_designed (sin cos : Float → Float) (circular : Circular sin cos)
    (spec : LowPassSpec) (accepted : spec.validate = .ok ()) (size : spec.taps < 2 ^ 64) :
    designWith Float.sin Float.cos = LowPassSpec.design ∧
    ∃ coefficients, designWith sin cos spec = .ok coefficients ∧
      coefficients.length = spec.taps ∧
      (leastNormal ≤ (gainWith sin cos spec).abs → ∀ c ∈ coefficients, c.isFinite = true) ∧
      ((spec.cutoff / nyquist spec.rate == 0.0) = true → (gainWith sin cos spec == 0.0) = true) ∧
      ((gainWith sin cos spec == 0.0) = true → ∀ c ∈ coefficients, c.isFinite = false) := by
  refine ⟨rfl, _, designWith_of_validate accepted, ?_, ?_, ?_, ?_⟩
  · unfold lowPass
    rw [List.length_map, @length_unscaledTaps Float (doublesWith sin cos)]
  · exact isFinite_coefficients circular size accepted
  · exact gain_isZero circular size
  · intro zero c member
    obtain ⟨tap, -, rfl⟩ := List.mem_map.mp member
    exact not_isFinite_div_zero zero

def quarterSine (x : Float) : Float :=
  if x = 1.5707963267948966 then 1.0 else if x = -1.5707963267948966 then -1.0 else 0.0

def quarterCosine (x : Float) : Float :=
  if x = 3.141592653589793 then -1.0 else 1.0

theorem quarters_circular : Circular quarterSine quarterCosine := by
  constructor
  · intro x finite
    rw [quarterSine]
    split
    · rename_i quarter
      rw [quarter]
      decide
    · split
      · rename_i quarter
        rw [quarter]
        decide
      · have zero : unpacked 0.0 = .zero .positive := rfl
        have finite : (unpacked x).isFinite = true := finite
        rw [abs_le_iff, zero]
        cases found : unpacked x with
        | zero sign => rfl
        | finite sign m e positive => rfl
        | _ =>
            rw [found] at finite
            cases finite
  · intro x finite
    rw [quarterCosine]
    split
    · decide
    · decide

theorem threeTaps_designed :
    ∃ coefficients, designWith quarterSine quarterCosine ⟨3, 4.0, 1.0⟩ = .ok coefficients ∧
      coefficients.length = 3 ∧ ∀ c ∈ coefficients, c.isFinite = true := by
  have accepted : LowPassSpec.validate ⟨3, 4.0, 1.0⟩ = .ok () :=
    validate_eq_ok.mpr (by decide)
  have normal : leastNormal ≤ (gainWith quarterSine quarterCosine ⟨3, 4.0, 1.0⟩).abs := by
    decide +kernel
  obtain ⟨-, coefficients, designed, length, finite, -⟩ :=
    valid_spec_designed quarterSine quarterCosine quarters_circular ⟨3, 4.0, 1.0⟩ accepted (by decide)
  exact ⟨coefficients, designed, length, finite normal⟩

theorem tinyCutoff_designed :
    ¬∀ spec : LowPassSpec, spec.validate = .ok () →
      ∃ coefficients, spec.design = .ok coefficients ∧ coefficients.length = spec.taps ∧
        ∀ c ∈ coefficients, c.isFinite = true := by
  intro all
  have accepted : LowPassSpec.validate ⟨1, 8.0, Float.ofBits 1⟩ = .ok () :=
    validate_eq_ok.mpr (by decide)
  obtain ⟨coefficients, designed, -, finite⟩ := all ⟨1, 8.0, Float.ofBits 1⟩ accepted
  have only : LowPassSpec.design ⟨1, 8.0, Float.ofBits 1⟩ = .ok (lowPass 1 (Float.ofBits 1) 8.0) :=
    designWith_of_validate accepted
  have broken : ∃ c ∈ lowPass 1 (Float.ofBits 1) 8.0, c.isFinite = false := by decide +kernel
  obtain ⟨c, member, notFinite⟩ := broken
  obtain rfl := Except.ok.inj (designed.symm.trans only)
  rw [finite c member] at notFinite
  cases notFinite

end Accelerometer.Proofs.Signal
