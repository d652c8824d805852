/-
Numbers under the keys of counts. A JSON number has an exact value, a rational, whether it is written as an integer or
as a double. An option that counts something takes this value if it is a whole number of 32 bits and not zero, and keeps
its default otherwise; how the number is written does not show.

- `Double.value`, `JsonNumber.value`: the exact values; `Double.value_eq_ratio`: the quotient of naturals that a double
  is computed with.
- `IsCount`: the values that count; `JsonNumber.count?_eq_some_iff`: reading takes just these.
- `JsonNumber.stepped?`: a count taken in machine steps, by words of 64 bits, doubles, words of 32 bits;
  `stepped?_eq_some_iff`: it takes the same values, wherever one step hands over to the next.
- `counts_by_value`: what is resolved for a number, by its value and step by step.
-/
import Mathlib.Data.Rat.Floor
import ScriptBridge.Json.Reader
import ScriptBridge.Settings.Resolve

namespace ScriptBridge

/-! ## Exact values -/

/-- the rational that a double denotes -/
def Double.value (d : Double) : ℚ := (if d.negative then -1 else 1) * (d.mantissa * 2 ^ d.exponent)

/-- the rational that a JSON number denotes -/
def JsonNumber.value : JsonNumber → ℚ
  | .int n => n
  | .double d => d.value

/-- a value that can be a count: a whole number of 32 bits, and not zero -/
structure IsCount (value : ℚ) (n : Nat) : Prop where
  value_eq : value = n
  pos : 1 ≤ n
  fits : n ≤ 4294967295

namespace Double

theorem ratio_den_pos (d : Double) : 0 < d.ratio.2 := by
  unfold ratio
  split
  · exact Nat.one_pos
  · exact Nat.two_pow_pos _

/-- without its sign, a double is the quotient of its two naturals -/
theorem magnitude_eq_ratio (d : Double) : (d.mantissa : ℚ) * 2 ^ d.exponent = d.ratio.1 / d.ratio.2 := by
  unfold ratio
  split
  · next h =>
    obtain ⟨k, hk⟩ := Int.eq_ofNat_of_zero_le h
    simp [hk]
  · next h =>
    obtain ⟨k, hk⟩ : ∃ k : Nat, d.exponent = -(k : Int) := ⟨(-d.exponent).toNat, by omega⟩
    simp [hk, div_eq_mul_inv]

theorem value_eq_ratio (d : Double) :
    d.value = (if d.negative then -1 else 1) * ((d.ratio.1 : ℚ) / d.ratio.2) := by
  rw [value, magnitude_eq_ratio]

/-- a double with a minus sign is not positive -/
theorem value_nonpos (d : Double) (h : d.negative = true) : d.value ≤ 0 := by
  have hratio : (0 : ℚ) ≤ d.ratio.1 / d.ratio.2 := by positivity
  rw [value_eq_ratio, if_pos h]
  linarith

/-- a quotient is a natural number just when its remainder is zero, and then it is its whole part -/
theorem div_eq_natCast_iff (num den n : Nat) (h : 0 < den) :
    (num : ℚ) / den = n ↔ num % den = 0 ∧ num / den = n := by
  have hden : (den : ℚ) ≠ 0 := Nat.cast_ne_zero.2 h.ne'
  rw [div_eq_iff hden]
  norm_cast
  constructor
  · rintro rfl
    exact ⟨Nat.mul_mod_left n den, Nat.mul_div_cancel n h⟩
  · rintro ⟨hrest, rfl⟩
    exact (Nat.div_mul_cancel (Nat.dvd_of_mod_eq_zero hrest)).symm

theorem toNat?_eq_some_iff (d : Double) (n : Nat) : d.toNat? = some n ↔ d.value = n := by
  have hden := d.ratio_den_pos
  rw [value_eq_ratio]
  simp only [toNat?]
  split
  · next h =>
    -- below zero there is no natural number
    have hpos : (0 : ℚ) < d.ratio.1 / d.ratio.2 :=
      div_pos (Nat.cast_pos.2 (Nat.pos_of_ne_zero h.2)) (Nat.cast_pos.2 hden)
    have hn : (0 : ℚ) ≤ n := Nat.cast_nonneg n
    rw [if_pos h.1]
    constructor
    · rintro ⟨⟩
    · intro heq
      linarith
  · next h =>
    have hsign : (if d.negative then -1 else 1) * ((d.ratio.1 : ℚ) / d.ratio.2) = d.ratio.1 / d.ratio.2 := by
      by_cases hneg : d.negative
      · have hzero : d.ratio.1 = 0 := by
          by_contra hne
          exact h ⟨hneg, hne⟩
        simp [hzero]
      · simp [hneg]
    rw [hsign, div_eq_natCast_iff _ _ _ hden]
    split <;> simp_all

/-- rounding keeps the sign -/
theorem negative_ofRatio {negative : Bool} {num den : Nat} {d : Double} (h : ofRatio negative num den = some d) :
    d.negative = negative := by
  simp only [ofRatio] at h
  split at h
  · cases h
    rfl
  · rw [Option.ite_none_left_eq_some] at h
    obtain ⟨-, h⟩ := h
    cases h
    rfl

end Double

/-- the natural number of a JSON number is its value, if that is one -/
theorem JsonNumber.toNat?_eq_some_iff (x : JsonNumber) (n : Nat) : x.toNat? = some n ↔ x.value = n := by
  cases x with
  | double d => exact d.toNat?_eq_some_iff n
  | int m =>
    simp only [toNat?, value]
    norm_cast
    split
    · rw [Option.some_inj]
      omega
    · constructor
      · rintro ⟨⟩
      · intro h
        omega

/-! ## Numbers as counts -/

/-- the count that a number is, if it is one -/
def JsonNumber.count? (x : JsonNumber) : Option Nat := x.toNat?.filter fun n => 0 < n ∧ n < 4294967296

theorem JsonNumber.count?_eq_some_iff (x : JsonNumber) (n : Nat) : x.count? = some n ↔ IsCount x.value n := by
  rw [count?, Option.filter_eq_some_iff, toNat?_eq_some_iff, decide_eq_true_eq]
  exact ⟨fun h => ⟨h.1, h.2.1, Nat.le_of_lt_succ h.2.2⟩, fun h => ⟨h.value_eq, h.pos, Nat.lt_succ_of_le h.fits⟩⟩

theorem readCount_number (x : JsonNumber) (default : Nat) :
    readCount (some (.number x)) default = x.count?.getD default := by
  simp only [readCount, JsonNumber.count?]
  cases x.toNat? with
  | none => rfl
  | some n =>
    simp only [Option.filter_some, decide_eq_true_eq]
    split <;> rfl

/-! ## Counts in steps -/

namespace JsonNumber

/-- the natural number of 64 bits that a number is written as; a double is not one, whatever its value -/
def word? : JsonNumber → Option Nat
  | .int n => if 0 ≤ n then some n.toNat else none
  | .double _ => none

/-- the double nearest to a number -/
def nearest? : JsonNumber → Option Double
  | .int n => Double.ofRatio (n < 0) n.natAbs 1
  | .double d => some d

end JsonNumber

/-- a double cut off to a natural number, if it has no fraction and lies between 1 and `2 ^ 32 - 1` -/
def Double.cut? (d : Double) : Option Nat :=
  if Int.fract d.value = 0 ∧ 1 ≤ d.value ∧ d.value ≤ 4294967295 then some ⌊d.value⌋.toNat else none

namespace JsonNumber

/-- a count taken in steps: the number as a word of 64 bits, or else its double cut off; then only what fits 32 bits, and
of that only what is not zero -/
def stepped? (x : JsonNumber) : Option Nat :=
  ((x.word?.or (x.nearest?.bind Double.cut?)).filter fun n => n < 4294967296).filter fun n => 0 < n

end JsonNumber

theorem Double.cut?_eq_some_iff (d : Double) (n : Nat) : d.cut? = some n ↔ IsCount d.value n := by
  rw [cut?, Option.ite_none_right_eq_some, Option.some_inj]
  constructor
  · rintro ⟨⟨hfract, hpos, hfits⟩, hn⟩
    obtain ⟨z, hz⟩ := Int.fract_eq_zero_iff.1 hfract
    rw [← hz] at hpos hfits hn ⊢
    rw [Int.floor_intCast] at hn
    have hpos' : 1 ≤ z := by exact_mod_cast hpos
    have hfits' : z ≤ 4294967295 := by exact_mod_cast hfits
    have hnat : z = n := by omega
    exact ⟨by exact_mod_cast hnat, by omega, by omega⟩
  · rintro ⟨hvalue, hpos, hfits⟩
    rw [hvalue, Int.floor_natCast, Int.toNat_natCast]
    exact ⟨⟨Int.fract_natCast n, by exact_mod_cast hpos, by exact_mod_cast hfits⟩, rfl⟩

/-- what is not positive is no count -/
theorem IsCount.value_pos {value : ℚ} {n : Nat} (h : IsCount value n) : 0 < value := by
  rw [h.value_eq]
  exact_mod_cast h.pos

namespace JsonNumber

theorem isCount_int_iff (m : Int) (n : Nat) : IsCount (int m).value n ↔ m = n ∧ 1 ≤ n ∧ n ≤ 4294967295 := by
  have hvalue : (int m).value = n ↔ m = n := by
    simp only [value]
    norm_cast
  exact ⟨fun h => ⟨hvalue.1 h.value_eq, h.pos, h.fits⟩, fun h => ⟨hvalue.2 h.1, h.2.1, h.2.2⟩⟩

/-- the word or the double that the steps start from, with the bounds at their end, is the value -/
theorem stepped?_eq_some_iff (x : JsonNumber) (n : Nat) : x.stepped? = some n ↔ IsCount x.value n := by
  rw [stepped?, Option.filter_eq_some_iff, Option.filter_eq_some_iff, decide_eq_true_eq, decide_eq_true_eq]
  cases x with
  | int m =>
    rw [isCount_int_iff]
    by_cases hm : 0 ≤ m
    · -- a word, and the double is never asked for
      simp only [word?, if_pos hm, Option.some_or, Option.some_inj]
      omega
    · -- the nearest double is below zero like the number
      simp only [word?, if_neg hm, Option.none_or, nearest?]
      refine ⟨fun hsteps => ?_, fun hcount => by omega⟩
      obtain ⟨d, hd, hn⟩ := Option.bind_eq_some_iff.1 hsteps.1.1
      have hnegative : d.negative = true := by
        rw [Double.negative_ofRatio hd]
        exact decide_eq_true (Int.not_le.1 hm)
      exact absurd ((d.cut?_eq_some_iff n).1 hn).value_pos (d.value_nonpos hnegative).not_gt
  | double d =>
    simp only [word?, Option.none_or, nearest?, Option.bind_some, value, d.cut?_eq_some_iff]
    exact ⟨fun h => h.1.1, fun h => ⟨⟨h, Nat.lt_succ_of_le h.fits⟩, h.pos⟩⟩

theorem stepped?_eq_count? (x : JsonNumber) : x.stepped? = x.count? := by
  ext n
  rw [stepped?_eq_some_iff, count?_eq_some_iff]

end JsonNumber

/-! ## Main result -/

/-- the options that count something -/
inductive CountOption where
  | indentSize
  | maxLineLength
deriving DecidableEq, Repr

namespace CountOption

/-- the setting that an option is read from -/
def key : CountOption → SettingKey
  | indentSize => .indentSize
  | maxLineLength => .maxLineLength

/-- the option in a configuration -/
def of (c : Configuration) : CountOption → Nat
  | indentSize => c.indentSize
  | maxLineLength => c.maxLineLength

theorem of_ofSettings (o : CountOption) (lookup : SettingKey → Option Json) :
    o.of (.ofSettings lookup) = readCount (lookup o.key) (o.of .default) := by
  cases o <;> rfl

end CountOption

/-- **A number counts by its value.** Take any settings in which a number stands under the key of an option that counts
something, written as an integer, with or without a sign, or as a double. If the exact value of the number is a whole
number from 1 to `2 ^ 32 - 1`, this is the value of the option; in every other case the option has its default. Any
other number of the same value, in any other settings, gives the same; and so do the steps by words and doubles. -/
theorem counts_by_value {lookup : SettingKey → Option Json} {o : CountOption} {x : JsonNumber}
    (h : lookup o.key = some (.number x)) :
    let resolved := o.of (.ofSettings lookup)
    (∀ n, IsCount x.value n → resolved = n) ∧
    ((∀ n, ¬ IsCount x.value n) → resolved = o.of .default) ∧
    (∀ other y, other o.key = some (.number y) → y.value = x.value → o.of (.ofSettings other) = resolved) ∧
    resolved = x.stepped?.getD (o.of .default) := by
  intro resolved
  have hread : resolved = x.count?.getD (o.of .default) := by
    rw [← readCount_number, ← h, ← o.of_ofSettings]
  refine ⟨fun n hn => ?_, fun hnone => ?_, fun other y hy hvalue => ?_, ?_⟩
  · rw [hread, (x.count?_eq_some_iff n).2 hn, Option.getD_some]
  · have hcount : x.count? = none :=
      Option.eq_none_iff_forall_ne_some.2 fun n hn => hnone n ((x.count?_eq_some_iff n).1 hn)
    rw [hread, hcount, Option.getD_none]
  · have hcount : y.count? = x.count? := by
      ext n
      rw [y.count?_eq_some_iff, x.count?_eq_some_iff, hvalue]
    rw [o.of_ofSettings, hy, readCount_number, hcount, hread]
  · rw [hread, x.stepped?_eq_count?]

/-- the largest count, as a double -/
def largestCount : Double := ⟨false, 9007199252643840, -21⟩

/-- a store with the largest count as a double for one option, and with the integer above it for the other -/
def atTheBorder : Store :=
  (Store.write .empty settingsNamespace SettingKey.indentSize.name (.number (.double largestCount))).write
    settingsNamespace SettingKey.maxLineLength.name (.number (.int 4294967296))

theorem isCount_largestCount : IsCount largestCount.value 4294967295 := by
  refine ⟨?_, by decide, le_rfl⟩
  norm_num [largestCount, Double.value]

theorem counts_by_value_border :
    let lookup (key : SettingKey) := atTheBorder.read settingsNamespace key.name
    lookup CountOption.indentSize.key = some (.number (.double largestCount)) ∧
      IsCount largestCount.value 4294967295 ∧ CountOption.indentSize.of atTheBorder.resolve = 4294967295 ∧
      lookup CountOption.maxLineLength.key = some (.number (.int 4294967296)) ∧
      (∀ n, ¬ IsCount (JsonNumber.int 4294967296).value n) ∧
      CountOption.maxLineLength.of atTheBorder.resolve = 100 := by
  intro lookup
  have hindent : lookup CountOption.indentSize.key = some (.number (.double largestCount)) := rfl
  have hline : lookup CountOption.maxLineLength.key = some (.number (.int 4294967296)) := rfl
  have habove : ∀ n, ¬ IsCount (JsonNumber.int 4294967296).value n := by
    intro n hn
    have hint := (JsonNumber.isCount_int_iff 4294967296 n).1 hn
    omega
  exact ⟨hindent, isCount_largestCount, (counts_by_value hindent).1 _ isCount_largestCount, hline, habove,
    (counts_by_value hline).2.1 habove⟩

/-- one count in three spellings, and two numbers that are none -/
example : ["4", "4.0", "40e-1", "4.5", "-4"].map (fun text => (Json.parse? text).map fun v => readCount (some v) 100) =
    [some 4, some 4, some 4, some 100, some 100] := by decide +kernel

end ScriptBridge
