import Mathlib
import SqlTemplate.Double

/-!
Integers as doubles.  The double that an integer is read as is the integer rounded to 53 binary
digits; rounding keeps the order, though not its strictness, and leaves integers up to `2 ^ 53` as
they are.
-/
namespace SqlTemplate.Double

/-! Rounding quotients. -/

section

variable {a b : Nat}

theorem roundDiv_one (n : Nat) : roundDiv n 1 = n := by
  simp [roundDiv, Nat.mod_one]

theorem roundDiv_mul (q : Nat) {den : Nat} (h : 0 < den) : roundDiv (q * den) den = q := by
  simp [roundDiv, Nat.mul_div_cancel _ h, h]

theorem div_le_roundDiv (a den : Nat) : a / den ≤ roundDiv a den := by
  simp only [roundDiv]
  split
  · exact Nat.le_refl _
  · split <;> omega

theorem roundDiv_le (a den : Nat) : roundDiv a den ≤ a / den + 1 := by
  simp only [roundDiv]
  split
  · exact Nat.le_succ _
  · split <;> omega

theorem roundDiv_mono (h : a ≤ b) (den : Nat) : roundDiv a den ≤ roundDiv b den := by
  obtain hlt | heq := (Nat.div_le_div_right (c := den) h).lt_or_eq
  · exact (roundDiv_le a den).trans (Nat.succ_le_of_lt hlt |>.trans (div_le_roundDiv b den))
  · -- With equal quotients the remainders are in order.
    have hmod : a % den ≤ b % den := by
      have ha := Nat.div_add_mod a den
      have hb := Nat.div_add_mod b den
      rw [heq] at ha
      omega
    simp only [roundDiv, heq]
    split <;> split <;> (try split) <;> (try split) <;> omega

end

/-! Rounding integers. -/

/-- The number of binary digits in front of which an integer is rounded. -/
def excess (n : Nat) : Nat := n.log2 - 52

/-- The integer with 53 binary digits that is nearest to `n`, the even one of two. -/
def rounded (n : Nat) : Nat := roundDiv n (2 ^ excess n) * 2 ^ excess n

theorem excess_le_log2 (n : Nat) : excess n ≤ n.log2 := Nat.sub_le _ _

/-- A power of two that `n` reaches is reached by the rounded one. -/
theorem two_pow_log2_le_rounded {n : Nat} (h : n ≠ 0) : 2 ^ n.log2 ≤ rounded n := by
  have hle := roundDiv_mono (Nat.log2_self_le h) (2 ^ excess n)
  have hpow : 2 ^ n.log2 = 2 ^ (n.log2 - excess n) * 2 ^ excess n := by
    rw [← Nat.pow_add, Nat.sub_add_cancel (excess_le_log2 n)]
  rw [hpow, roundDiv_mul _ (Nat.two_pow_pos _)] at hle
  rw [hpow]
  exact Nat.mul_le_mul_right _ hle

theorem rounded_le_two_pow_log2 (n : Nat) : rounded n ≤ 2 ^ (n.log2 + 1) := by
  have hle := roundDiv_mono (Nat.lt_log2_self (n := n)).le (2 ^ excess n)
  have hpow : 2 ^ (n.log2 + 1) = 2 ^ (n.log2 + 1 - excess n) * 2 ^ excess n := by
    rw [← Nat.pow_add, Nat.sub_add_cancel ((excess_le_log2 n).trans (Nat.le_succ _))]
  rw [hpow, roundDiv_mul _ (Nat.two_pow_pos _)] at hle
  rw [hpow]
  exact Nat.mul_le_mul_right _ hle

theorem rounded_mono : Monotone rounded := by
  intro a b h
  obtain rfl | ha := Nat.eq_zero_or_pos a
  · exact Nat.zero_le _
  have hlog : a.log2 ≤ b.log2 := by
    rw [Nat.log2_eq_log_two, Nat.log2_eq_log_two]
    exact Nat.log_mono_right h
  obtain hlt | heq := hlog.lt_or_eq
  · -- A power of two lies between.
    calc rounded a ≤ 2 ^ (a.log2 + 1) := rounded_le_two_pow_log2 a
      _ ≤ 2 ^ b.log2 := Nat.pow_le_pow_right (by decide) hlt
      _ ≤ rounded b := two_pow_log2_le_rounded (by omega)
  · have hexcess : excess a = excess b := by rw [excess, heq, excess]
    unfold rounded
    rw [hexcess]
    exact Nat.mul_le_mul_right _ (roundDiv_mono h _)

theorem rounded_of_excess {n : Nat} (h : excess n = 0) : rounded n = n := by
  simp [rounded, h, roundDiv_one]

theorem rounded_eq_self {n : Nat} (h : n ≤ 2 ^ 53) : rounded n = n := by
  obtain hlt | rfl := h.lt_or_eq
  · refine rounded_of_excess (Nat.sub_eq_zero_of_le ?_)
    obtain rfl | hn := eq_or_ne n 0
    · decide
    · exact Nat.le_of_lt_succ ((Nat.log2_lt hn).2 hlt)
  · decide +kernel

/-- The same with a sign. -/
def nearest (n : Int) : Int := if n < 0 then -(rounded n.natAbs : Int) else rounded n.natAbs

theorem nearest_mono : Monotone nearest := by
  intro m n h
  unfold nearest
  split
  case isTrue hm =>
    split
    case isTrue hn => exact Int.neg_le_neg (Int.ofNat_le.2 (rounded_mono (by omega)))
    case isFalse => omega
  case isFalse hm =>
    split
    case isTrue => omega
    case isFalse => exact Int.ofNat_le.2 (rounded_mono (by omega))

theorem nearest_eq_self {n : Int} (h : n.natAbs ≤ 2 ^ 53) : nearest n = n := by
  unfold nearest
  rw [rounded_eq_self h]
  split <;> omega

/-- An integer below `2 ^ 53` is rounded to by no other. -/
theorem nearest_eq_iff {m n : Int} (h : m.natAbs < 2 ^ 53) : nearest m = nearest n ↔ m = n := by
  refine ⟨fun heq => ?_, congrArg nearest⟩
  rw [nearest_eq_self h.le] at heq
  obtain hn | hn := Nat.lt_or_ge (2 ^ 53) n.natAbs
  · -- The other integer is rounded to `2 ^ 53` or beyond.
    obtain hneg | hpos := lt_or_ge n 0
    · have hle := nearest_mono (show n ≤ -2 ^ 53 by omega)
      rw [← heq, nearest_eq_self (n := -2 ^ 53) (by decide)] at hle
      omega
    · have hle := nearest_mono (show 2 ^ 53 ≤ n by omega)
      rw [← heq, nearest_eq_self (n := 2 ^ 53) (by decide)] at hle
      omega
  · rwa [nearest_eq_self hn] at heq

/-! The double of an integer. -/

theorem unscale_one (n : Nat) (e : Int) : unscale n 1 e = (n * 2 ^ (-e).toNat, 2 ^ e.toNat) := by
  simp [unscale]

theorem exponentOf_one {n : Nat} (h : n ≠ 0) : exponentOf n 1 = n.log2 - 52 := by
  have hone : Nat.log2 1 = 0 := rfl
  have hneg : (-((n.log2 : Int) - (0 : Nat) - 53)).toNat = 53 - n.log2 := by omega
  have hpos : ((n.log2 : Int) - (0 : Nat) - 53).toNat = n.log2 - 53 := by omega
  have hlarge : 2 ^ 53 ≤ n * 2 ^ (53 - n.log2) / 2 ^ (n.log2 - 53) := by
    rw [Nat.le_div_iff_mul_le (Nat.two_pow_pos _)]
    calc 2 ^ 53 * 2 ^ (n.log2 - 53) = 2 ^ n.log2 * 2 ^ (53 - n.log2) := by
          rw [← Nat.pow_add, ← Nat.pow_add]
          congr 1
          omega
      _ ≤ n * 2 ^ (53 - n.log2) := Nat.mul_le_mul_right _ (Nat.log2_self_le h)
  have hnot : ¬n * 2 ^ (53 - n.log2) / 2 ^ (n.log2 - 53) < Nat.pow 2 53 := Nat.not_lt.2 hlarge
  simp only [exponentOf, unscale_one, hone, hneg, hpos, if_neg hnot, leastExponent]
  omega

/-- The mantissa of an integer, in front of its exponent or, for a small integer, behind it. -/
theorem roundDiv_log2 {n a u : Nat} (h : a + 52 = n.log2 + u) :
    roundDiv (n * 2 ^ (52 - n.log2)) (2 ^ (n.log2 - 52)) * 2 ^ a = rounded n * 2 ^ u := by
  obtain hle | hlt := Nat.le_total n.log2 52
  · have hexcess : n.log2 - 52 = 0 := Nat.sub_eq_zero_of_le hle
    have hu : 52 - n.log2 + a = u := by omega
    rw [rounded_of_excess hexcess, hexcess, Nat.pow_zero, roundDiv_one, Nat.mul_assoc,
      ← Nat.pow_add, hu]
  · have ha : n.log2 - 52 + u = a := by omega
    rw [Nat.sub_eq_zero_of_le hlt, Nat.pow_zero, Nat.mul_one, rounded, excess, Nat.mul_assoc,
      ← Nat.pow_add, ha]

theorem scaled?_finite {m k : Nat} {e : Int} (negative : Bool)
    (h : m * 2 ^ (e - leastExponent).toNat = k) :
    (finite negative m e).scaled? = some (if negative then -(k : Int) else k) := by
  subst h
  simp [scaled?]

/-- Where the exponent stays in range, the rounded number is kept; a mantissa that carries over is
halved and its exponent raised. -/
theorem scaled?_ofRatio_one {n : Nat} (h : n.log2 < 1023) (negative : Bool) :
    (ofRatio negative n 1).scaled? =
      some (if negative then -((rounded n * 2 ^ (-leastExponent).toNat : Nat) : Int)
        else (rounded n * 2 ^ (-leastExponent).toNat : Nat)) := by
  unfold ofRatio
  split
  case isTrue hn =>
    subst hn
    refine scaled?_finite negative ?_
    rw [rounded_eq_self (Nat.zero_le _), Nat.zero_mul, Nat.zero_mul]
  case isFalse hn =>
    have hneg : (-((n.log2 : Int) - 52)).toNat = 52 - n.log2 := by omega
    have hpos : ((n.log2 : Int) - 52).toNat = n.log2 - 52 := by omega
    have hmantissa := roundDiv_log2 (n := n) (a := (n.log2 - 52 - leastExponent : Int).toNat)
      (u := (-leastExponent).toNat) (by simp only [leastExponent]; omega)
    simp only [exponentOf_one hn, unscale_one, hneg, hpos]
    split
    case isTrue hcarry =>
      rw [hcarry] at hmantissa
      have hraised : (n.log2 - 52 + 1 - leastExponent : Int).toNat =
          (n.log2 - 52 - leastExponent : Int).toNat + 1 := by
        simp only [leastExponent]
        omega
      rw [if_neg (by simp only [greatestExponent]; omega)]
      refine scaled?_finite negative ?_
      rw [hraised, ← hmantissa, Nat.pow_succ, ← Nat.mul_assoc, Nat.mul_right_comm]
      rfl
    case isFalse =>
      rw [if_neg (by simp only [greatestExponent]; omega)]
      exact scaled?_finite negative hmantissa

/-- Integers far below the infinities are read as what they are rounded to. -/
theorem scaled?_ofInt {n : Int} (h : n.natAbs.log2 < 1023) :
    (ofInt n).scaled? = some (nearest n * 2 ^ (-leastExponent).toNat) := by
  unfold ofInt nearest
  rw [scaled?_ofRatio_one h, Nat.cast_mul, Nat.cast_pow, Nat.cast_two]
  by_cases hn : n < 0
  · rw [if_pos (decide_eq_true hn), if_pos hn, Int.neg_mul]
  · rw [if_neg (by simpa using hn), if_neg hn]

theorem compare?_ofInt {m n : Int} (hm : m.natAbs.log2 < 1023) (hn : n.natAbs.log2 < 1023) :
    (ofInt m).compare? (ofInt n) = some (compare (nearest m) (nearest n)) := by
  have hmono : StrictMono fun k : Int => k * 2 ^ (-leastExponent).toNat :=
    fun _ _ hlt => Int.mul_lt_mul_of_pos_right hlt (Int.pow_pos (by decide))
  have hcompare := hmono.cmp_map_eq (nearest m) (nearest n)
  rw [cmp_eq_compare, cmp_eq_compare] at hcompare
  simp only [compare?, scaled?_ofInt hm, scaled?_ofInt hn]
  exact congrArg some hcompare

end SqlTemplate.Double
