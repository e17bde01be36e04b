import Mathlib.Tactic.Common
import Mathlib.Algebra.Order.Field.Power
import Mathlib.Data.Rat.Cast.Order
import Mathlib.Tactic.FieldSimp
import Mathlib.Tactic.Ring
import ViewAssembly.Number.Binary64

/-!
# Canonical numbers

A floating point number is canonical when it is held in the one form that its type has for it: with
the least possible exponent. Canonical numbers that are the same whole number are equal
(`equal_of_toInt?`).
-/

namespace ViewAssembly.Binary64

variable {s t : Bool} {m n : Nat} {e f k l : Int} {x y : Binary64}

/-- Has a number the least possible exponent, among those that leave a mantissa below `2 ^ 53`? -/
def Canonical : Binary64 → Prop
  | finite _ m e => m < 2 ^ 53 ∧ -1074 ≤ e ∧ (e = -1074 ∨ 2 ^ 52 ≤ m)
  | _            => True

/-! ### Whole numbers -/

/-- A whole number with the sign that is said. -/
lemma natAbs_signed (s : Bool) (a : Nat) : ((if s then -1 else 1) * (a : Int)).natAbs = a := by
  cases s <;> simp

/-- The whole number that a finite number is, counted in a power of two that is small enough. -/
lemma eq_signed_of_toInt? {d : Nat} (he : -(d : Int) ≤ e) (h : (finite s m e).toInt? = some k) :
    k = (if s then -1 else 1) * (k.natAbs : Int) ∧
      m * 2 ^ (e + d).toNat = k.natAbs * 2 ^ d := by
  rw [toInt?] at h
  -- a mantissa is shifted up, or it has to be a multiple of what it is divided by
  by_cases hpos : 0 ≤ e
  · rw [if_pos hpos] at h
    obtain rfl := Option.some.inj h
    have hexp : (e + d).toNat = e.toNat + d := by omega
    rw [natAbs_signed, hexp, Nat.pow_add, ← Nat.mul_assoc]
    exact ⟨rfl, rfl⟩
  · rw [if_neg hpos] at h
    by_cases hdvd : m % Nat.pow 2 (-e).toNat = 0
    · rw [if_pos hdvd] at h
      obtain rfl := Option.some.inj h
      have hexp : (-e).toNat + (e + d).toNat = d := by omega
      have hdiv : m / Nat.pow 2 (-e).toNat * 2 ^ (-e).toNat = m :=
        Nat.div_mul_cancel (Nat.dvd_of_mod_eq_zero hdvd)
      rw [natAbs_signed]
      refine ⟨rfl, ?_⟩
      calc m * 2 ^ (e + d).toNat
          = m / Nat.pow 2 (-e).toNat * 2 ^ (-e).toNat * 2 ^ (e + d).toNat := by rw [hdiv]
        _ = m / Nat.pow 2 (-e).toNat * 2 ^ d := by rw [Nat.mul_assoc, ← Nat.pow_add, hexp]
    · rw [if_neg hdvd] at h
      cases h

/-- Of two canonical numbers of the same size, none has the greater exponent. -/
lemma le_of_mul_two_pow_eq (hx : (finite s m e).Canonical) (hy : (finite t n f).Canonical)
    (h : m * 2 ^ (e + 1074).toNat = n * 2 ^ (f + 1074).toNat) : f ≤ e := by
  -- with the greater exponent, the mantissa of the first number would not be below `2 ^ 53`
  by_contra hlt
  obtain ⟨hm, he, -⟩ := hx
  obtain ⟨-, -, hf⟩ := hy
  have hn : 2 ^ 52 ≤ n := hf.resolve_left (by omega)
  obtain ⟨d, hd⟩ : ∃ d, (f + 1074).toNat = d + 1 + (e + 1074).toNat :=
    ⟨(f - e - 1).toNat, by omega⟩
  rw [hd, Nat.pow_add, ← Nat.mul_assoc] at h
  have hmn : m = n * 2 ^ (d + 1) := Nat.eq_of_mul_eq_mul_right (Nat.two_pow_pos _) h
  have hpow : 2 ^ 1 ≤ 2 ^ (d + 1) := Nat.pow_le_pow_right (by decide) (by omega)
  have hlow := Nat.mul_le_mul hn hpow
  omega

/-- Two canonical numbers of the same size have the same form. -/
lemma eq_of_mul_two_pow_eq (hx : (finite s m e).Canonical) (hy : (finite t n f).Canonical)
    (h : m * 2 ^ (e + 1074).toNat = n * 2 ^ (f + 1074).toNat) : m = n ∧ e = f := by
  obtain rfl : e = f :=
    Int.le_antisymm (le_of_mul_two_pow_eq hy hx h.symm) (le_of_mul_two_pow_eq hx hy h)
  exact ⟨Nat.eq_of_mul_eq_mul_right (Nat.two_pow_pos _) h, rfl⟩

lemma toInt?_zero (s : Bool) (e : Int) : (finite s 0 e).toInt? = some 0 := by
  simp [toInt?]

lemma toInt?_of_equal (h : x.equal y = true) : x.toInt? = y.toInt? := by
  cases x with
  | finite s m e => cases y with
    | finite t n f =>
      rw [equal] at h
      by_cases hm : m = 0
      · subst hm
        obtain rfl : n = 0 := by simpa using h
        rw [toInt?_zero, toInt?_zero]
      · rw [if_neg hm] at h
        obtain ⟨⟨rfl, rfl⟩, rfl⟩ : (s = t ∧ m = n) ∧ e = f := by simpa using h
        rfl
    | infinite t => cases h
    | notANumber => cases h
  | infinite s => cases y with
    | infinite t => rfl
    | finite t n f => cases h
    | notANumber => cases h
  | notANumber => cases h

/-- Canonical numbers that are the same whole number are equal. -/
theorem equal_of_toInt? (hx : x.Canonical) (hy : y.Canonical) (h : x.toInt? = some k)
    (h' : y.toInt? = some k) : x.equal y = true := by
  cases x with
  | finite s m e => cases y with
    | finite t n f =>
      obtain ⟨hs, hm⟩ := eq_signed_of_toInt? hx.2.1 h
      obtain ⟨ht, hn⟩ := eq_signed_of_toInt? hy.2.1 h'
      obtain ⟨rfl, rfl⟩ := eq_of_mul_two_pow_eq hx hy (hm.trans hn.symm)
      rw [equal]
      by_cases hzero : m = 0
      · simp [hzero]
      · have hk : k.natAbs ≠ 0 := by
          intro hk
          rw [hk, Nat.zero_mul] at hm
          exact (Nat.mul_ne_zero hzero (Nat.two_pow_pos _).ne') hm
        -- the sizes agree and are not zero, so the signs have to agree
        have hst : s = t := by
          clear hm hn h h'
          cases s <;> cases t
          · rfl
          · simp only [Bool.false_eq_true, if_false, if_true] at hs ht
            omega
          · simp only [Bool.false_eq_true, if_false, if_true] at hs ht
            omega
          · rfl
        simp [hzero, hst]
    | infinite t => cases h'
    | notANumber => cases h'
  | infinite s => cases h
  | notANumber => cases h

/-! ### Rounded fractions -/

lemma canonical_zero (negative : Bool) : (zero negative).Canonical :=
  ⟨by decide, by decide, .inl rfl⟩

section Fraction

variable {num den : Nat}

lemma scaled_pos (hden : 0 < den) (num : Nat) (e : Int) : 0 < (scaled num den e).2 := by
  rw [scaled]
  split
  · exact hden
  · exact Nat.mul_pos hden (Nat.two_pow_pos _)

/-- A scaled fraction is the fraction in units of a power of two. -/
lemma ratio_scaled (hden : 0 < den) (num : Nat) (e : Int) :
    ((scaled num den e).1 : ℚ) / (scaled num den e).2 * 2 ^ e = num / den := by
  have hden' : (den : ℚ) ≠ 0 := by exact_mod_cast hden.ne'
  rw [scaled]
  split
  · next he =>
    obtain ⟨a, rfl⟩ : ∃ a : Nat, e = -a := ⟨(-e).toNat, by omega⟩
    have ha : (-(-(a : Int))).toNat = a := by omega
    simp only [ha, Nat.pow_eq, Nat.cast_mul, Nat.cast_pow, Nat.cast_ofNat, zpow_neg, zpow_natCast]
    field_simp
  · next he =>
    obtain ⟨a, rfl⟩ : ∃ a : Nat, e = a := ⟨e.toNat, by omega⟩
    simp only [Int.toNat_natCast, Nat.pow_eq, Nat.cast_mul, Nat.cast_pow, Nat.cast_ofNat,
      zpow_natCast]
    field_simp

/-- Rounding a scaled fraction down stays below a power of two exactly if the fraction does. -/
lemma div_scaled_lt_iff (hden : 0 < den) (num d : Nat) (e : Int) :
    (scaled num den e).1 / (scaled num den e).2 < 2 ^ d ↔ (num / den : ℚ) < 2 ^ (d + e) := by
  have hpos : (0 : ℚ) < (scaled num den e).2 := by exact_mod_cast scaled_pos hden num e
  have hunit : (0 : ℚ) < 2 ^ e := zpow_pos two_pos e
  rw [Nat.div_lt_iff_lt_mul (scaled_pos hden num e), ← ratio_scaled hden num e, zpow_add₀ two_ne_zero,
    mul_lt_mul_iff_left₀ hunit, div_lt_iff₀ hpos, zpow_natCast]
  exact_mod_cast Iff.rfl

/-- A fraction lies between powers of two that the lengths of its parts tell. -/
lemma lt_two_pow_log2 (hnum : num ≠ 0) (hden : 0 < den) :
    (2 : ℚ) ^ ((num.log2 : Int) - den.log2 - 1) < num / den ∧
      (num / den : ℚ) < 2 ^ ((num.log2 : Int) - den.log2 + 1) := by
  have hn : (2 : ℚ) ^ (num.log2 : Int) ≤ num ∧ (num : ℚ) < 2 ^ ((num.log2 : Int) + 1) :=
    ⟨by exact_mod_cast Nat.log2_self_le hnum, by exact_mod_cast Nat.lt_log2_self⟩
  have hd : (2 : ℚ) ^ (den.log2 : Int) ≤ den ∧ (den : ℚ) < 2 ^ ((den.log2 : Int) + 1) :=
    ⟨by exact_mod_cast Nat.log2_self_le hden.ne', by exact_mod_cast Nat.lt_log2_self⟩
  have hpos : (0 : ℚ) < den := by exact_mod_cast hden
  constructor
  · rw [sub_sub, zpow_sub₀ two_ne_zero]
    calc (2 : ℚ) ^ (num.log2 : Int) / 2 ^ ((den.log2 : Int) + 1)
        < 2 ^ (num.log2 : Int) / den := div_lt_div_of_pos_left (zpow_pos two_pos _) hpos hd.2
      _ ≤ num / den := by gcongr; exact hn.1
  · rw [sub_add_eq_add_sub, zpow_sub₀ two_ne_zero]
    calc (num : ℚ) / den < 2 ^ ((num.log2 : Int) + 1) / den := by gcongr; exact hn.2
      _ ≤ 2 ^ ((num.log2 : Int) + 1) / 2 ^ (den.log2 : Int) := by gcongr; exact hd.1

def exponentFor (num den : Nat) : Int :=
  let low : Int := (num.log2 : Int) - den.log2 - 53
  max (-1074) (if (scaled num den low).1 / (scaled num den low).2 < 2 ^ 53 then low else low + 1)

def mantissaFor (num den : Nat) (exponent : Int) : Nat :=
  let n := (scaled num den exponent).1
  let d := (scaled num den exponent).2
  if 2 * (n % d) > d || (2 * (n % d) = d && n / d % 2 = 1) then n / d + 1 else n / d

/-- The number with a rounded mantissa, halved if it has become a power of two too many. -/
def carried (negative : Bool) (mantissa : Nat) (exponent : Int) : Binary64 :=
  let (mantissa, exponent) :=
    if mantissa = 2 ^ 53 then (2 ^ 52, exponent + 1) else (mantissa, exponent)
  if exponent > 971 then .infinite negative
  else if mantissa = 0 then zero negative
  else .finite negative mantissa exponent

lemma ofFraction_eq_carried (negative : Bool) (hnum : num ≠ 0) (den : Nat) :
    ofFraction negative num den
      = carried negative (mantissaFor num den (exponentFor num den)) (exponentFor num den) := by
  rw [ofFraction, if_neg hnum]
  rfl

/-- The exponent leaves a mantissa below `2 ^ 53`, and it is the least one that does. -/
lemma exponentFor_spec (hnum : num ≠ 0) (hden : 0 < den) :
    -1074 ≤ exponentFor num den ∧
      (num / den : ℚ) < 2 ^ ((53 : Nat) + exponentFor num den) ∧
      (exponentFor num den = -1074 ∨ 2 ^ ((52 : Nat) + exponentFor num den) ≤ (num / den : ℚ)) := by
  obtain ⟨hlow, hhigh⟩ := lt_two_pow_log2 hnum hden
  rw [exponentFor]
  generalize hl : (num.log2 : Int) - den.log2 - 53 = low at *
  rw [show (num.log2 : Int) - den.log2 = 53 + low by omega] at hlow hhigh
  have hone : (1 : ℚ) ≤ 2 := one_le_two
  by_cases hfits : (scaled num den low).1 / (scaled num den low).2 < 2 ^ 53
  · rw [if_pos hfits]
    rw [div_scaled_lt_iff hden] at hfits
    refine ⟨le_max_left _ _, hfits.trans_le (zpow_le_zpow_right₀ hone (by omega)), ?_⟩
    rcases max_choice (-1074) low with hmax | hmax
    · exact .inl hmax
    · rw [hmax]
      exact .inr ((zpow_le_zpow_right₀ hone (by omega)).trans hlow.le)
  · rw [if_neg hfits]
    rw [div_scaled_lt_iff hden, not_lt] at hfits
    refine ⟨le_max_left _ _, hhigh.trans_le (zpow_le_zpow_right₀ hone (by omega)), ?_⟩
    rcases max_choice (-1074) (low + 1) with hmax | hmax
    · exact .inl hmax
    · rw [hmax]
      exact .inr ((zpow_le_zpow_right₀ hone (by omega)).trans hfits)

lemma mantissaFor_cases (num den : Nat) (e : Int) :
    mantissaFor num den e = (scaled num den e).1 / (scaled num den e).2 ∨
      mantissaFor num den e = (scaled num den e).1 / (scaled num den e).2 + 1 := by
  rw [mantissaFor]
  split
  · exact .inr rfl
  · exact .inl rfl

lemma canonical_carried (negative : Bool) (hm : m ≤ 2 ^ 53) (he : -1074 ≤ e)
    (h : e = -1074 ∨ 2 ^ 52 ≤ m) : (carried negative m e).Canonical := by
  rw [carried]
  by_cases hcarry : m = 2 ^ 53
  · rw [if_pos hcarry]
    dsimp only
    split_ifs with hinfinite hzero
    · trivial
    · exact canonical_zero negative
    · exact ⟨by decide, by omega, .inr (le_refl _)⟩
  · rw [if_neg hcarry]
    dsimp only
    split_ifs with hinfinite hzero
    · trivial
    · exact canonical_zero negative
    · exact ⟨Nat.lt_of_le_of_ne hm hcarry, he, h⟩

/-- The nearest number to a fraction is canonical. -/
theorem canonical_ofFraction (negative : Bool) (num : Nat) (hden : 0 < den) :
    (ofFraction negative num den).Canonical := by
  by_cases hnum : num = 0
  · rw [ofFraction, if_pos hnum]
    exact canonical_zero negative
  obtain ⟨he, hbelow, habove⟩ := exponentFor_spec hnum hden
  rw [← div_scaled_lt_iff hden] at hbelow
  rw [← not_lt, ← div_scaled_lt_iff hden] at habove
  rw [ofFraction_eq_carried negative hnum]
  -- rounding up can reach `2 ^ 53`, but not pass it
  rcases mantissaFor_cases num den (exponentFor num den) with hm | hm
  · rw [hm]
    exact canonical_carried negative hbelow.le he (habove.imp_right Nat.le_of_not_lt)
  · rw [hm]
    exact canonical_carried negative hbelow he (habove.imp_right fun h => by omega)

end Fraction

/-- The nearest number to a decimal is canonical. -/
theorem canonical_ofDecimal (negative : Bool) (digits : Nat) (exponent : Int) :
    (ofDecimal negative digits exponent).Canonical := by
  rw [ofDecimal]
  split_ifs with hsmall hlarge hfraction
  · exact canonical_zero negative
  · trivial
  · exact canonical_ofFraction negative _ (Nat.pow_pos (by decide))
  · exact canonical_ofFraction negative _ Nat.one_pos

end ViewAssembly.Binary64
