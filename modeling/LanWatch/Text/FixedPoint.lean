import LanWatch.Text.Digits

namespace LanWatch.Text

/-!
# Fixed decimal places

A binary floating point number written with a fixed number of decimal places. The exact value is
rounded to the nearest number with that many places; a tie goes to the even neighbour.

* `roundDiv` — a quotient rounded to the nearest integer, ties to even;
* `roundDiv_nearest` — the rounding error is at most half a unit;
* `fixedPoint` — the written form.
-/

/-- The integer nearest to `num / den`; of two equally near ones the even one. -/
def roundDiv (num den : Nat) : Nat :=
  let q := num / den
  let twice := 2 * (num % den)
  if twice < den then q
  else if den < twice then q + 1
  else if q % 2 = 0 then q else q + 1

/-- Rounding misses the quotient by at most half a unit. -/
theorem roundDiv_nearest (num : Nat) {den : Nat} (h : 0 < den) :
    2 * num ≤ 2 * (roundDiv num den * den) + den ∧
      2 * (roundDiv num den * den) ≤ 2 * num + den := by
  have hdiv := Nat.div_add_mod num den
  have hmod := Nat.mod_lt num h
  have hcomm : num / den * den = den * (num / den) := Nat.mul_comm _ _
  have hsucc : (num / den + 1) * den = den * (num / den) + den := by
    rw [Nat.add_mul, Nat.one_mul, hcomm]
  unfold roundDiv
  simp only
  split
  · omega
  · split
    · omega
    · split <;> omega

/-- A non-negative finite number as `mantissa` times two to the power `up`, divided by two to the
    power `down`. -/
structure Dyadic where
  (mantissa up down : Nat)

/-- How many values the fraction of a floating point number has. -/
def fractionCount : Nat := Nat.pow 2 52

/-- The exact value of a finite floating point number, without its sign. -/
def Dyadic.ofFloat (x : Float) : Dyadic :=
  let bits := x.toBits.toNat
  let exponent := bits / fractionCount % 2048
  let fraction := bits % fractionCount
  if exponent = 0 then ⟨fraction, 0, 1074⟩
  else ⟨fractionCount + fraction, exponent - 1075, 1075 - exponent⟩

/-- A non-negative number with `places` decimal places. -/
def fixedPoint (places : Nat) (x : Float) : String :=
  let d := Dyadic.ofFloat x
  let scale := Nat.pow 10 places
  let units := roundDiv (d.mantissa * scale * Nat.pow 2 d.up) (Nat.pow 2 d.down)
  decimal (units / scale) ++ "." ++ paddedDecimal places (units % scale)

end LanWatch.Text
