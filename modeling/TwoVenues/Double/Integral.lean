/-!
# Whole numbers near a double

A finite double is exactly `± mantissa · 2 ^ exponent` (`parts?`), so rounding it to a whole number
is a shift of the mantissa:

* `halfUp` : the nearest whole number, a half going away from zero;
* `halfEven` : the nearest whole number, a half going to the even neighbour;
* `toInt64` : the double rounded half away from zero and held within the signed 64-bit range;
* `roundEven` : the double rounded half to even, as a double.
-/

namespace TwoVenues.Double

/-- The finite double `± mantissa · 2 ^ exponent`. -/
structure Parts where
  negative : Bool
  mantissa : Nat
  exponent : Int
deriving DecidableEq

/-- The exact value of a finite double, from its bit fields. -/
def parts? (x : Float) : Option Parts :=
  let bits := x.toBits.toNat
  let negative := decide (0x8000000000000000 ≤ bits)
  let field : Nat := bits / 0x10000000000000 % 0x800
  let fraction : Nat := bits % 0x10000000000000
  if field = 0x7ff then none
  else if field = 0 then some ⟨negative, fraction, -1074⟩
  else some ⟨negative, fraction + 0x10000000000000, (field : Int) - 1075⟩

/-- The whole number nearest to `m · 2 ^ e`, a half going up. -/
def halfUp (m : Nat) : Int → Nat
  | .ofNat e => m <<< e
  | .negSucc k => (m + (1 <<< k)) >>> (k + 1)

/-- The whole number nearest to `m · 2 ^ e`, a half going to the even neighbour. -/
def halfEven (m : Nat) : Int → Nat
  | .ofNat e => m <<< e
  | .negSucc k =>
    let q := m >>> (k + 1)
    let r := m % (1 <<< (k + 1))
    if r < 1 <<< k then q else if 1 <<< k < r then q + 1 else q + q % 2

def int64Max : Int := 0x7fffffffffffffff

def int64Min : Int := -0x8000000000000000

def clampInt64 (n : Int) : Int := max int64Min (min n int64Max)

/-- The nearest integer, a half going away from zero, held within the signed 64-bit range;
`0` for not-a-number. -/
def toInt64 (x : Float) : Int :=
  match parts? x with
  | some p =>
    let n : Int := halfUp p.mantissa p.exponent
    clampInt64 (if p.negative then -n else n)
  | none => if x.isNaN then 0 else if x < 0.0 then int64Min else int64Max

/-- The nearest whole number as a double, a half going to the even neighbour; the sign of a zero
is kept, and so is a value that is not finite. -/
def roundEven (x : Float) : Float :=
  match parts? x with
  | some p =>
    if 0 ≤ p.exponent then x
    else
      let whole := Float.ofNat (halfEven p.mantissa p.exponent)
      if p.negative then -whole else whole
  | none => x

theorem clampInt64_le (n : Int) : clampInt64 n ≤ int64Max := by
  unfold clampInt64 int64Max int64Min; omega

theorem le_clampInt64 (n : Int) : int64Min ≤ clampInt64 n := by
  unfold clampInt64 int64Max int64Min; omega

end TwoVenues.Double
