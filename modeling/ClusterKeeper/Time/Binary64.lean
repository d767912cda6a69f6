/-!
Binary64 arithmetic, exactly.

A value is a rational number, an infinity or no number at all. Each operation computes the exact
result and rounds it once: to the nearest multiple of the unit in the last place, a tie to the even
multiple. The two zeros are not told apart, since nothing computed here depends on their sign.
-/

namespace ClusterKeeper

/-- A binary64 value. -/
inductive Binary64 where
  | finite (q : Rat)
  | infinite (negative : Bool)
  | nan
  deriving Repr, DecidableEq

namespace Binary64

/-- The nearest integer; a tie goes to the even neighbour. -/
def nearestEven (q : Rat) : Int :=
  let low := q.floor
  let rest := q - low
  if rest < 1 / 2 then low
  else if 1 / 2 < rest then low + 1
  else if low % 2 = 0 then low
  else low + 1

def powerOfTwo (e : Int) : Rat :=
  if 0 ≤ e then (Nat.pow 2 e.toNat : Rat) else 1 / (Nat.pow 2 (-e).toNat : Rat)

/-- The exponent of the leading binary digit of a positive number. -/
def leadingExponent (q : Rat) : Int :=
  let e : Int := q.num.natAbs.log2 - q.den.log2
  if powerOfTwo e ≤ q then e else e - 1

/-- The unit in the last place of the numbers around a positive one: 53 digits count, but none
beyond the smallest subnormal number. -/
def lastPlace (q : Rat) : Rat := powerOfTwo (max (leadingExponent q - 52) (-1074))

/-- The binary64 value nearest to a rational number. -/
def round (q : Rat) : Binary64 :=
  if q = 0 then .finite 0
  else
    let unit := lastPlace q.abs
    let rounded := nearestEven (q / unit) * unit
    if powerOfTwo 1024 ≤ rounded.abs then .infinite (q < 0) else .finite rounded

/-- The value nearest to a natural number. -/
def ofNat (n : Nat) : Binary64 := round n

/-- The value nearest to `mantissa * 10 ^ exponent`. Exponents far outside the range are decided by
their size alone, so that no huge power is computed. -/
def ofDecimal (mantissa exponent : Int) : Binary64 :=
  let size := Nat.log2 mantissa.natAbs
  if mantissa = 0 then .finite 0
  else if 400 < exponent then .infinite (mantissa < 0)
  else if exponent + size < -400 then .finite 0
  else if 0 ≤ exponent then round (mantissa * Nat.pow 10 exponent.toNat)
  else round (mantissa / Nat.pow 10 (-exponent).toNat)

/-- The sum, rounded once. -/
def add : Binary64 → Binary64 → Binary64
  | .finite a, .finite b => round (a + b)
  | .nan, _ => .nan
  | _, .nan => .nan
  | .infinite a, .infinite b => if a = b then .infinite a else .nan
  | .infinite a, .finite _ => .infinite a
  | .finite _, .infinite b => .infinite b

/-- The product, rounded once. -/
def mul : Binary64 → Binary64 → Binary64
  | .finite a, .finite b => round (a * b)
  | .nan, _ => .nan
  | _, .nan => .nan
  | .infinite a, .infinite b => .infinite (a != b)
  | .infinite a, .finite b => if b = 0 then .nan else .infinite (a != decide (b < 0))
  | .finite a, .infinite b => if a = 0 then .nan else .infinite (decide (a < 0) != b)

instance : Add Binary64 := ⟨add⟩
instance : Mul Binary64 := ⟨mul⟩

/-- Whether the first value is below the second; nothing is below or above `nan`. -/
def below : Binary64 → Binary64 → Bool
  | .finite a, .finite b => a < b
  | .infinite true, .finite _ => true
  | .infinite true, .infinite false => true
  | .finite _, .infinite false => true
  | _, _ => false

/-- The lesser value; `nan` gives way to the other one. -/
def lesser (a b : Binary64) : Binary64 :=
  if a = .nan then b
  else if b = .nan then a
  else if b.below a then b
  else a

/-- Multiplies `acc` by a power of the base, squaring the base for each binary digit of the
exponent. -/
def powerTimes (acc base : Binary64) (n : Nat) : Binary64 :=
  if h : n = 0 then acc
  else powerTimes (if n % 2 = 1 then acc * base else acc) (base * base) (n / 2)
termination_by n
decreasing_by omega

/-- A power; the power of exponent zero is one, whatever the base. -/
def power (base : Binary64) (n : Nat) : Binary64 := powerTimes (.finite 1) base n

end Binary64

end ClusterKeeper
