/-!
The shortest decimal of a binary floating-point number: the fewest digits that read back as
the number, and of those the nearest to it. All arithmetic is exact, on natural numbers.
-/

namespace DeclaredSettings.Decimal

/-- A positive number `significand * 2 ^ exponent`. The flag says that the gap to the next
smaller floating-point number is half the gap to the next greater one.
-/
structure Dyadic where
  significand : Nat
  exponent : Int
  narrowBelow : Bool
  deriving DecidableEq, Repr

/-- The leading bit of a significand of 53 bits, which is not written down. -/
def hiddenBit : Nat := 4503599627370496

/-- The absolute value of a finite floating-point number, read off its bits. -/
def Dyadic.ofFloat (x : Float) : Dyadic :=
  let bits := x.toBits.toNat
  let fraction := bits % hiddenBit
  let biased : Nat := bits / hiddenBit % 2048
  if biased = 0 then ⟨fraction, -1074, false⟩
  else ⟨fraction + hiddenBit, (biased : Int) - 1075, fraction == 0 && 1 < biased⟩

/-- A point `digits * 10 ^ exponent` of a decimal grid. -/
structure Point where
  digits : Nat
  exponent : Int
  deriving DecidableEq, Repr

/-- Common multiples that make a binary number and a point of the grid `10 ^ p` comparable:
what a quarter unit of the significand counts, and what a unit of the grid counts.
-/
def scales (x : Dyadic) (p : Int) : Nat × Nat :=
  let q := x.exponent - 2
  (Nat.pow 2 q.toNat * Nat.pow 10 (-p).toNat, Nat.pow 10 p.toNat * Nat.pow 2 (-q).toNat)

/-- Whether `d * 10 ^ p` reads back as the number: it lies between the midpoints to both
neighbours, which themselves belong to the number if its significand is even.
-/
def readsBack (x : Dyadic) (p : Int) (d : Nat) : Bool :=
  let (quarter, unit) := scales x p
  let low := (4 * x.significand - if x.narrowBelow then 1 else 2) * quarter
  let high := (4 * x.significand + 2) * quarter
  let point := d * unit
  if x.significand % 2 = 0 then low ≤ point && point ≤ high
  else low < point && point < high

/-- The point of the grid `10 ^ p` that reads back, if there is one. Only the two points
around the number can; of both, the nearer is taken, and on a tie the even one.
-/
def gridPoint? (x : Dyadic) (p : Int) : Option Nat :=
  let (quarter, unit) := scales x p
  let value := 4 * x.significand * quarter
  let below := value / unit
  let fromBelow := value - below * unit
  let toAbove := (below + 1) * unit - value
  match 0 < below && readsBack x p below, readsBack x p (below + 1) with
  | true, true =>
    if fromBelow < toAbove || (fromBelow = toAbove && below % 2 = 0) then some below
    else some (below + 1)
  | true, false => some below
  | false, true => some (below + 1)
  | false, false => none

/-- The first hit on the grids `10 ^ p`, `10 ^ (p - 1)`, and so on. -/
def firstHit (x : Dyadic) : Nat → Int → Point
  | 0, p => ⟨4 * x.significand * (scales x p).1 / (scales x p).2, p⟩
  | fuel + 1, p =>
    match gridPoint? x p with
    | some d => ⟨d, p⟩
    | none => firstHit x fuel (p - 1)

/-- The shortest decimal of a positive number. The search starts at a power of ten above the
number; seventeen digits always suffice, so it ends within two dozen grids.
-/
def shortest (x : Dyadic) : Point :=
  let bits : Int := x.significand.log2 + 1 + x.exponent
  firstHit x 24 (bits * 30103 / 100000 + 2)

end DeclaredSettings.Decimal
