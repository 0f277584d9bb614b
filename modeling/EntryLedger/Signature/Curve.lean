import EntryLedger.Bytes

/-!
# The twisted Edwards curve of Ed25519

Field elements are numbers below the prime 2^255 - 19.  Points are kept in
extended coordinates, where one addition law covers doubling and the neutral
point as well.  A point is written as its second coordinate with the parity
of the first in the top bit.
-/

namespace EntryLedger.Curve

/-- The prime of the base field. -/
def prime : Nat :=
  1 <<< 255 - 19

/-- The prime order of the group that the base point generates. -/
def order : Nat :=
  1 <<< 252 + 27742317777372353535851937790883648493

def sub (left right : Nat) : Nat :=
  (left + prime - right) % prime

def mul (left right : Nat) : Nat :=
  left * right % prime

def power (base exponent : Nat) : Nat :=
  if exponent = 0 then 1
  else
    let half := power base (exponent / 2)
    let square := mul half half
    if exponent % 2 = 1 then mul square base else square

/-- The inverse of a field element; zero for zero. -/
def inverse (element : Nat) : Nat :=
  power element (prime - 2)

/-- The coefficient of the curve equation. -/
def coefficient : Nat :=
  37095705934669439343138083508754565189542113879843219016388785533085940283555

/-- A square root of minus one. -/
def rootOfMinusOne : Nat :=
  19681161376707505956807079304988542015446066515923890162744021073123829784752

/-- A point in extended coordinates: the affine coordinates are `x / z` and
`y / z`, and `t` is their product times `z`. -/
structure Point where
  x : Nat
  y : Nat
  z : Nat
  t : Nat

namespace Point

def zero : Point where
  x := 0
  y := 1
  z := 1
  t := 0

/-- The point with the given affine coordinates. -/
def ofAffine (x y : Nat) : Point where
  x := x
  y := y
  z := 1
  t := mul x y

def base : Point :=
  ofAffine
    15112221349535400772501151409588531511454012693041857206046113283949847762202
    46316835694926478169428394003475163141307993866256225615783033603165251855960

def neg (point : Point) : Point where
  x := sub 0 point.x
  y := point.y
  z := point.z
  t := sub 0 point.t

def add (left right : Point) : Point :=
  let a := mul (sub left.y left.x) (sub right.y right.x)
  let b := mul (left.y + left.x) (right.y + right.x)
  let c := mul (mul (2 * coefficient) left.t) right.t
  let d := mul (2 * left.z) right.z
  let e := sub b a
  let f := sub d c
  let g := d + c
  let h := b + a
  { x := mul e f, y := mul g h, z := mul f g, t := mul e h }

def scale (scalar : Nat) (point : Point) : Point :=
  if scalar = 0 then zero
  else
    let half := scale (scalar / 2) point
    let double := half.add half
    if scalar % 2 = 1 then double.add point else double

/-- The 32 bytes of a point. -/
def encode (point : Point) : Bytes :=
  let unit := inverse point.z
  let x := mul point.x unit
  let y := mul point.y unit
  Bytes.littleEndian 32 (y + (x % 2) <<< 255)

end Point

/-- An even square root of a quotient, if there is one. -/
def quotientRoot? (numerator denominator : Nat) : Option Nat :=
  let cube := mul (mul denominator denominator) denominator
  let seventh := mul (mul cube cube) denominator
  let candidate := mul (mul numerator cube)
    (power (mul numerator seventh) ((prime - 5) / 8))
  let check := mul denominator (mul candidate candidate)
  let root? :=
    if check = numerator then some candidate
    else if check = sub 0 numerator then some (mul candidate rootOfMinusOne)
    else none
  root?.map fun root => if root % 2 = 1 then sub 0 root else root

/-- Read a point from 32 bytes.  The second coordinate is reduced modulo the
prime, and a set top bit on a point whose first coordinate is zero is
accepted. -/
def Point.decode? (bytes : Bytes) : Option Point :=
  let number := Bytes.ofLittleEndian bytes
  let y := number % (1 <<< 255) % prime
  let odd := (number >>> 255) % 2 = 1
  let square := mul y y
  (quotientRoot? (sub square 1) ((mul coefficient square + 1) % prime)).map fun root =>
    Point.ofAffine (if odd then sub 0 root else root) y

end EntryLedger.Curve
