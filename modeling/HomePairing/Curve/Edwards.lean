import HomePairing.Bytes.Block
import HomePairing.Curve.Field

/-!
# Points of the Edwards curve

The curve `-x² + y² = 1 + d x² y²`, on which signatures are made. A point is
kept as a ratio `x = X / Z`, `y = Y / Z` with `T = X Y / Z` beside it, so that
adding needs no division; the addition law has no exceptions.
-/

namespace HomePairing.Edwards

/-- A point, in extended coordinates. -/
structure Point where
  X : Nat
  Y : Nat
  Z : Nat
  T : Nat

def d : Nat := Field.mul (Field.sub 0 121665) (Field.inv 121666)

def twiceD : Nat := Field.add d d

def order : Nat := Nat.pow 2 252 + 27742317777372353535851937790883648493

def Point.ofAffine (x y : Nat) : Point := ⟨x, y, 1, Field.mul x y⟩

def Point.neutral : Point := ⟨0, 1, 1, 0⟩

def Point.add (p q : Point) : Point :=
  let a := Field.mul (Field.sub p.Y p.X) (Field.sub q.Y q.X)
  let b := Field.mul (Field.add p.Y p.X) (Field.add q.Y q.X)
  let c := Field.mul (Field.mul p.T twiceD) q.T
  let d := Field.mul (Field.add p.Z p.Z) q.Z
  let e := Field.sub b a
  let f := Field.sub d c
  let g := Field.add d c
  let h := Field.add b a
  ⟨Field.mul e f, Field.mul g h, Field.mul f g, Field.mul e h⟩

/-- A point added to itself. -/
def Point.double (p : Point) : Point :=
  let a := Field.mul p.X p.X
  let b := Field.mul p.Y p.Y
  let zz := Field.mul p.Z p.Z
  let c := Field.add zz zz
  let sum := Field.add p.X p.Y
  let h := Field.add a b
  let e := Field.sub h (Field.mul sum sum)
  let g := Field.sub a b
  let f := Field.add c g
  ⟨Field.mul e f, Field.mul g h, Field.mul f g, Field.mul e h⟩

def Point.neg (p : Point) : Point :=
  ⟨Field.sub 0 p.X, p.Y, p.Z, Field.sub 0 p.T⟩

/-- A multiple of a point, for factors below `2 ^ bits`. -/
def Point.scaleBits (p : Point) : (bits factor : Nat) → Point
  | 0, _ => neutral
  | bits + 1, factor =>
    let twice := (scaleBits p bits (factor / 2)).double
    if factor % 2 = 1 then twice.add p else twice

def Point.scale (factor : Nat) (p : Point) : Point :=
  p.scaleBits (factor.log2 + 1) factor

/-- The written form: `y` in 255 bits, and the parity of `x` on top. -/
def Point.compress (p : Point) : Key :=
  let scale := Field.inv p.Z
  let x := Field.mul p.X scale
  let y := Field.mul p.Y scale
  Block.ofNatLE 32 (y + Nat.pow 2 255 * (x % 2))

/-- The point a written form stands for, if there is one. A `y` above the prime
is taken modulo it. -/
def Point.decompress? (bytes : Key) : Option Point :=
  let n := Bytes.toNatLE bytes.bytes
  let y := n % Nat.pow 2 255 % Field.prime
  let yy := Field.mul y y
  let root? := Field.sqrtRatio? (Field.sub yy 1) (Field.add (Field.mul d yy) 1)
  root?.map fun x => .ofAffine (if n / Nat.pow 2 255 = 1 then Field.sub 0 x else x) y

/-- The base point: `y = 4 / 5`, with even `x`. -/
def base : Point :=
  .ofAffine
    15112221349535400772501151409588531511454012693041857206046113283949847762202
    46316835694926478169428394003475163141307993866256225615783033603165251855960

end HomePairing.Edwards
