import HomePairing.Number.PowMod

/-!
# The field of the curves

Both curves live over the integers modulo `2 ^ 255 - 19`. An element is its
canonical representative, a number below the prime.
-/

namespace HomePairing.Field

def prime : Nat := Nat.pow 2 255 - 19

def add (a b : Nat) : Nat := (a + b) % prime

def sub (a b : Nat) : Nat := (a + (prime - b)) % prime

def mul (a b : Nat) : Nat := a * b % prime

/-- The inverse of an element, by Fermat's little theorem; zero for zero. -/
def inv (a : Nat) : Nat := powMod a (prime - 2) prime

/-- A square root of minus one. -/
def sqrtMinusOne : Nat := powMod 2 ((prime - 1) / 4) prime

/-- The even square root of `u / v`, if there is one. -/
def sqrtRatio? (u v : Nat) : Option Nat :=
  let v3 := mul (mul v v) v
  let v7 := mul (mul v3 v3) v
  let root := mul (mul u v3) (powMod (mul u v7) ((prime - 5) / 8) prime)
  let square := mul v (mul root root)
  let root? :=
    if square = u then some root
    else if square = sub 0 u then some (mul root sqrtMinusOne)
    else none
  root?.map fun r => if r % 2 = 0 then r else sub 0 r

end HomePairing.Field
