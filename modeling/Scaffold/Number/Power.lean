/-!
# Powers of the two bases of notation
-/
namespace Scaffold.Number

def twoTo (n : Nat) : Nat := Nat.pow 2 n

def tenTo (n : Nat) : Nat := Nat.pow 10 n

/-- The fraction `num / den` counted in units of a power of a base, which may be negative. -/
def inUnits (powerOf : Nat → Nat) (power : Int) (num den : Nat) : Nat × Nat :=
  if 0 ≤ power then (num, den * powerOf power.toNat) else (num * powerOf (-power).toNat, den)

@[simp] theorem twoTo_zero : twoTo 0 = 1 := rfl

theorem twoTo_succ (n : Nat) : twoTo (n + 1) = twoTo n * 2 := rfl

@[simp] theorem tenTo_zero : tenTo 0 = 1 := rfl

theorem tenTo_succ (n : Nat) : tenTo (n + 1) = tenTo n * 10 := rfl

end Scaffold.Number
