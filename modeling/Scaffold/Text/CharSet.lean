/-!
# Sets of characters

A set is given by the code points at which membership changes, in rising order, starting outside.
-/
namespace Scaffold.Text

structure CharSet where
  bounds : List Nat

def CharSet.contains (s : CharSet) (code : Nat) : Bool :=
  (s.bounds.takeWhile (· ≤ code)).length % 2 == 1

end Scaffold.Text
