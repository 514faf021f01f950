/-!
# Powers of two and ten

The ranges of fixed-width numbers and the scales of floating point are powers of these two bases.
-/

namespace CommandBot.Number

def twoPow (n : Nat) : Nat := Nat.pow 2 n

def tenPow (n : Nat) : Nat := Nat.pow 10 n

@[simp] theorem twoPow_zero : twoPow 0 = 1 := rfl

@[simp] theorem tenPow_zero : tenPow 0 = 1 := rfl

end CommandBot.Number
