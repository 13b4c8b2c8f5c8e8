/-!
# Powers of two and ten

The two kinds of powers that numbers of fixed width and decimal numbers are measured with.
-/

namespace ResourceMoves.Number

/-- `2 ^ n`. -/
abbrev pow2 (n : Nat) : Nat := Nat.pow 2 n

/-- `10 ^ n`. -/
abbrev pow10 (n : Nat) : Nat := Nat.pow 10 n

end ResourceMoves.Number
