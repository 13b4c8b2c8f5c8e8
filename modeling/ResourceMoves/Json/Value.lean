import ResourceMoves.Keyed
import ResourceMoves.Number.Rounding

/-!
# JSON values

A number keeps its kind: an integer of 64 bits, signed or unsigned, or a double.  The entries of an
object stand in the order in which they are written; a value that was read has them in key order.
-/

namespace ResourceMoves.Json

/-- A JSON number. -/
inductive Number
  | integer (i : Int)
  | float (x : ResourceMoves.Number.Binary64)
  deriving DecidableEq

/-- The integers that stay integers: those of 64 bits, signed or unsigned. -/
def Number.isWord (i : Int) : Bool :=
  -(ResourceMoves.Number.pow2 63 : Int) ≤ i && i < ResourceMoves.Number.pow2 64

/-- A JSON value. -/
inductive Value
  | null
  | bool (b : Bool)
  | number (n : Number)
  | string (s : String)
  | array (items : List Value)
  | object (entries : List (String × Value))

instance : Inhabited Value := ⟨.null⟩

namespace Value

/-- An integer of 64 bits. -/
def int (i : Int) : Value := .number (.integer i)

/-- A natural number of 64 bits. -/
def nat (n : Nat) : Value := .number (.integer n)

/-- Strings as an array. -/
def strings (items : List String) : Value := .array (items.map .string)

/-- A string, or null. -/
def stringOrNull : Option String → Value
  | some s => .string s
  | none   => .null

/-- A value, or null. -/
def orNull : Option Value → Value
  | some v => v
  | none   => .null

end Value

end ResourceMoves.Json
