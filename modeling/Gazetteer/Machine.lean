/-! # Machines

What a machine sets bounds to: calls inside calls, and the digits of a number that is written.
-/

namespace Gazetteer

structure Machine where
  /-- How many directories can be traversed one inside the other. -/
  levels : Nat
  /-- How many digits a number can have that is written in decimals. -/
  digits : Nat

namespace Machine

/-- The bounds that hold unless others are set. Two calls go into each directory, and of a thousand
some are already taken. -/
def usual : Machine := { levels := 490, digits := 4300 }

def writes (m : Machine) (n : Int) : Bool := n.natAbs < Nat.pow 10 m.digits

def noRoomMessage : String := "maximum recursion depth exceeded"

def longNumberMessage (m : Machine) : String :=
  "Exceeds the limit (" ++ toString m.digits ++ " digits) for integer string conversion; " ++
    "use sys.set_int_max_str_digits() to increase the limit"

end Machine

end Gazetteer
