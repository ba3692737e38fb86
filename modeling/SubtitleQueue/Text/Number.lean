/-!
Reading unsigned decimal numbers as the queue's settings and subtitle files write them: an
optional plus sign, then one or more ASCII digits, and a value that fits in 64 bits.
-/

namespace SubtitleQueue.Text

/-- The largest value of a 64-bit unsigned word. -/
def wordMax : Nat := Nat.pow 2 64 - 1

/-- The value of a list of ASCII digits; `none` if a character is not one. -/
def digitsValue : List Char → Option Nat
  | [] => none
  | cs => cs.foldlM (fun n c => if c.isDigit then some (n * 10 + (c.toNat - 48)) else none) 0

/-- An unsigned number below `2 ^ 64`: an optional `+`, then ASCII digits only. -/
def parseUnsigned (s : String) : Option Nat :=
  let cs := s.toList
  let cs := match cs with
    | '+' :: rest => rest
    | _ => cs
  match digitsValue cs with
  | some n => if n ≤ wordMax then some n else none
  | none => none

/-- A number below `bound`, written as `parseUnsigned` reads it. -/
def parseBelow (bound : Nat) (s : String) : Option Nat :=
  match parseUnsigned s with
  | some n => if n < bound then some n else none
  | none => none

end SubtitleQueue.Text
