/-!
# Hexadecimal digits

## Main definitions

* `Text.hexDigit?` : the value of a hexadecimal digit.
* `Text.hexValue?` : the number that hexadecimal digits write.
-/

namespace AssessmentItem.Text

/-- The value of a hexadecimal digit, in either case. -/
def hexDigit? (c : Char) : Option Nat :=
  if '0' ≤ c && c ≤ '9' then some (c.toNat - '0'.toNat)
  else if 'a' ≤ c && c ≤ 'f' then some (c.toNat - 'a'.toNat + 10)
  else if 'A' ≤ c && c ≤ 'F' then some (c.toNat - 'A'.toNat + 10)
  else none

/-- The number that the hexadecimal digits `cs` write. -/
def hexValue? (cs : List Char) : Option Nat :=
  (cs.mapM hexDigit?).map fun digits ↦ digits.foldl (fun n d ↦ 16 * n + d) 0

end AssessmentItem.Text
