import R3000.Settings.Problem
import R3000.Text.Numeral
import R3000.Word

/-!
Addresses in text: hexadecimal digits, with or without `0x` in front and blanks around. Reading is
generous: it drops every leading `0x`, then every leading `0X`, and then one plus sign.
-/

namespace R3000

/-- Drops a pair of characters from the front as often as it stands there. -/
def dropPairs (p q : Char) : List Char → List Char
  | a :: b :: s => if a = p ∧ b = q then dropPairs p q s else a :: b :: s
  | s => s

/-- What is read as the digits of an address. -/
def addressDigits (s : List Char) : List Char :=
  dropPairs '0' 'X' (dropPairs '0' 'x' (Text.trim s))

/-- The address that a text denotes. -/
def parseAddress (t : String) : Except SettingsProblem Word :=
  match Text.unsigned? 16 UInt32.size (addressDigits t.toList) with
  | some n => .ok (UInt32.ofNat n)
  | none => .error (.badAddress t)

end R3000
