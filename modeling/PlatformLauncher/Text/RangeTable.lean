import PlatformLauncher.Text

/-!
Sets of characters given as ranges. The written form is a list of words, each a code point in
hexadecimal or two of them with a hyphen between; `contains` asks for membership.
-/
namespace PlatformLauncher.Text

def hexDigit? (c : Char) : Option Nat :=
  let n := c.toNat
  if 0x30 ≤ n ∧ n ≤ 0x39 then some (n - 0x30)
  else if 0x41 ≤ n ∧ n ≤ 0x46 then some (n - 0x37)
  else if 0x61 ≤ n ∧ n ≤ 0x66 then some (n - 0x57)
  else none

def hexValue? (s : Text) : Option Nat :=
  if s.isEmpty then none
  else s.foldl (fun v c => v.bind fun n => (hexDigit? c).map (16 * n + ·)) (some 0)

abbrev RangeTable := List (Nat × Nat)

namespace RangeTable

def range? (word : Text) : Option (Nat × Nat) :=
  match cutAt? '-' word with
  | none => (hexValue? word).map fun n => (n, n)
  | some (low, high) => do pure (← hexValue? low, ← hexValue? high)

def ofWritten (s : String) : RangeTable :=
  (pieces ' ' (s.toList.map fun c => if c = '\n' then ' ' else c)).filterMap range?

def contains (t : RangeTable) (c : Char) : Bool :=
  t.any fun (low, high) => low ≤ c.toNat && c.toNat ≤ high

end RangeTable

end PlatformLauncher.Text
