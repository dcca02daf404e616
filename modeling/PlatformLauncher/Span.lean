import PlatformLauncher.Number.Numeral

/-!
Lengths of time in seconds and nanoseconds, as long as the seconds fit into 64 bits. Main statement:
`times?_ofMillis`, a whole number of milliseconds is multiplied without loss.
-/
namespace PlatformLauncher

structure Span where
  seconds : Nat
  nanos : Nat
deriving DecidableEq, Repr

namespace Span

def nanosPerSecond : Nat := 1000000000
def nanosPerMilli : Nat := 1000000

def ofMillis (ms : Nat) : Span := ⟨ms / 1000, ms % 1000 * nanosPerMilli⟩

def toMillis (s : Span) : Nat := s.seconds * 1000 + s.nanos / nanosPerMilli

/-- Seconds and nanoseconds are multiplied apart and what the nanoseconds carry is added; nothing
when the seconds do not fit. -/
def times? (s : Span) (k : Nat) : Option Span :=
  let nanos := s.nanos * k
  let seconds := s.seconds * k
  if seconds < twoTo 64 ∧ seconds + nanos / nanosPerSecond < twoTo 64 then
    some ⟨seconds + nanos / nanosPerSecond, nanos % nanosPerSecond⟩
  else none

def overflowText : List Char := "overflow when multiplying duration by scalar".toList

theorem carry_ofMillis (ms k : Nat) :
    ms / 1000 * k + ms % 1000 * nanosPerMilli * k / nanosPerSecond = ms * k / 1000 := by
  have split : ms * k = 1000 * (ms / 1000 * k) + ms % 1000 * k := by
    rw [← Nat.mul_assoc, ← Nat.add_mul, Nat.div_add_mod]
  have nanos : ms % 1000 * nanosPerMilli * k / nanosPerSecond = ms % 1000 * k / 1000 := by
    rw [Nat.mul_right_comm, show nanosPerSecond = 1000 * nanosPerMilli from rfl,
      Nat.mul_div_mul_right _ _ (by decide)]
  rw [nanos, split]
  omega

theorem times?_ofMillis (ms k : Nat) :
    (ofMillis ms).times? k =
      if ms * k / 1000 < twoTo 64 then some (ofMillis (ms * k)) else none := by
  have carry := carry_ofMillis ms k
  have rest : ms % 1000 * nanosPerMilli * k % nanosPerSecond =
      ms * k % 1000 * nanosPerMilli := by
    rw [Nat.mul_right_comm, show nanosPerSecond = 1000 * nanosPerMilli from rfl,
      Nat.mul_mod_mul_right, Nat.mod_mul_mod]
  unfold times? ofMillis
  simp only [carry, rest]
  by_cases h : ms * k / 1000 < twoTo 64
  · have low : ms / 1000 * k < twoTo 64 :=
      Nat.lt_of_le_of_lt (carry ▸ Nat.le_add_right _ _) h
    rw [if_pos ⟨low, h⟩, if_pos h]
  · rw [if_neg (fun x => h x.2), if_neg h]

end Span

end PlatformLauncher
