import PlatformLauncher.Settings.Basic
import PlatformLauncher.Span

/-!
Asking a probe again and again until it answers or the attempts are used up. The poller is written
over any monad, so that a run can be recorded or carried out. Main statement: `pollFrom_succ`, a poll
is an attempt and, when that was in vain, a pause and the rest of the poll.
-/
namespace PlatformLauncher

inductive Readiness where
  | ready (attempt : Nat)
  | timedOut (attempts : Nat)
deriving DecidableEq, Repr

namespace Readiness

def isReady : Readiness → Bool
  | ready _ => true
  | timedOut _ => false

def attempts : Readiness → Nat
  | ready n | timedOut n => n

end Readiness

/-- How often to ask, and how many milliseconds to wait in between. -/
structure PollPolicy where
  attempts : Nat
  interval : Nat
deriving DecidableEq, Repr

namespace PollPolicy

def ofSettings (p : PollSettings) : PollPolicy := ⟨p.attempts.toNat, p.intervalMs.toNat⟩

def standard : PollPolicy := ofSettings Settings.standard.poll

def budget? (p : PollPolicy) : Option Span := (Span.ofMillis p.interval).times? p.attempts

end PollPolicy

structure Poller (m : Type → Type) where
  announce : Nat → m Unit
  probe : m Bool
  sleep : Nat → m Unit

namespace Poller

variable {m : Type → Type} [Monad m]

/-- Polls with so many attempts left; attempts are numbered from one. -/
def pollFrom (p : Poller m) (policy : PollPolicy) : Nat → m Readiness
  | 0 => pure (.timedOut policy.attempts)
  | left + 1 => do
    p.announce (policy.attempts - left)
    if ← p.probe then
      pure (.ready (policy.attempts - left))
    else
      if 0 < left then p.sleep policy.interval
      p.pollFrom policy left

def poll (p : Poller m) (policy : PollPolicy) : m Readiness := p.pollFrom policy policy.attempts

def attempt (p : Poller m) (n : Nat) : m Bool := do
  p.announce n
  p.probe

def pause (p : Poller m) (policy : PollPolicy) (left : Nat) : m Unit :=
  if 0 < left then p.sleep policy.interval else pure ()

theorem pollFrom_succ [LawfulMonad m] (p : Poller m) (policy : PollPolicy) (left : Nat) :
    p.pollFrom policy (left + 1) =
      p.attempt (policy.attempts - left) >>= fun ready =>
        if ready then pure (.ready (policy.attempts - left))
        else p.pause policy left >>= fun _ => p.pollFrom policy left := by
  rw [pollFrom, attempt, bind_assoc]
  refine bind_congr fun _ => bind_congr fun ready => ?_
  split
  · rfl
  · unfold pause
    split
    · rfl
    · rw [pure_bind]

theorem run_pollFrom_of_attempt {σ : Type} {p : Poller (StateM σ)} {policy : PollPolicy}
    {left : Nat} {s s₁ : σ} {ready : Bool}
    (attempted : (p.attempt (policy.attempts - left)).run s = (ready, s₁)) :
    (p.pollFrom policy (left + 1)).run s =
      if ready then (.ready (policy.attempts - left), s₁)
      else (p.pollFrom policy left).run ((p.pause policy left).run s₁).2 := by
  rw [pollFrom_succ, StateT.run_bind, attempted]
  cases ready <;> rfl

end Poller

end PlatformLauncher
