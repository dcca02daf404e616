import PlatformLauncher.Proofs.Bootstrap.PollTrace

/-!
How long a poll takes. The budget of a poll is told exactly or not at all, and what a run has slept
is read off its history. Main statements: `PollPolicy.budget?_eq` for the budget, `slept_of_settles`
for a run, and `poll_time_told` for what the operator reads of both.
-/
namespace PlatformLauncher

namespace Span

def inNanos (s : Span) : Nat := s.seconds * nanosPerSecond + s.nanos

theorem inNanos_ofMillis (ms : Nat) : (ofMillis ms).inNanos = ms * nanosPerMilli := by
  simp only [inNanos, ofMillis, nanosPerSecond, nanosPerMilli]
  omega

theorem nanos_ofMillis_lt (ms : Nat) : (ofMillis ms).nanos < nanosPerSecond := by
  simp only [ofMillis, nanosPerSecond, nanosPerMilli]
  omega

theorem nanos_times_lt (ms : Nat) (k : UInt32) : (ofMillis ms).nanos * k.toNat < twoTo 64 :=
  calc (ofMillis ms).nanos * k.toNat
    _ ≤ nanosPerSecond * k.toNat := Nat.mul_le_mul_right _ (Nat.le_of_lt (nanos_ofMillis_lt ms))
    _ < nanosPerSecond * 2 ^ 32 := Nat.mul_lt_mul_of_pos_left k.toNat_lt (by decide)
    _ < twoTo 64 := by decide

end Span

namespace PollPolicy

/-- The milliseconds that a poll may take. -/
def total (p : PollPolicy) : Nat := p.attempts * p.interval

theorem budget?_eq (p : PollPolicy) :
    p.budget? = if p.total / 1000 < twoTo 64 then some (.ofMillis p.total) else none := by
  rw [budget?, Span.times?_ofMillis, Nat.mul_comm, total]

theorem budget?_eq_none_iff (p : PollPolicy) : p.budget? = none ↔ twoTo 64 ≤ p.total / 1000 := by
  rw [budget?_eq]
  split
  · next fits => simp [fits]
  · next late => simp [Nat.not_lt.1 late]

theorem eq_ofMillis_of_budget? {p : PollPolicy} {b : Span} (told : p.budget? = some b) :
    p.total / 1000 < twoTo 64 ∧ b = .ofMillis p.total := by
  rw [budget?_eq] at told
  split at told
  · next fits => exact ⟨fits, (Option.some.inj told).symm⟩
  · cases told

theorem slept_le_total {p : PollPolicy} {slept n : Nat} (within : n ≤ p.attempts)
    (pauses : slept ≤ (n - 1) * p.interval) :
    slept ≤ p.total ∧ (slept = p.total ↔ p.interval = 0 ∨ p.attempts = 0) := by
  have upTo : (n - 1) * p.interval ≤ p.total := Nat.mul_le_mul_right _ (by omega)
  refine ⟨Nat.le_trans pauses upTo, fun equal => ?_, fun idle => ?_⟩
  · by_cases never : p.attempts = 0
    · exact .inr never
    · -- a pause of any length would be missing
      refine .inl (Nat.eq_zero_of_not_pos fun pause => ?_)
      have less : (n - 1) * p.interval < p.total := Nat.mul_lt_mul_of_pos_right (by omega) pause
      omega
  · have no_time : p.total = 0 := by rcases idle with h | h <;> simp [total, h]
    omega

end PollPolicy

namespace Bootstrap

open Poller

def inAll (pauses : List Nat) : Nat := pauses.foldr (· + ·) 0

theorem inAll_append (pauses later : List Nat) :
    inAll (pauses ++ later) = inAll pauses + inAll later := by
  induction pauses with
  | nil => exact (Nat.zero_add _).symm
  | cons ms pauses ih =>
    change ms + inAll (pauses ++ later) = ms + inAll pauses + inAll later
    rw [ih, Nat.add_assoc]

theorem inAll_replicate (n ms : Nat) : inAll (List.replicate n ms) = n * ms := by
  induction n with
  | zero => exact (Nat.zero_mul ms).symm
  | succ n ih =>
    change ms + inAll (List.replicate n ms) = (n + 1) * ms
    rw [ih, Nat.succ_mul, Nat.add_comm]

def Event.slept? : Event → Option Nat
  | .slept ms => some ms
  | _ => none

def sleptIn (h : History) : Nat := inAll (h.filterMap Event.slept?)

section Slept

variable (h : History)

theorem sleptIn_append (h' : History) : sleptIn (h' ++ h) = sleptIn h' + sleptIn h := by
  rw [sleptIn, List.filterMap_append, inAll_append]
  rfl

theorem sleptIn_le_of_suffix {h h' : History} (suffix : h <:+ h') : sleptIn h ≤ sleptIn h' := by
  obtain ⟨later, rfl⟩ := suffix
  rw [sleptIn_append]
  exact Nat.le_add_left _ _

theorem sleptIn_probed : sleptIn (.probed :: h) = sleptIn h := rfl

theorem sleptIn_slept (ms : Nat) : sleptIn (.slept ms :: h) = ms + sleptIn h := rfl

theorem sleptIn_settledHistory (settings : Settings) (cwd home : Path) :
    sleptIn (settledHistory settings cwd home h) = sleptIn h := rfl

theorem sleptIn_installs (requests : List Install.Request) :
    sleptIn (requests.map Event.askedInstaller) = 0 := by
  induction requests with
  | nil => rfl
  | cons r rest ih => exact ih

end Slept

section Errands

variable (settings : Settings) (here : Location) (cwd : Path) (deps : Collaborators) (home : Path)

theorem slept_pollFrom {policy : PollPolicy} {made left : Nat} (all : made + left = policy.attempts)
    {w w' : World} {r : Readiness}
    (polled : ((Errand.poller deps home).pollFrom policy left).run w = (r, w')) :
    ∃ pauses, sleptIn w'.history = pauses * policy.interval + sleptIn w.history ∧
      (r = .ready (made + (pauses + 1)) ∧ pauses < left ∨
        r = .timedOut policy.attempts ∧ pauses = left - 1) := by
  induction left generalizing made w with
  | zero =>
    cases polled
    exact ⟨0, by rw [Nat.zero_mul, Nat.zero_add], .inr ⟨rfl, rfl⟩⟩
  | succ left ih =>
    have number : policy.attempts - left = made + 1 := by omega
    have rest : made + 1 + left = policy.attempts := by omega
    rw [run_pollFrom_succ, number] at polled
    split at polled
    · cases polled
      exact ⟨0, by rw [sleptIn_probed, Nat.zero_mul, Nat.zero_add], .inl ⟨rfl, by omega⟩⟩
    split at polled
    · obtain ⟨pauses, slept, found⟩ := ih rest polled
      rw [sleptIn_slept, sleptIn_probed] at slept
      refine ⟨pauses + 1, by rw [slept, Nat.succ_mul]; omega, ?_⟩
      rcases found with ⟨found, within⟩ | ⟨found, everyPause⟩
      · exact .inl ⟨by rw [found]; congr 1; omega, by omega⟩
      · exact .inr ⟨found, by omega⟩
    · obtain ⟨pauses, slept, found⟩ := ih rest polled
      rcases found with ⟨-, within⟩ | ⟨found, everyPause⟩
      · omega
      · exact ⟨pauses, slept, .inr ⟨found, by omega⟩⟩

theorem slept_waitUntilReady (w : World) :
    let policy := PollPolicy.ofSettings settings.poll
    let waited := (Errand.waitUntilReady deps settings home).run w
    sleptIn waited.2.history = (waited.1.attempts - 1) * policy.interval + sleptIn w.history ∧
      waited.1.attempts ≤ policy.attempts ∧
      (waited.1.isReady = false → waited.1 = .timedOut policy.attempts) := by
  intro policy waited
  have all : 0 + policy.attempts = policy.attempts := Nat.zero_add _
  obtain ⟨⟨readiness, w'⟩, polled⟩ : ∃ polled, waited = polled := ⟨_, rfl⟩
  rw [polled]
  obtain ⟨pauses, slept, found⟩ := slept_pollFrom deps home all polled
  rcases found with ⟨rfl, within⟩ | ⟨rfl, rfl⟩
  · have number : 0 + (pauses + 1) - 1 = pauses := by omega
    refine ⟨?_, ?_, fun late => by cases late⟩
    · rw [Readiness.attempts, number]
      exact slept
    · rw [Readiness.attempts]
      omega
  · exact ⟨slept, Nat.le_refl _, fun _ => rfl⟩

theorem slept_launch (w : World) :
    sleptIn ((Errand.launch deps here home).run w).2.history = sleptIn w.history := by
  obtain ⟨recorded, launched⟩ := history_launch here deps home w
  rw [launched, sleptIn_append]
  cases recorded <;> exact Nat.zero_add _

theorem slept_installAll (t : Tree) :
    sleptIn (installed settings here cwd deps ⟨t, []⟩).2.history = 0 := by
  obtain ⟨requests, asked⟩ := history_installAll here cwd deps settings.packages ⟨t, []⟩
  rw [installed, asked, List.append_nil, ← List.map_reverse, sleptIn_installs]

theorem attempts_of_verdict (w : World) :
    let policy := PollPolicy.ofSettings settings.poll
    (verdict settings here deps home w).attempts ≤ policy.attempts ∧
      ((verdict settings here deps home w).isReady = false →
        verdict settings here deps home w = .timedOut policy.attempts) :=
  (slept_waitUntilReady settings deps home ((Errand.launch deps here home).run w).2).2

end Errands

section Whole

variable {settings : Settings} {here : Location} {cwd : Path} {deps : Collaborators} {t : Tree}

theorem slept_of_settles {home : Path} {w : World}
    (settles : Settles settings here cwd deps (installed settings here cwd deps ⟨t, []⟩).2 home w) :
    sleptIn (endOf ((run settings here cwd deps).run (.start t .unlimited))).history =
      ((verdict settings here deps home w).attempts - 1) *
        (PollPolicy.ofSettings settings.poll).interval := by
  obtain ⟨s₁, open₁, rfl, rest⟩ := run_of_settles (s := .start t .unlimited) rfl settles
  have gone := congrArg World.history (world_of_proceed settings here cwd deps open₁
    (installed settings here cwd deps ⟨t, []⟩).1 home)
  obtain ⟨polled, -⟩ :=
    slept_waitUntilReady settings deps home ((Errand.launch deps here home).run s₁.world).2
  have before : sleptIn s₁.world.history = 0 := by
    rw [settles.history]
    exact slept_installAll settings here cwd deps t
  rw [slept_launch, before, Nat.add_zero, ← gone] at polled
  rw [rest]
  exact polled

theorem slept_of_fails {failure : Failure}
    (fails : Fails settings here cwd deps (installed settings here cwd deps ⟨t, []⟩).2 failure) :
    sleptIn (endOf ((run settings here cwd deps).run (.start t .unlimited))).history = 0 := by
  have noted := sleptIn_le_of_suffix (history_of_fails settings here cwd deps t fails)
  rw [sleptIn_settledHistory, slept_installAll] at noted
  exact Nat.eq_zero_of_le_zero noted

variable (settings here cwd deps t) in
theorem slept_of_full_run :
    ∃ n, n ≤ settings.poll.attempts.toNat ∧
      sleptIn (endOf ((run settings here cwd deps).run (.start t .unlimited))).history =
        (n - 1) * settings.poll.intervalMs.toNat := by
  rcases fails_or_settles settings here cwd deps (installed settings here cwd deps ⟨t, []⟩).2 with
    ⟨failure, fails⟩ | ⟨home, w, settles⟩
  · exact ⟨0, Nat.zero_le _, by rw [slept_of_fails fails, Nat.zero_sub, Nat.zero_mul]⟩
  · exact ⟨_, (attempts_of_verdict settings here deps home w).1, slept_of_settles settles⟩

theorem run_lines_unlimited (lines : List Text) (t : Tree) (accepted complaints : Octets)
    (h : History) :
    let written := Octets.encode (lines.flatMap (· ++ ['\n']))
    (lines.forM Flow.writeLine).run ⟨t, ⟨accepted, none⟩, complaints, h⟩ =
      .ok () ⟨t, ⟨accepted ++ written, none⟩, complaints, h⟩ := by
  induction lines generalizing accepted with
  | nil => simp [Octets.encode]
  | cons line rest ih =>
    change (Flow.write (line ++ ['\n']) >>= fun _ => rest.forM Flow.writeLine).run _ = _
    rw [EStateM.run_bind, run_write_unlimited]
    dsimp only
    rw [ih, List.flatMap_cons, Octets.encode_append (line ++ ['\n']), List.append_assoc]

def lateText (settings : Settings) (cwd : Path) (seconds : Nat) : Text :=
  Advice.readinessTimeout seconds settings.daemon.logFile ++ ['\n'] ++
    (guidance settings (envFileOf settings cwd)).flatMap (· ++ ['\n'])

theorem output_of_timedOut {home : Path} {w : World}
    (settles : Settles settings here cwd deps (installed settings here cwd deps ⟨t, []⟩).2 home w)
    (late : (verdict settings here deps home w).isReady = false) {b : Span}
    (told : (PollPolicy.ofSettings settings.poll).budget? = some b) :
    ∃ said, (endOf ((run settings here cwd deps).run (.start t .unlimited))).sink.accepted =
      said ++ Octets.encode (lateText settings cwd b.seconds) := by
  obtain ⟨s₁, open₁, rfl, rest⟩ := run_of_settles (s := .start t .unlimited) rfl settles
  obtain ⟨⟨tree, ⟨said, room⟩, complaints, history⟩, open₂, ends⟩ := run_proceed settings here cwd
    deps (installed settings here cwd deps ⟨t, []⟩).1 home open₁
  cases (show room = none from open₂)
  refine ⟨said, ?_⟩
  have last := (attempts_of_verdict settings here deps home s₁.world).2 late
  rw [rest, show (State.start t .unlimited).world = ⟨t, []⟩ from rfl, ends, last, EStateM.run_bind,
    run_reportReadiness, told]
  dsimp only
  rw [Flow.writeLine, run_write_unlimited]
  dsimp only
  rw [EStateM.run_bind, run_lines_unlimited, lateText, Octets.encode_append (_ ++ ['\n']),
    ← List.append_assoc]
  rfl

theorem report_told {report : Report} {s : State}
    (reported : (run settings here cwd deps).run (.start t .unlimited) = .ok report s) :
    let policy := PollPolicy.ofSettings settings.poll
    sleptIn s.history = (report.readiness.attempts - 1) * policy.interval ∧
      report.readiness.attempts ≤ policy.attempts ∧
      (report.readiness.isReady = false →
        report.readiness = .timedOut policy.attempts ∧ ∃ b, policy.budget? = some b ∧
          ∃ said, s.sink.accepted = said ++ Octets.encode (lateText settings cwd b.seconds)) := by
  intro policy
  obtain ⟨home, w, settles, fits, rfl⟩ := (run_reports_iff rfl report).1 ⟨s, reported⟩
  have slept := slept_of_settles (t := t) settles
  obtain ⟨attempts, last⟩ := attempts_of_verdict settings here deps home w
  rw [reported] at slept
  refine ⟨slept, attempts, fun late => ⟨last late, ?_⟩⟩
  cases told : policy.budget? with
  | none => exact absurd ⟨late, told⟩ fits
  | some b =>
    have output := output_of_timedOut (t := t) settles late told
    rw [reported] at output
    exact ⟨b, rfl, output⟩

/-- The budget of a poll is what its attempts and its interval come to, to the nanosecond; it can be
told unless its seconds need more than 64 bits, and the nanoseconds alone never do. A poll, whatever
its probe answers, and a run, however much its output takes, sleep for less than that, unless it is
no time at all. A run overflows just when it should tell an operator whose daemon does not answer a
budget that cannot be told; if it can, the operator reads its whole seconds. -/
theorem poll_time_told (settings : Settings) :
    let policy := PollPolicy.ofSettings settings.poll
    let total := settings.poll.attempts.toNat * settings.poll.intervalMs.toNat
    let idle := settings.poll.intervalMs = 0 ∨ settings.poll.attempts = 0
    (policy.budget? = none ↔ twoTo 64 ≤ total / 1000) ∧
    (Span.ofMillis policy.interval).nanos * policy.attempts < twoTo 64 ∧
    (∀ b, policy.budget? = some b →
      b.inNanos = total * Span.nanosPerMilli ∧ b.nanos < Span.nanosPerSecond ∧
        b.seconds = total / 1000) ∧
    (∀ answers,
      let steps := (((recorder answers).poll policy).run []).2
      let slept := inAll (steps.filterMap Step.slept?)
      slept ≤ total ∧ (slept = total ↔ idle)) ∧
    ∀ here cwd deps t,
      let result := (run settings here cwd deps).run (.start t .unlimited)
      let w := (installed settings here cwd deps ⟨t, []⟩).2
      (∀ limit,
        let cut := (run settings here cwd deps).run (.start t ⟨[], limit⟩)
        sleptIn (endOf cut).history ≤ total ∧ (sleptIn (endOf cut).history = total ↔ idle)) ∧
      ((∃ s, result = .error .overflow s) ↔
        twoTo 64 ≤ total / 1000 ∧ ∃ home w', Settles settings here cwd deps w home w' ∧
          (verdict settings here deps home w').isReady = false) ∧
      ∀ report s, result = .ok report s →
        sleptIn s.history = (report.readiness.attempts - 1) * settings.poll.intervalMs.toNat ∧
        report.readiness.attempts ≤ settings.poll.attempts.toNat ∧
        (report.readiness.isReady = false →
          report.readiness = .timedOut settings.poll.attempts.toNat ∧ total / 1000 < twoTo 64 ∧
          ∃ said, s.sink.accepted =
            said ++ Octets.encode (lateText settings cwd (total / 1000))) := by
  intro policy total idle
  have idle_iff : policy.interval = 0 ∨ policy.attempts = 0 ↔ idle := by
    simp [policy, idle, PollPolicy.ofSettings, ← UInt64.toNat_inj, ← UInt32.toNat_inj]
  have untold : policy.budget? = none ↔ twoTo 64 ≤ total / 1000 := policy.budget?_eq_none_iff
  have within {slept n : Nat} (attempts : n ≤ policy.attempts)
      (pauses : slept ≤ (n - 1) * policy.interval) : slept ≤ total ∧ (slept = total ↔ idle) :=
    by rw [← idle_iff]; exact PollPolicy.slept_le_total attempts pauses
  refine ⟨untold, Span.nanos_times_lt _ _, fun b told => ?_, fun answers => ?_,
    fun here cwd deps t => ⟨fun limit => ?_, ?_, fun report s reported => ?_⟩⟩
  · obtain ⟨-, rfl⟩ := PollPolicy.eq_ofMillis_of_budget? told
    exact ⟨Span.inNanos_ofMillis total, Span.nanos_ofMillis_lt total, rfl⟩
  · obtain ⟨readiness, steps, finds⟩ := recorded answers policy
    rw [steps]
    dsimp only
    rw [slept_turns, inAll_replicate]
    exact within finds.attempts_le (Nat.le_refl _)
  · obtain ⟨n, attempts, slept⟩ := slept_of_full_run settings here cwd deps t
    have cut := (truncates_run settings here cwd deps).history_suffix t limit
    exact within attempts (slept ▸ sleptIn_le_of_suffix cut)
  · rw [run_overflows_iff settings here cwd deps _ rfl]
    constructor
    · rintro ⟨home, w', settles, late, unbounded⟩
      exact ⟨untold.1 unbounded, home, w', settles, late⟩
    · rintro ⟨unbounded, home, w', settles, late⟩
      exact ⟨home, w', settles, late, untold.2 unbounded⟩
  · obtain ⟨slept, attempts, vain⟩ := report_told reported
    refine ⟨slept, attempts, fun late => ?_⟩
    obtain ⟨last, b, told, output⟩ := vain late
    obtain ⟨fits, rfl⟩ := PollPolicy.eq_ofMillis_of_budget? told
    exact ⟨last, fits, output⟩

def impatient : Settings := { Settings.standard with poll := ⟨2, 1999⟩ }

theorem poll_time_told_of_two_attempts :
    let result := (run impatient ["w".toList] "/w".toList sluggish).run (.start workedIn .unlimited)
    (PollPolicy.ofSettings ⟨1001, 18446744073709551615⟩).budget? = none ∧
      (PollPolicy.ofSettings ⟨1000, 18446744073709551615⟩).budget? =
        some ⟨18446744073709551615, 0⟩ ∧
      ∃ report s, result = .ok report s ∧ report.readiness = .timedOut 2 ∧
        sleptIn s.history = 1999 ∧
        ∃ said, s.sink.accepted = said ++ Octets.encode (lateText impatient "/w".toList 3) := by
  intro result
  have vain : (answerOf? result).map Report.readiness = some (.timedOut 2) := by decide +kernel
  obtain ⟨report, answered, late⟩ := Option.map_eq_some_iff.1 vain
  have reported : result = .ok report (endOf result) := eq_ok_of_answerOf? answered
  obtain ⟨untold, -⟩ :=
    poll_time_told { Settings.standard with poll := ⟨1001, 18446744073709551615⟩ }
  obtain ⟨-, -, -, -, whole⟩ := poll_time_told impatient
  obtain ⟨-, -, told⟩ := whole ["w".toList] "/w".toList sluggish workedIn
  obtain ⟨slept, -, read⟩ := told report (endOf result) reported
  rw [late] at slept read
  obtain ⟨-, -, said⟩ := read rfl
  exact ⟨untold.2 (by decide), rfl, report, endOf result, reported, late, slept, said⟩

end Whole

end Bootstrap

end PlatformLauncher
