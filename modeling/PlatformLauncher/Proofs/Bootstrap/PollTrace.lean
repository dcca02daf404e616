import PlatformLauncher.Proofs.Bootstrap.Course

/-!
What a poll does, step by step, when the probe answers in a given order. A recorder writes the steps
down; the poller of a bootstrap takes the same steps, with a dot for each that is announced. Main
statements: `recorded` for the recorder, `run_pollFrom_performed` for the bootstrap, and
`poll_traced` for both.
-/
namespace PlatformLauncher

namespace Poller

inductive Step where
  | announced (attempt : Nat)
  | probed
  | slept (ms : Nat)
deriving DecidableEq, Repr

/-- Does nothing but keep a record. The probe answers in this order, counted from one. -/
def recorder (answers : Nat → Bool) : Poller (StateM (List Step)) where
  announce n := modify (· ++ [.announced n])
  probe := do
    let steps ← get
    set (steps ++ [.probed])
    pure (answers (steps.count .probed + 1))
  sleep ms := modify (· ++ [.slept ms])

def turn (interval n : Nat) : List Step :=
  (if n = 1 then [] else [.slept interval]) ++ [.announced n, .probed]

def turns (interval m : Nat) : List Step := (List.range' 1 m).flatMap (turn interval)

def Step.announced? : Step → Option Nat
  | announced n => some n
  | _ => none

def Step.slept? : Step → Option Nat
  | slept ms => some ms
  | _ => none

section Turns

variable (interval : Nat)

theorem turns_succ (m : Nat) : turns interval (m + 1) = turns interval m ++ turn interval (m + 1) := by
  rw [turns, List.range'_1_concat, List.flatMap_append, List.flatMap_singleton, Nat.add_comm 1 m]
  rfl

theorem announced_turns (m : Nat) :
    (turns interval m).filterMap Step.announced? = List.range' 1 m := by
  induction m with
  | zero => rfl
  | succ m ih =>
    rw [turns_succ, List.filterMap_append, ih, List.range'_1_concat, Nat.add_comm 1 m, turn]
    split <;> rfl

theorem probed_turns (m : Nat) : (turns interval m).count .probed = m := by
  induction m with
  | zero => rfl
  | succ m ih =>
    rw [turns_succ, List.count_append, ih, turn]
    split <;> simp

theorem slept_turns (m : Nat) :
    (turns interval m).filterMap Step.slept? = List.replicate (m - 1) interval := by
  induction m with
  | zero => rfl
  | succ m ih =>
    rw [turns_succ, List.filterMap_append, ih, turn]
    cases m with
    | zero => rfl
    | succ m =>
      rw [if_neg (by omega)]
      exact List.replicate_succ'.symm

end Turns

inductive Finds (answers : Nat → Bool) (attempts : Nat) : Readiness → Prop
  | ready {k : Nat} (counted : 1 ≤ k) (within : k ≤ attempts) (answered : answers k = true)
      (first : ∀ j, 1 ≤ j → j < k → answers j = false) : Finds answers attempts (.ready k)
  | timedOut (silent : ∀ j, 1 ≤ j → j ≤ attempts → answers j = false) :
      Finds answers attempts (.timedOut attempts)

theorem Finds.unique {answers : Nat → Bool} {attempts : Nat} {r r' : Readiness}
    (finds : Finds answers attempts r) (finds' : Finds answers attempts r') : r = r' := by
  cases finds with
  | ready counted within answered first =>
    rename_i k
    cases finds' with
    | ready counted' within' answered' first' =>
      rename_i k'
      rcases Nat.lt_trichotomy k k' with less | rfl | more
      · cases answered.symm.trans (first' k counted less)
      · rfl
      · cases answered'.symm.trans (first k' counted' more)
    | timedOut silent => cases answered.symm.trans (silent k counted within)
  | timedOut silent =>
    cases finds' with
    | ready counted within answered first => cases answered.symm.trans (silent _ counted within)
    | timedOut _ => rfl

theorem Finds.attempts_le {answers : Nat → Bool} {attempts : Nat} {r : Readiness}
    (finds : Finds answers attempts r) : r.attempts ≤ attempts := by
  cases finds with
  | ready _ within _ _ => exact within
  | timedOut _ => exact Nat.le_refl _

section Recording

variable {answers : Nat → Bool} {policy : PollPolicy}

theorem run_recorder_succ (left : Nat) (steps : List Step) :
    ((recorder answers).pollFrom policy (left + 1)).run steps =
      if answers (steps.count .probed + 1) then
        (.ready (policy.attempts - left), steps ++ [.announced (policy.attempts - left), .probed])
      else ((recorder answers).pollFrom policy left).run
        (steps ++ [.announced (policy.attempts - left), .probed] ++
          if 0 < left then [.slept policy.interval] else []) := by
  have attempted : ((recorder answers).attempt (policy.attempts - left)).run steps =
      (answers (steps.count .probed + 1),
        steps ++ [.announced (policy.attempts - left), .probed]) := by
    let announced : List Step := steps ++ [.announced (policy.attempts - left)]
    have count : announced.count .probed = steps.count .probed := by simp [announced]
    change (answers (announced.count .probed + 1), announced ++ [.probed]) = _
    rw [count, List.append_assoc]
    rfl
  rw [Poller.run_pollFrom_of_attempt attempted, Poller.pause]
  split
  · rfl
  · split
    · rfl
    · rw [List.append_nil]
      rfl

def openTurns (interval done left : Nat) : List Step :=
  turns interval done ++ if 0 < done ∧ 0 < left then [.slept interval] else []

theorem openTurns_step (interval done left : Nat) :
    openTurns interval done (left + 1) ++ [.announced (done + 1), .probed] =
      turns interval (done + 1) := by
  rw [openTurns, turns_succ, turn, List.append_assoc]
  cases done <;> simp

theorem probed_openTurns (interval done left : Nat) :
    (openTurns interval done left).count .probed = done := by
  rw [openTurns, List.count_append, probed_turns]
  split <;> simp

theorem recorded_from {done left : Nat} (total : done + left = policy.attempts)
    (vain : ∀ j, 1 ≤ j → j ≤ done → answers j = false) :
    ∃ r, ((recorder answers).pollFrom policy left).run (openTurns policy.interval done left) =
      (r, turns policy.interval r.attempts) ∧ Finds answers policy.attempts r := by
  induction left generalizing done with
  | zero =>
    obtain rfl : done = policy.attempts := total
    refine ⟨.timedOut policy.attempts, ?_, .timedOut vain⟩
    rw [openTurns, if_neg (by omega), List.append_nil]
    rfl
  | succ left ih =>
    have number : policy.attempts - left = done + 1 := by omega
    rw [run_recorder_succ, probed_openTurns, number, openTurns_step]
    cases answer : answers (done + 1) with
    | true =>
      refine ⟨.ready (done + 1), rfl, .ready (Nat.le_add_left _ _) (by omega) answer ?_⟩
      exact fun j counted before => vain j counted (Nat.le_of_lt_succ before)
    | false =>
      have next : turns policy.interval (done + 1) ++
          (if 0 < left then [.slept policy.interval] else []) =
            openTurns policy.interval (done + 1) left := by simp [openTurns]
      rw [if_neg Bool.false_ne_true, next]
      refine ih (by omega) fun j counted upTo => ?_
      rcases Nat.lt_or_eq_of_le upTo with before | rfl
      · exact vain j counted (Nat.le_of_lt_succ before)
      · exact answer

theorem recorded (answers : Nat → Bool) (policy : PollPolicy) :
    ∃ r, ((recorder answers).poll policy).run [] = (r, turns policy.interval r.attempts) ∧
      Finds answers policy.attempts r :=
  recorded_from (Nat.zero_add _) fun j counted before => by omega

end Recording

end Poller

namespace Bootstrap

open Poller

/-- The same collaborators with a probe that answers in this order from the time it is built. -/
def Collaborators.probing (deps : Collaborators) (answers : Nat → Bool) : Collaborators :=
  { deps with
    probe := fun h t home =>
      .quiet (answers ((h.takeWhile (· != .builtProbe home)).count .probed + 1)) t }

def stepEvent? : Step → Option Event
  | .announced _ => none
  | .probed => some .probed
  | .slept ms => some (.slept ms)

def stepText : Step → Text
  | .announced _ => ['.']
  | _ => []

def performed (s : State) (steps : List Step) : State where
  tree := s.tree
  sink := ⟨s.sink.accepted ++ Octets.encode (steps.flatMap stepText), none⟩
  complaints := s.complaints
  history := (steps.filterMap stepEvent?).reverse ++ s.history

section Polling

variable (deps : Collaborators) (answers : Nat → Bool) (home : Path) {s : State} {earlier : History}

theorem performed_announced (s : State) (steps : List Step) (n : Nat) :
    ((poller (deps.probing answers) home).announce n).run (performed s steps) =
      .ok () (performed s (steps ++ [.announced n])) := by
  change (Flow.tryWrite (Octets.encode ['.'])).run _ = _
  rw [Flow.run_tryWrite]
  simp [performed, stepText, stepEvent?, Sink.put]

theorem count_stepEvent? (steps : List Step) :
    (steps.filterMap stepEvent?).count .probed = steps.count .probed := by
  induction steps with
  | nil => rfl
  | cons step rest ih => cases step <;> simp [List.filterMap_cons, stepEvent?, ih]

theorem probed_since_built (steps : List Step) :
    (((steps.filterMap stepEvent?).reverse ++ .builtProbe home :: earlier).takeWhile
      (· != .builtProbe home)).count .probed = steps.count .probed := by
  have polls : ∀ e ∈ (steps.filterMap stepEvent?).reverse, (e != .builtProbe home) = true := by
    intro e member
    obtain ⟨step, -, is⟩ := List.mem_filterMap.1 (List.mem_reverse.1 member)
    cases step <;> cases is <;> rfl
  rw [List.takeWhile_append_of_pos polls, List.takeWhile_cons_of_neg (by simp), List.append_nil,
    List.count_reverse, count_stepEvent?]

theorem performed_probed (built : s.history = .builtProbe home :: earlier) (steps : List Step) :
    (poller (deps.probing answers) home).probe.run (performed s steps) =
      .ok (answers (steps.count .probed + 1)) (performed s (steps ++ [.probed])) := by
  have history : (performed s steps).history =
      (steps.filterMap stepEvent?).reverse ++ .builtProbe home :: earlier := by
    rw [← built]
    rfl
  change (Flow.consult .probed fun h t => (deps.probing answers).probe h t home).run _ = _
  rw [Flow.run_consult]
  simp only [Collaborators.probing, Reply.quiet, history, probed_since_built]
  rw [← history]
  simp [performed, stepText, stepEvent?, Sink.put]

theorem performed_slept (s : State) (steps : List Step) (ms : Nat) :
    ((poller (deps.probing answers) home).sleep ms).run (performed s steps) =
      .ok () (performed s (steps ++ [.slept ms])) := by
  change (Flow.note (.slept ms)).run _ = _
  rw [Flow.run_note]
  simp [performed, stepText, stepEvent?]

theorem run_attempt (built : s.history = .builtProbe home :: earlier) (policy : PollPolicy)
    (left : Nat) (steps : List Step) :
    ((poller (deps.probing answers) home).pollFrom policy (left + 1)).run (performed s steps) =
      if answers (steps.count .probed + 1) then
        .ok (.ready (policy.attempts - left))
          (performed s (steps ++ [.announced (policy.attempts - left), .probed]))
      else ((poller (deps.probing answers) home).pollFrom policy left).run
        (performed s (steps ++ [.announced (policy.attempts - left), .probed] ++
          if 0 < left then [.slept policy.interval] else [])) := by
  have attempted : ((poller (deps.probing answers) home).attempt (policy.attempts - left)).run
      (performed s steps) = .ok (answers (steps.count .probed + 1))
        (performed s (steps ++ [.announced (policy.attempts - left), .probed])) := by
    rw [Poller.attempt, EStateM.run_bind, performed_announced]
    dsimp only
    rw [performed_probed deps answers home built, List.append_assoc, List.count_append]
    rfl
  rw [run_pollFrom_of_attempt attempted, Poller.pause]
  split
  · rfl
  · split
    · rw [EStateM.run_bind, performed_slept]
    · rw [List.append_nil]
      rfl

theorem run_pollFrom_performed (built : s.history = .builtProbe home :: earlier)
    (policy : PollPolicy) (left : Nat) (steps : List Step) :
    ((poller (deps.probing answers) home).pollFrom policy left).run (performed s steps) =
      .ok (((recorder answers).pollFrom policy left).run steps).1
        (performed s (((recorder answers).pollFrom policy left).run steps).2) := by
  induction left generalizing steps with
  | zero => rfl
  | succ left ih =>
    rw [run_attempt deps answers home built, run_recorder_succ]
    split
    · rfl
    · exact ih _

theorem stepText_turns (interval m : Nat) :
    (turns interval m).flatMap stepText = List.replicate m '.' := by
  induction m with
  | zero => rfl
  | succ m ih =>
    rw [turns_succ, List.flatMap_append, ih, turn, List.replicate_succ']
    split <;> rfl

def waitingText (attempts : Nat) : Text :=
  "Waiting for VOLTTRON to become ready".toList ++ List.replicate attempts '.' ++ ['\n']

theorem encode_waitingText (attempts : Nat) :
    Octets.encode (waitingText attempts) =
      Octets.encode "Waiting for VOLTTRON to become ready".toList ++
        Octets.encode (List.replicate attempts '.') ++ Octets.encode ['\n'] := by
  unfold waitingText
  generalize "Waiting for VOLTTRON to become ready".toList = words
  rw [Octets.encode_append, Octets.encode_append]

theorem run_poll_performed (policy : PollPolicy) (t : Tree) (said complaints : Octets)
    (h : History) :
    let (readiness, steps) := ((recorder answers).poll policy).run []
    ((poller (deps.probing answers) home).poll policy).run
        ⟨t, ⟨said, none⟩, complaints, .builtProbe home :: h⟩ =
      .ok readiness
        ⟨t, ⟨said ++ Octets.encode (List.replicate readiness.attempts '.'), none⟩, complaints,
          (steps.filterMap stepEvent?).reverse ++ .builtProbe home :: h⟩ := by
  obtain ⟨readiness, steps, -⟩ := recorded answers policy
  let built : State := ⟨t, ⟨said, none⟩, complaints, .builtProbe home :: h⟩
  have start : performed built [] = built := by simp [performed, built]
  have polled := run_pollFrom_performed deps answers home (s := built) rfl policy policy.attempts []
  change ((recorder answers).pollFrom policy policy.attempts).run [] = _ at steps
  rw [start, steps] at polled
  rw [Poller.poll, steps, Poller.poll]
  refine polled.trans ?_
  rw [performed, stepText_turns]

theorem run_waitUntilReady (settings : Settings) (t : Tree) (said complaints : Octets) (h : History) :
    let (readiness, steps) := ((recorder answers).poll (.ofSettings settings.poll)).run []
    (waitUntilReady (deps.probing answers) settings home).run ⟨t, ⟨said, none⟩, complaints, h⟩ =
      .ok readiness
        ⟨t, ⟨said ++ Octets.encode (waitingText readiness.attempts), none⟩, complaints,
          (steps.filterMap stepEvent?).reverse ++ .builtProbe home :: h⟩ := by
  have polled := run_poll_performed deps answers home (.ofSettings settings.poll) t
    (said ++ Octets.encode "Waiting for VOLTTRON to become ready".toList) complaints h
  obtain ⟨readiness, steps, -⟩ := recorded answers (.ofSettings settings.poll)
  rw [steps] at polled ⊢
  dsimp only at polled ⊢
  simp only [waitUntilReady, EStateM.run_bind, Flow.run_note, run_write_unlimited, polled,
    Flow.writeLine, EStateM.run_pure, encode_waitingText, List.append_assoc, List.nil_append]

end Polling

section Whole

variable (settings : Settings) (here : Location) (cwd : Path) (deps : Collaborators)

def untilPoll : Flow (List Install.Outcome × Path × Option Nat) := do
  let (installs, home) ← untilLaunch settings here cwd deps
  let pid ← startDaemon deps here home
  pure (installs, home, pid)

def afterPoll (installs : List Install.Outcome) (home : Path) (pid : Option Nat)
    (readiness : Readiness) : Flow Report := do
  reportReadiness settings readiness
  (guidance settings (envFileOf settings cwd)).forM Flow.writeLine
  pure ⟨installs, home, envFileOf settings cwd, pid, readiness⟩

theorem run_eq_poll :
    run settings here cwd deps = (do
      let (installs, home, pid) ← untilPoll settings here cwd deps
      let readiness ← waitUntilReady deps settings home
      afterPoll settings cwd installs home pid readiness) := by
  simp only [run_eq_launch, untilPoll, afterPoll, afterLaunch, bind_assoc, pure_bind]

theorem truncates_untilPoll : Truncates (untilPoll settings here cwd deps) :=
  .bind (.bind (truncates_opening settings here cwd deps) fun _ =>
      .bind (truncates_settleHome settings here cwd deps) fun _ =>
        .bind (.bind (truncates_writeLine _) fun _ => truncates_writeLine _) fun _ => .pure _)
    fun _ => .bind (truncates_startDaemon here deps _) fun _ => .pure _

theorem untilPoll_probing (answers : Nat → Bool) :
    untilPoll settings here cwd (deps.probing answers) = untilPoll settings here cwd deps := by
  have install : (deps.probing answers).install = deps.install := rfl
  have opens : opening settings here cwd (deps.probing answers) = opening settings here cwd deps := by
    rw [opening, installStage_congr install]
    rfl
  have settles : settleHome settings here cwd (deps.probing answers) =
      settleHome settings here cwd deps := rfl
  have starts home : startDaemon (deps.probing answers) here home = startDaemon deps here home := rfl
  simp only [untilPoll, untilLaunch, opens, settles, starts]

theorem run_probing (answers : Nat → Bool) (t : Tree) :
    let (readiness, steps) := ((recorder answers).poll (.ofSettings settings.poll)).run []
    (run settings here cwd (deps.probing answers)).run (.start t .unlimited) =
      match (untilPoll settings here cwd deps).run (.start t .unlimited) with
      | .error e s => .error e s
      | .ok (installs, home, pid) s =>
        (afterPoll settings cwd installs home pid readiness).run
          ⟨s.tree, ⟨s.sink.accepted ++ Octets.encode (waitingText readiness.attempts), none⟩,
            s.complaints, (steps.filterMap stepEvent?).reverse ++ .builtProbe home :: s.history⟩ := by
  have waited home := run_waitUntilReady deps answers home settings
  obtain ⟨readiness, steps, -⟩ := recorded answers (.ofSettings settings.poll)
  simp only [steps] at waited ⊢
  have room := ((truncates_untilPoll settings here cwd deps).onward
    (s := .start t .unlimited) rfl).room
  rw [run_eq_poll, untilPoll_probing, EStateM.run_bind]
  cases reached : (untilPoll settings here cwd deps).run (.start t .unlimited) with
  | error e s => rfl
  | ok settled s =>
    obtain ⟨installs, home, pid⟩ := settled
    obtain ⟨tree, ⟨accepted, limit⟩, complaints, history⟩ := s
    rw [reached] at room
    cases (show limit = none from room)
    dsimp only
    rw [EStateM.run_bind, waited]

/-- Whatever the probe answers: a poll ends with the first yes within the budget or with the budget,
an attempt is announced before its probe and paused for unless it is the first, and a bootstrap
writes a dot for each between the words that tell of the wait and their line end. -/
theorem poll_traced (answers : Nat → Bool) :
    (∀ policy : PollPolicy,
      let record := ((recorder answers).poll policy).run []
      (∀ k, 1 ≤ k → k ≤ policy.attempts → answers k = true →
        (∀ j, 1 ≤ j → j < k → answers j = false) →
          record = (.ready k, turns policy.interval k)) ∧
      ((∀ j, 1 ≤ j → j ≤ policy.attempts → answers j = false) →
        record = (.timedOut policy.attempts, turns policy.interval policy.attempts)) ∧
      record.2.filterMap Step.announced? = List.range' 1 record.1.attempts ∧
      record.2.count .probed = record.1.attempts ∧
      record.2.filterMap Step.slept? = List.replicate (record.1.attempts - 1) policy.interval) ∧
    ∀ settings here cwd deps t,
      let (readiness, steps) := ((recorder answers).poll (.ofSettings settings.poll)).run []
      (run settings here cwd (deps.probing answers)).run (.start t .unlimited) =
        match (untilPoll settings here cwd deps).run (.start t .unlimited) with
        | .error e s => .error e s
        | .ok (installs, home, pid) s =>
          (afterPoll settings cwd installs home pid readiness).run
            ⟨s.tree, ⟨s.sink.accepted ++ Octets.encode (waitingText readiness.attempts), none⟩,
              s.complaints,
              (steps.filterMap stepEvent?).reverse ++ .builtProbe home :: s.history⟩ := by
  refine ⟨fun policy => ?_, fun settings here cwd deps t =>
    run_probing settings here cwd deps answers t⟩
  obtain ⟨readiness, steps, finds⟩ := recorded answers policy
  rw [steps]
  refine ⟨fun k counted within answered first => ?_, fun silent => ?_, announced_turns _ _,
    probed_turns _ _, slept_turns _ _⟩
  · rw [finds.unique (.ready counted within answered first)]
    rfl
  · rw [finds.unique (.timedOut silent)]
    rfl

theorem poll_traced_at_the_limits :
    let answers n := n == 4294967295
    ((recorder answers).poll ⟨4294967295, 7⟩).run [] =
        (.ready 4294967295, turns 7 4294967295) ∧
      ((recorder answers).poll ⟨4294967294, 7⟩).run [] =
        (.timedOut 4294967294, turns 7 4294967294) ∧
      ((recorder answers).poll ⟨0, 7⟩).run [] = (.timedOut 0, []) :=
  ⟨((poll_traced _).1 ⟨4294967295, 7⟩).1 4294967295 (by decide) (by decide) (by decide)
      fun j _ before => by simpa using Nat.ne_of_lt before,
    ((poll_traced _).1 ⟨4294967294, 7⟩).2.1 fun j _ within => by
      simpa using Nat.ne_of_lt (Nat.lt_of_le_of_lt within (by decide)), rfl⟩

end Whole

end Bootstrap

end PlatformLauncher
