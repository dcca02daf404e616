import PlatformLauncher.Failure
import PlatformLauncher.Install.Request

/-!
The state through which a bootstrap runs: the file tree, the output, and the history of everything
that was done to the world outside. Those who are asked to do something answer on the ground of the
history and the tree.
-/
namespace PlatformLauncher.Bootstrap

/-- The operator's output, with the number of octets it still takes. -/
structure Sink where
  accepted : Octets
  room : Option Nat
deriving DecidableEq, Repr

namespace Sink

def unlimited : Sink := ⟨[], none⟩

def put (s : Sink) (o : Octets) : Sink × Bool :=
  match s.room with
  | none => ({ s with accepted := s.accepted ++ o }, true)
  | some n => (⟨s.accepted ++ o.take n, some (n - o.length)⟩, decide (o.length ≤ n))

end Sink

inductive Event where
  | askedInstaller (request : Install.Request)
  | askedHome (default : Path)
  | madeHome (home : Path)
  | savedHome (envFile home : Path)
  | askedLauncher (home : Path)
  | recordedPid (home : Path) (pid : Nat)
  | builtProbe (home : Path)
  | probed
  | slept (ms : Nat)
deriving DecidableEq, Repr

/-- The latest event stands first. -/
abbrev History := List Event

structure Reply (α : Type) where
  answer : α
  tree : Tree
  printed : Octets
  complained : Octets

namespace Reply

def quiet {α : Type} (answer : α) (t : Tree) : Reply α := ⟨answer, t, [], []⟩

end Reply

structure Inquiry where
  /-- nothing is an end of the input -/
  answer : Except Failure (Option Text)
  /-- the words in which the question was put, if it was put in words -/
  printed : Text

namespace Inquiry

def ok (answer : Option Text) : Inquiry := ⟨.ok answer, []⟩

def error (failure : Failure) : Inquiry := ⟨.error failure, []⟩

end Inquiry

structure Collaborators where
  install : History → Tree → Install.Request → Reply (Except Failure Unit)
  ask : History → Tree → Path → Inquiry
  launch : History → Tree → Path → Reply (Except Failure Nat)
  probe : History → Tree → Path → Reply Bool

structure State where
  tree : Tree
  sink : Sink
  complaints : Octets
  history : History

namespace State

def start (t : Tree) (sink : Sink) : State := ⟨t, sink, [], []⟩

end State

inductive Halt where
  | failed (f : Failure)
  | overflow
deriving DecidableEq, Repr

abbrev Flow := EStateM Halt State

namespace Flow

def fail {α : Type} (f : Failure) : Flow α := throw (.failed f)

def note (e : Event) : Flow Unit := modify fun s => { s with history := e :: s.history }

def write (text : Text) : Flow Unit := do
  let s ← get
  let (sink, complete) := s.sink.put (Octets.encode text)
  set { s with sink }
  if complete then pure () else fail (.fault .outputFull)

def writeLine (text : Text) : Flow Unit := write (text ++ ['\n'])

/-- Writes what the output takes; the rest is lost. -/
def tryWrite (o : Octets) : Flow Unit := modify fun s => { s with sink := (s.sink.put o).1 }

def receive {α : Type} (r : Reply α) : Flow α := do
  modify fun s =>
    { s with
      tree := r.tree
      sink := (s.sink.put r.printed).1
      complaints := s.complaints ++ r.complained }
  pure r.answer

/-- Turns to someone outside; the event is part of the history they see later. -/
def consult {α : Type} (e : Event) (ask : History → Tree → Reply α) : Flow α := do
  let s ← get
  note e
  receive (ask s.history s.tree)

def change (f : Tree → Except Failure Tree) : Flow Unit := do
  let s ← get
  match f s.tree with
  | .ok t => set { s with tree := t }
  | .error e => fail e

end Flow

end PlatformLauncher.Bootstrap
