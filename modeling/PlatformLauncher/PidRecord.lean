import PlatformLauncher.Failure
import PlatformLauncher.Text.Blank
import PlatformLauncher.Tree.Access

/-!
The record of the daemon's process number, a file in the home directory. Main statement:
`parse_ofNat`, a number that was recorded is the number that is read.
-/
namespace PlatformLauncher.PidRecord

def most : Nat := twoTo 32 - 1

def file (home : Path) : Path := Path.join home "bootstrap.pid".toList

def write (t : Tree) (here : Location) (home : Path) (pid : Nat) : Except Failure Tree :=
  match t.write here (file home) (Octets.encode (Numeral.ofNat pid)) with
  | .ok t => .ok t
  | .error fault =>
    .error (.context ("Failed to write PID file: ".toList ++ file home) (.fault fault))

def parse (text : Text) : Except Numeral.Problem Nat := Numeral.readSigned most (Text.trim text)

def read (t : Tree) (here : Location) (home : Path) : Except Failure Nat :=
  match t.readText here (file home) with
  | .error fault =>
    .error (.context ("Failed to read PID file: ".toList ++ file home) (.fault fault))
  | .ok text =>
    match parse text with
    | .ok pid => .ok pid
    | .error problem =>
      .error (.context ("Invalid PID in file: ".toList ++ text) (.said problem.message))

def recorded? (t : Tree) (here : Location) (home : Path) : Option Nat :=
  if t.exists_ here (file home) then (read t here home).toOption else none

/-- Zero and the numbers above the signed range stand for groups of processes and are never asked
about. -/
def processExists (alive : Nat → Bool) (pid : Nat) : Bool :=
  0 < pid && pid < twoTo 31 && alive pid

def isRunning (alive : Nat → Bool) (t : Tree) (here : Location) (home : Path) : Bool :=
  match recorded? t here home with
  | some pid => processExists alive pid
  | none => false

def cleanup (t : Tree) (here : Location) (home : Path) : Except Failure Tree :=
  if t.exists_ here (file home) then
    match t.remove here (file home) with
    | .ok t => .ok t
    | .error fault =>
      .error (.context ("Failed to remove PID file: ".toList ++ file home) (.fault fault))
  else .ok t

theorem isBlank_of_isDigit {c : Char} (h : c.isDigit = true) : Text.isBlank c = false := by
  have bounds : 48 ≤ c.toNat ∧ c.toNat ≤ 57 := by
    simpa [Char.isDigit, UInt32.le_iff_toNat_le] using h
  obtain ⟨low, high⟩ := bounds
  simp only [Text.isBlank, Bool.or_eq_false_iff, Bool.and_eq_false_iff, decide_eq_false_iff_not,
    beq_eq_false_iff_ne]
  omega

theorem trim_ofNat (n : Nat) : Text.trim (Numeral.ofNat n) = Numeral.ofNat n := by
  have left : ∀ s : Text, (∀ c ∈ s, c.isDigit = true) → s.dropWhile Text.isBlank = s := by
    intro s h
    cases s with
    | nil => rfl
    | cons c s => simp [isBlank_of_isDigit (h c (by simp))]
  have digits : ∀ c ∈ Numeral.ofNat n, c.isDigit = true := fun _ => Numeral.isDigit_of_mem_ofNat
  unfold Text.trim Text.trimLeft Text.trimRight
  rw [left _ digits, left _ (by simpa using digits), List.reverse_reverse]

theorem readSigned_eq_read {most : Nat} {s : Text} (h : s.head? ≠ some '+') :
    Numeral.readSigned most s = Numeral.read most s := by
  unfold Numeral.readSigned
  split
  · simp at h
  · rfl

theorem parse_ofNat {n : Nat} (h : n ≤ most) : parse (Numeral.ofNat n) = .ok n := by
  unfold parse
  rw [trim_ofNat, readSigned_eq_read, Numeral.read_ofNat h]
  intro e
  have : '+' ∈ Numeral.ofNat n := List.mem_of_mem_head? e
  exact absurd (Numeral.isDigit_of_mem_ofNat this) (by decide)

end PlatformLauncher.PidRecord
