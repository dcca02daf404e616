import PlatformLauncher.Proofs.Settings.SingleLeaf

/-!
Texts among the settings that come from a variable. A variable is taken for a truth value or a number
where it reads as one, and for a text this is written out again, so that it need not be the text of the
variable any more: leading zeros, a plus sign, capitals and a power of ten are lost. Main statement:
`loadFrom_textVariable`.
-/
namespace PlatformLauncher

namespace Text

theorem isBlankText_eq_false_iff {s : Text} : isBlankText s = false ↔ ∃ c ∈ s, isBlank c = false := by
  have blank : trim s = [] ↔ ∀ c ∈ s, isBlank c = true := trim_eq_nil_iff
  rw [isBlankText, List.isEmpty_eq_false_iff, Ne, blank]
  simp

end Text

namespace Binary64

theorem exists_isDigit_magnitudeText (significand : Nat) (exponent : Int) :
    ∃ c ∈ magnitudeText significand exponent, c.isDigit = true := by
  unfold magnitudeText
  split
  · exact ⟨'0', by simp, by decide⟩
  · dsimp only
    unfold positional
    split
    · exact (Numeral.isNumeral_ofNat _).exists_isDigit
    · obtain ⟨c, hc, digit⟩ := (Numeral.isNumeral_ofNat _).exists_isDigit
      exact ⟨c, List.mem_append_left _ hc, digit⟩

theorem exists_visible_toText (x : Binary64) : ∃ c ∈ x.toText, Text.isBlank c = false := by
  cases x with
  | nan => exact ⟨'N', by decide, by decide⟩
  | infinite negative => cases negative <;> exact ⟨'i', by decide, by decide⟩
  | finite negative significand exponent =>
    obtain ⟨c, hc, digit⟩ := exists_isDigit_magnitudeText significand exponent
    have visible : Text.isBlank c = false := PidRecord.isBlank_of_isDigit digit
    cases negative
    · exact ⟨c, hc, visible⟩
    · exact ⟨c, List.mem_cons_of_mem _ hc, visible⟩

end Binary64

namespace Environment

def spelling : Scalar → Text
  | .absent => []
  | .boolean b => if b then "true".toList else "false".toList
  | .integer n => Numeral.ofInt n
  | .float x => x.toText
  | .text s => s

theorem scalar_cases (value : Text) :
    (∃ b, scalar value = .boolean b) ∨ (∃ n, scalar value = .integer n) ∨
      (∃ x, scalar value = .float x) ∨ scalar value = .text value := by
  unfold scalar
  split
  · exact .inl ⟨true, rfl⟩
  · split
    · exact .inl ⟨false, rfl⟩
    · split
      · next n _ => exact .inr (.inl ⟨n, rfl⟩)
      · split
        · next x _ => exact .inr (.inr (.inl ⟨x, rfl⟩))
        · exact .inr (.inr (.inr rfl))

theorem decodeText_scalar (value : Text) (o : Option Text) :
    Layered.decodeText (.scalar o (scalar value)) = .ok (spelling (scalar value)) := by
  rcases scalar_cases value with ⟨b, read⟩ | ⟨n, read⟩ | ⟨x, read⟩ | read <;> rw [read] <;> rfl

theorem exists_visible_spelling {value : Text} (visible : ∃ c ∈ value, Text.isBlank c = false) :
    ∃ c ∈ spelling (scalar value), Text.isBlank c = false := by
  rcases scalar_cases value with ⟨b, read⟩ | ⟨n, read⟩ | ⟨x, read⟩ | read
  · rw [read]
    cases b <;> exact ⟨'e', by decide, by decide⟩
  · rw [read]
    obtain ⟨c, hc, digit⟩ := Numeral.exists_isDigit_ofInt n
    exact ⟨c, hc, PidRecord.isBlank_of_isDigit digit⟩
  · rw [read]
    exact x.exists_visible_toText
  · rw [read]
    exact visible

/-- Texts that are written again as they were: no truth value and no number, a truth value in small
letters, or a whole number of 64 bits in its shortest form. -/
inductive Kept : Text → Prop where
  | plain {value : Text} (noLiteral : Settings.isLiteral value = false) : Kept value
  | word (b : Bool) : Kept (if b then "true".toList else "false".toList)
  | whole (n : Int) (low : -(twoTo 63 : Int) ≤ n) (high : n < twoTo 63) : Kept (Numeral.ofInt n)

theorem Kept.spelling_scalar {value : Text} (h : Kept value) : spelling (scalar value) = value := by
  cases h with
  | plain noLiteral => rw [Settings.scalar_of_not_isLiteral noLiteral, spelling]
  | word b => cases b <;> rfl
  | whole n low high => rw [scalar_of_readInt? (Numeral.readInt?_ofInt low high), spelling]

end Environment

namespace Settings

def Kind.text? : (k : Kind) → k.Value → Option Text
  | text, s => some s
  | _, _ => none

theorem exists_of_decodeText {k : Kind} (isText : k = .text) {v : Layered} {s : Text}
    (decoded : Layered.decodeText v = .ok s) : ∃ x, k.decode v = .ok x ∧ k.text? x = some s := by
  subst isText
  exact ⟨s, decoded, rfl⟩

theorem sound_of_text {l : Leaf} (isText : l.kind = .text) {x : l.kind.Value} {s : Text}
    (holds : l.kind.text? x = some s) (visible : ∃ c ∈ s, Text.isBlank c = false) : l.Sound x := by
  have notBlank : Text.isBlankText s = false := Text.isBlankText_eq_false_iff.2 visible
  cases l
  case installerProgram | daemonProgram | probeProgram | shutdownProgram =>
    cases holds
    exact notBlank
  case packages | attempts => cases isText
  all_goals trivial

theorem section_of_text {l : Leaf} (isText : l.kind = .text) : ∃ key field, l.path = [key, field] := by
  rcases l.path_cases with rfl | inSection
  · cases isText
  · exact inSection

/-- A variable with a character that is not blank always loads. The one setting holds what the
variable is taken for, written out again; this is the text of the variable when that is kept. -/
theorem loadFrom_textVariable {t : Tree} {here : Location} {l : Leaf} (isText : l.kind = .text)
    {name value : Text} (named : Text.lower name = l.variable)
    (visible : ∃ c ∈ value, Text.isBlank c = false) :
    ∃ s, loadFrom t here none [(name, value)] = .ok s ∧ (∀ m, m ≠ l → s.get m = standard.get m) ∧
      l.kind.text? (s.get l) = some (Environment.spelling (Environment.scalar value)) ∧
      (Environment.Kept value → l.kind.text? (s.get l) = some value) := by
  obtain ⟨key, field, inSection⟩ := section_of_text isText
  obtain ⟨x, decoded, holds⟩ := exists_of_decodeText isText
    (Environment.decodeText_scalar value (some Environment.origin))
  have sound : l.Sound x := sound_of_text isText holds (Environment.exists_visible_spelling visible)
  refine ⟨standardWith l x, ?_, fun m => get_standardWith_of_ne, ?_, fun kept => ?_⟩
  · rw [loadFrom_variable inSection named decoded]
    exact checked_standardWith.2 ⟨sound, rfl⟩
  · rw [get_standardWith, holds]
  · rw [get_standardWith, holds, kept.spelling_scalar]

theorem loadFrom_logFileVariable :
    ∃ s, loadFrom ⟨[], []⟩ [] none
        [("VOLTTRON_BOOTSTRAP__DAEMON__LOG_FILE".toList, " 2.0.log".toList)] = .ok s ∧
      s.daemon.logFile = " 2.0.log".toList ∧ s.daemon.program = "volttron".toList := by
  have visible : ∃ c ∈ " 2.0.log".toList, Text.isBlank c = false := ⟨'2', by decide, by decide⟩
  have named : Text.lower "VOLTTRON_BOOTSTRAP__DAEMON__LOG_FILE".toList = Leaf.logFile.variable := by
    decide
  obtain ⟨s, loads, others, -, keeps⟩ :=
    @loadFrom_textVariable ⟨[], []⟩ [] .logFile rfl _ _ named visible
  have logFile := keeps (.plain (by decide +kernel))
  have program : s.daemon.program = "volttron".toList := others .daemonProgram (by decide)
  exact ⟨s, loads, Option.some.inj logFile, program⟩

theorem loadFrom_leadingZeros :
    Text.lower "VOLTTRON_BOOTSTRAP__HOME__DEFAULT_DIR_NAME".toList = Leaf.defaultDirName.variable ∧
      (∃ c ∈ "007".toList, Text.isBlank c = false) ∧
      (loadFrom ⟨[], []⟩ [] none
          [("VOLTTRON_BOOTSTRAP__HOME__DEFAULT_DIR_NAME".toList, "007".toList)]).toOption =
        some { standard with home := ⟨"7".toList, ".volttron_env".toList⟩ } ∧
      "7".toList ≠ "007".toList := by
  refine ⟨by decide, ⟨'7', by decide, by decide⟩, by decide +kernel, by decide⟩

end Settings

end PlatformLauncher
