import PlatformLauncher.Proofs.Bootstrap.DaemonRecord
import PlatformLauncher.Proofs.Number.Numerals
import PlatformLauncher.Proofs.Text.Octets

/-!
What a record has to hold so that a number is read from it. The contents are compared with a grammar
that is stated apart from the reader; the look at the file before it is read makes no difference, and
a number that stands for no single process is never asked about. Main statements: `parse_eq_ok_iff`,
`read_ok_iff`, and `record_read_by_grammar` for the record as a whole.
-/
namespace PlatformLauncher

namespace Text

theorem exists_trim (s : Text) :
    ∃ before after, s = before ++ trim s ++ after ∧ (∀ c ∈ before, isBlank c = true) ∧
      ∀ c ∈ after, isBlank c = true := by
  have left : s = s.takeWhile isBlank ++ trimLeft s := List.takeWhile_append_dropWhile.symm
  have right : trimLeft s =
      trim s ++ ((trimLeft s).reverse.takeWhile isBlank).reverse := by
    rw [trim, trimRight, ← List.reverse_append, List.takeWhile_append_dropWhile, List.reverse_reverse]
  refine ⟨s.takeWhile isBlank, ((trimLeft s).reverse.takeWhile isBlank).reverse, ?_, ?_, ?_⟩
  · rw [List.append_assoc, ← right]
    exact left
  · exact List.all_eq_true.1 List.all_takeWhile
  · exact fun c member => List.all_eq_true.1 List.all_takeWhile c (List.mem_reverse.1 member)

theorem trimLeft_append {before body : Text} (ahead : ∀ c ∈ before, isBlank c = true)
    (first : ∀ c ∈ body.head?, isBlank c = false) : trimLeft (before ++ body) = body := by
  unfold trimLeft
  rw [List.dropWhile_append_of_pos ahead]
  cases body with
  | nil => rfl
  | cons c body => exact List.dropWhile_cons_of_neg (by simp [first c rfl])

theorem trim_append {before body after : Text} (ahead : ∀ c ∈ before, isBlank c = true)
    (behind : ∀ c ∈ after, isBlank c = true) (plain : ∀ c ∈ body, isBlank c = false)
    (nonempty : body ≠ []) : trim (before ++ body ++ after) = body := by
  have first : ∀ c ∈ (body ++ after).head?, isBlank c = false := by
    obtain ⟨c, rest, rfl⟩ := List.exists_cons_of_ne_nil nonempty
    exact fun c member => plain c (List.mem_of_mem_head? member)
  have last : ∀ c ∈ body.reverse.head?, isBlank c = false := fun c member =>
    plain c (List.mem_reverse.1 (List.mem_of_mem_head? member))
  have blank : ∀ c ∈ after.reverse, isBlank c = true := fun c member =>
    behind c (List.mem_reverse.1 member)
  have right : trimLeft (after.reverse ++ body.reverse) = body.reverse := trimLeft_append blank last
  rw [trim, List.append_assoc, trimLeft_append ahead first, trimRight, List.reverse_append]
  exact (congrArg List.reverse right).trans (List.reverse_reverse body)

end Text

namespace Numeral

theorem readSigned_eq_ok_iff {most n : Nat} {s : Text} :
    readSigned most s = .ok n ↔
      ∃ sign digits, s = sign ++ digits ∧ (sign = [] ∨ sign = ['+']) ∧ IsNumeral digits ∧
        n = value digits ∧ n ≤ most := by
  have plus : ∀ {digits : Text}, IsNumeral digits → digits.head? ≠ some '+' := fun numeral =>
    numeral.head?_ne (by decide)
  unfold readSigned
  split
  · next c s =>
    rw [read_eq_ok_iff]
    constructor
    · rintro ⟨nonempty, digit, number, fits⟩
      exact ⟨['+'], c :: s, rfl, .inr rfl, ⟨nonempty, digit⟩, number, fits⟩
    · rintro ⟨sign, digits, split, rfl | rfl, numeral, number, fits⟩
      · exact absurd (congrArg List.head? split).symm (plus numeral)
      · cases split
        exact ⟨numeral.1, numeral.2, number, fits⟩
  · next other =>
    rw [read_eq_ok_iff]
    constructor
    · rintro ⟨nonempty, digit, number, fits⟩
      exact ⟨[], s, rfl, .inl rfl, ⟨nonempty, digit⟩, number, fits⟩
    · rintro ⟨sign, digits, rfl, rfl | rfl, numeral, number, fits⟩
      · exact ⟨numeral.1, numeral.2, number, fits⟩
      · obtain ⟨c, rest, rfl⟩ := List.exists_cons_of_ne_nil numeral.1
        exact absurd rfl (other c rest)

end Numeral

namespace PidRecord

open Numeral (IsNumeral)

/-- A number in decimal digits, zeros in front included, behind a plus sign or none, with blanks
around it. -/
inductive Spells : Text → Nat → Prop
  | among {before sign digits after : Text} (ahead : ∀ c ∈ before, Text.isBlank c = true)
      (optional : sign = [] ∨ sign = ['+']) (numeral : IsNumeral digits)
      (behind : ∀ c ∈ after, Text.isBlank c = true) :
      Spells (before ++ (sign ++ digits) ++ after) (Numeral.value digits)

section Grammar

variable {text : Text} {n : Nat}

theorem parse_eq_ok_iff : parse text = .ok n ↔ Spells text n ∧ n ≤ most := by
  unfold parse
  rw [Numeral.readSigned_eq_ok_iff]
  constructor
  · rintro ⟨sign, digits, trimmed, optional, numeral, rfl, fits⟩
    obtain ⟨before, after, split, ahead, behind⟩ := Text.exists_trim text
    rw [split, trimmed]
    exact ⟨.among ahead optional numeral behind, fits⟩
  · rintro ⟨⟨ahead, optional, numeral, behind⟩, fits⟩
    rename_i before sign digits after
    have nonempty : sign ++ digits ≠ [] := by simp [numeral.1]
    have plain : ∀ c ∈ sign ++ digits, Text.isBlank c = false := by
      intro c member
      rcases List.mem_append.1 member with inSign | inDigits
      · rcases optional with rfl | rfl
        · cases inSign
        · rw [List.mem_singleton.1 inSign]
          decide
      · exact isBlank_of_isDigit (numeral.2 c inDigits)
    exact ⟨sign, digits, Text.trim_append ahead behind plain nonempty, optional, numeral, rfl, fits⟩

end Grammar

section Reading

variable {t t' : Tree} {here : Location} {home : Path} {n : Nat}

theorem read_ok_iff :
    read t here home = .ok n ↔
      ∃ place text, t.status here (file home) = .ok (place, .file (Octets.encode text)) ∧
        Spells text n ∧ n ≤ most := by
  constructor
  · intro number
    unfold read Tree.readText Tree.read at number
    cases found : t.status here (file home) with
    | error fault => simp [found] at number
    | ok there =>
      obtain ⟨place, e⟩ := there
      cases e with
      | directory => simp [found] at number
      | link target => simp [found] at number
      | file content =>
        simp only [found] at number
        cases decoded : Octets.decode? content with
        | none => simp [decoded] at number
        | some text =>
          simp only [decoded] at number
          cases parsed : parse text with
          | error problem => simp [parsed] at number
          | ok m =>
            simp only [parsed, Except.ok.injEq] at number
            subst number
            rw [Octets.decode?_eq_some_iff] at decoded
            subst decoded
            exact ⟨place, text, rfl, parse_eq_ok_iff.1 parsed⟩
  · rintro ⟨place, text, stands, spelled⟩
    have told := Tree.readText_of_read (Tree.read_of_status stands)
    simp only [read, told, parse_eq_ok_iff.2 spelled]

/-- Looking whether the record is there before it is read makes no difference. -/
theorem recorded?_eq_some_iff : recorded? t here home = some n ↔ read t here home = .ok n := by
  have found : read t here home = .ok n → t.exists_ here (file home) = true := by
    intro number
    obtain ⟨place, text, stands, -⟩ := read_ok_iff.1 number
    rw [Tree.exists_, stands]
    rfl
  unfold recorded?
  constructor
  · intro recorded
    split at recorded
    · cases number : read t here home with
      | error failure => simp [number, Except.toOption] at recorded
      | ok m => simpa [number, Except.toOption] using recorded
    · cases recorded
  · intro number
    rw [if_pos (found number), number]
    rfl

theorem read_of_write (fits : n ≤ most) (written : write t here home n = .ok t') :
    read t' here home = .ok n :=
  recorded?_eq_some_iff.1 (Bootstrap.recorded?_of_write written fits)

theorem exists_write {place : Location} {content : Octets}
    (stands : t.status here (file home) = .ok (place, .file content)) (n : Nat) :
    ∃ t', write t here home n = .ok t' := by
  let spelled := Octets.encode (Numeral.ofNat n)
  have written : t.write here (file home) spelled = .ok (t.put place (.file spelled)) :=
    Tree.write_of_status stands (Bootstrap.endsInSlash_pidFile home)
  exact ⟨t.put place (.file spelled), by rw [write, written]⟩

end Reading

/-- A number of 32 bits, taken for one with a sign. Those that are not positive stand for groups of
processes. -/
def narrowed (pid : Nat) : Int := Int.bmod pid (twoTo 32)

section Asking

variable {t : Tree} {here : Location} {home : Path} {kill kill' : Int → Bool}

theorem narrowed_of_lt {n : Nat} (small : n < twoTo 31) : narrowed n = n := by
  have double : twoTo 32 = 2 * twoTo 31 := twoTo_succ 31
  unfold narrowed
  rw [Int.bmod_eq_of_le] <;> omega

theorem isRunning_iff :
    isRunning (fun pid => kill (narrowed pid)) t here home = true ↔
      ∃ n, read t here home = .ok n ∧ 0 < n ∧ n < twoTo 31 ∧ kill n = true := by
  have exists_ : ∀ n, processExists (fun pid => kill (narrowed pid)) n = true ↔
      0 < n ∧ n < twoTo 31 ∧ kill n = true := by
    intro n
    simp only [processExists, Bool.and_eq_true, decide_eq_true_eq, and_assoc]
    refine and_congr_right fun _ => and_congr_right fun small => ?_
    rw [narrowed_of_lt small]
  unfold isRunning
  cases recorded : recorded? t here home with
  | none =>
    have unread : ∀ n, read t here home ≠ .ok n := by
      intro n number
      rw [← recorded?_eq_some_iff, recorded] at number
      cases number
    simp [unread]
  | some n =>
    have number := recorded?_eq_some_iff.1 recorded
    simp [number, exists_]

theorem isRunning_congr (same : ∀ i, 0 < i → i < twoTo 31 → kill' i = kill i) :
    isRunning (fun pid => kill' (narrowed pid)) t here home =
      isRunning (fun pid => kill (narrowed pid)) t here home := by
  rw [Bool.eq_iff_iff, isRunning_iff, isRunning_iff]
  refine exists_congr fun n => and_congr_right fun _ => and_congr_right fun positive =>
    and_congr_right fun small => ?_
  rw [same n (by omega) (by omega)]

end Asking

/-- A record is a number exactly when its octets are the text of one by the grammar and it has 32
bits; every such number is read back once it is written, over whatever the record held. The record is
found just when it is read, and it is taken for that of a running process only when the number is
positive as one with a sign and the process is alive; no other number is ever asked about. -/
theorem record_read_by_grammar (t : Tree) (here : Location) (home : Path) :
    (∀ n, read t here home = .ok n ↔
      ∃ place text, t.status here (file home) = .ok (place, .file (Octets.encode text)) ∧
        Spells text n ∧ n ≤ most) ∧
    (∀ pid ≤ most,
      (∀ t', write t here home pid = .ok t' → read t' here home = .ok pid) ∧
        ∀ place content, t.status here (file home) = .ok (place, .file content) →
          ∃ t', write t here home pid = .ok t') ∧
    (∀ n, recorded? t here home = some n ↔ read t here home = .ok n) ∧
    ∀ kill : Int → Bool,
      (isRunning (fun pid => kill (narrowed pid)) t here home = true ↔
        ∃ n, read t here home = .ok n ∧ 0 < n ∧ n < twoTo 31 ∧ kill n = true) ∧
      ∀ kill' : Int → Bool, (∀ i, 0 < i → i < twoTo 31 → kill' i = kill i) →
        isRunning (fun pid => kill' (narrowed pid)) t here home =
          isRunning (fun pid => kill (narrowed pid)) t here home := by
  refine ⟨fun n => read_ok_iff, fun pid fits => ⟨fun t' written => ?_, ?_⟩,
    fun n => recorded?_eq_some_iff, fun kill => ⟨isRunning_iff, fun kill' same => ?_⟩⟩
  · exact read_of_write fits written
  · intro place content stands
    exact exists_write stands pid
  · exact isRunning_congr same

def adorned : Tree where
  entries :=
    [(["h".toList], .directory),
      (["bootstrap.pid".toList, "h".toList],
        .file (Octets.encode " \u2003+0004294967295\x0b\r\n".toList))]
  sealed_ := []

/-- With its sign the number stands for a group, about which the first of these would say yes. -/
theorem record_read_at_the_limit :
    read adorned [] "/h".toList = .ok 4294967295 ∧
      recorded? adorned [] "/h".toList = some 4294967295 ∧
      narrowed 4294967295 = -1 ∧
      isRunning (fun pid => decide (narrowed pid < 0)) adorned [] "/h".toList = false ∧
      ∃ t', write adorned [] "/h".toList 4294967294 = .ok t' ∧
        read t' [] "/h".toList = .ok 4294967294 := by
  obtain ⟨reads, writes, found, asks⟩ := record_read_by_grammar adorned [] "/h".toList
  have stands : adorned.status [] (file "/h".toList) = .ok (["bootstrap.pid".toList, "h".toList],
      .file (Octets.encode " \u2003+0004294967295\x0b\r\n".toList)) := rfl
  have spelled : Spells " \u2003+0004294967295\x0b\r\n".toList 4294967295 :=
    @Spells.among " \u2003".toList ['+'] "0004294967295".toList "\x0b\r\n".toList
      (List.all_eq_true.1 rfl) (.inr rfl) ⟨by decide, List.all_eq_true.1 rfl⟩ (List.all_eq_true.1 rfl)
  have number := (reads 4294967295).2 ⟨_, _, stands, spelled, by decide⟩
  obtain ⟨again, writable⟩ := writes 4294967294 (by decide)
  obtain ⟨t', written⟩ := writable _ _ stands
  refine ⟨number, (found 4294967295).2 number, by decide, ?_, t', written, again t' written⟩
  have deaf := (asks fun _ => false).2 (fun i => decide (i < 0)) fun i positive _ =>
    decide_eq_false (by omega)
  have silent := (asks fun _ => false).1
  rw [deaf, Bool.eq_false_iff, ne_eq, silent]
  simp

end PidRecord

end PlatformLauncher
