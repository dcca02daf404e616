import PlatformLauncher.Proofs.CommandLine.Phrases

/-!
The words of one level as a whole: its phrases, and operands behind a double dash. Main statements:
`finish_clause`, and `readSubcommand_eq_ok_iff` for the words behind a subcommand.
-/
namespace PlatformLauncher.CommandLine

structure Clause where
  phrases : List Phrase
  /-- the words behind a double dash, if there is one -/
  rest : Option (List Text)
deriving DecidableEq, Repr

namespace Clause

def words (c : Clause) : List Text :=
  c.phrases.flatMap Phrase.words ++ c.rest.elim [] fun rest => ['-', '-'] :: rest

def entries (c : Clause) : List Entry :=
  c.phrases.flatMap Phrase.entries ++ (c.rest.getD []).map .operand

def given (c : Clause) : Given := kept c.entries

structure Fits (level : Level) (c : Clause) : Prop where
  phrases : ∀ phrase ∈ c.phrases, phrase.Fits level
  entries : Compatible level c.entries
  operand : level.takesOperand = true → ∃ word, Entry.operand word ∈ c.entries

end Clause

open Progress

section Clauses

variable {level : Level} {p q : Progress} {clause : Clause} {g : Given}

theorem operand_kept {es : List Entry} (compatible : Compatible level es) :
    (kept es).operand.isSome = true ↔ ∃ word, Entry.operand word ∈ es := by
  have vacant := vacant_kept compatible none
  rw [Given.vacant, Option.isNone_iff_eq_none] at vacant
  rw [Option.isSome_iff_ne_none, ne_eq, vacant]
  constructor
  · intro taken
    simp only [not_forall, not_not] at taken
    obtain ⟨e, member, place⟩ := taken
    cases e with
    | option s value => cases place
    | operand word => exact ⟨word, member⟩
  · rintro ⟨word, member⟩ free
    exact free _ member rfl

theorem reads_clause (fits : ∀ phrase ∈ clause.phrases, phrase.Fits level) :
    Reads level .start clause.entries clause.rest.isSome
      (clause.words.foldlM (step level) .start) := by
  obtain ⟨phrases, rest⟩ := clause
  rw [Clause.words, Clause.entries, List.foldlM_append]
  refine (reads_phrases fits idle_start rfl).bind fun p idle before => ?_
  cases rest with
  | none => exact .refl level idle before
  | some rest =>
    change Reads level p (rest.map .operand) true
      ((['-', '-'] :: rest).foldlM (step level) p)
    rw [List.foldlM_cons, step_doubleDash before]
    exact reads_operands (p := { p with trailing := true }) rest idle rfl

theorem finish_clause (fits : ∀ phrase ∈ clause.phrases, phrase.Fits level) :
    (clause.words.foldlM (step level) .start >>= finish level) = .ok g ↔
      clause.Fits level ∧ clause.given = g := by
  have told : Progress.start.told level clause.entries = some g ↔
      Compatible level clause.entries ∧ clause.given = g := foldlM_note?_empty
  have whole : clause.Fits level ∧ clause.given = g ↔
      (Compatible level clause.entries ∧ clause.given = g) ∧
        (level.takesOperand = true → g.operand.isSome = true) := by
    constructor
    · rintro ⟨⟨-, entries, operand⟩, rfl⟩
      exact ⟨⟨entries, rfl⟩, fun takes => (operand_kept entries).2 (operand takes)⟩
    · rintro ⟨⟨entries, rfl⟩, operand⟩
      exact ⟨⟨fits, entries, fun takes => (operand_kept entries).1 (operand takes)⟩, rfl⟩
  have reads := reads_clause fits
  rw [whole, ← told]
  cases came : clause.words.foldlM (step level) .start with
  | error stop =>
    rw [came] at reads
    have nothing := reads []
    rw [List.append_nil] at nothing
    rw [nothing]
    exact ⟨fun ends => (by cases ends), fun ends => (by cases ends.1)⟩
  | ok p =>
    rw [came] at reads
    obtain ⟨idle, -, same⟩ := reads
    rw [← List.append_nil clause.entries, ← same]
    exact finish_eq_ok_iff idle

/-! From the words back to the phrases -/

variable (level) in
theorem settle_awaiting (awaits : p.awaitsValue = true) : ∃ stop, p.settle level = .error stop := by
  obtain ⟨given, _ | ⟨s, _ | value⟩, trailing⟩ := p
  · cases awaits
  · exact ⟨_, rfl⟩
  · cases awaits

theorem finish_awaiting (awaits : p.awaitsValue = true) : p.finish level ≠ .ok g := by
  obtain ⟨stop, settled⟩ := settle_awaiting level awaits
  rw [finish, settled]
  rintro ⟨⟩

theorem complete_awaiting (awaits : p.awaitsValue = true) (s : Switch) (value : Text) :
    p.complete level s value ≠ .ok q := by
  obtain ⟨stop, settled⟩ := settle_awaiting level awaits
  rw [complete, settled]
  rintro ⟨⟩

theorem operand_awaiting (awaits : p.awaitsValue = true) (word : Text) :
    p.operand level word ≠ .ok q := by
  obtain ⟨stop, settled⟩ := settle_awaiting level awaits
  rw [operand, settled]
  split <;> rintro ⟨⟩

theorem long_awaiting (awaits : p.awaitsValue = true) (body : Text) :
    p.long level body ≠ .ok q := by
  obtain ⟨stop, settled⟩ := settle_awaiting level awaits
  intro read
  cases cut : Text.cutAt? '=' body with
  | none =>
    simp only [long, cut] at read
    cases found : level.named? body with
    | none => simp [found] at read
    | some s =>
      simp only [found] at read
      split at read
      · rw [settled] at read
        cases read
      · exact complete_awaiting awaits _ _ read
  | some halves =>
    obtain ⟨name, value⟩ := halves
    simp only [long, cut] at read
    cases found : level.named? name with
    | none => simp [found] at read
    | some s =>
      simp only [found] at read
      split at read
      · exact complete_awaiting awaits _ _ read
      · cases read

theorem letters_awaiting (awaits : p.awaitsValue = true) (c : Char) (rest : Text) :
    (c :: rest).foldlM (letter level) p ≠ .ok q := by
  have fails : ∃ stop, letter level p c = .error stop := by
    cases came : letter level p c with
    | error stop => exact ⟨stop, rfl⟩
    | ok p' =>
      rw [letter] at came
      split at came
      · exact absurd came (complete_awaiting awaits _ _)
      · cases came
  obtain ⟨stop, fails⟩ := fails
  rw [List.foldlM_cons, fails]
  rintro ⟨⟩

theorem word_cases (word : Text) :
    plain word = true ∨ word = ['-', '-'] ∨ (∃ body, body ≠ [] ∧ word = '-' :: '-' :: body) ∨
      ∃ c letters, c ≠ '-' ∧ word = '-' :: c :: letters := by
  unfold plain
  split
  · next c rest =>
    refine .inr ?_
    by_cases dash : c = '-'
    · subst dash
      cases rest with
      | nil => exact .inl rfl
      | cons d rest => exact .inr (.inl ⟨d :: rest, List.cons_ne_nil _ _, rfl⟩)
    · exact .inr (.inr ⟨c, rest, dash, rfl⟩)
  · exact .inl rfl

theorem step_awaiting {s : Switch} (awaits : p.pending = some (s, none))
    (before : p.trailing = false) {word : Text} (read : p.step level word = .ok q) :
    plain word = true ∧ q = { p with pending := some (s, some word) } ∨
      q = { p with trailing := true } := by
  have waits : p.awaitsValue = true := by simp [awaitsValue, awaits]
  rcases word_cases word with bare | rfl | ⟨body, nonempty, rfl⟩ | ⟨c, letters, other, rfl⟩
  · rw [step_plain before bare, awaits] at read
    exact .inl ⟨bare, (Except.ok.inj read).symm⟩
  · rw [step_doubleDash before] at read
    exact .inr (Except.ok.inj read).symm
  · rw [step_dashed before nonempty] at read
    exact absurd read (long_awaiting waits body)
  · rw [step_letters before other] at read
    exact absurd read (letters_awaiting waits c letters)

theorem exists_lettered {letters : Text} (read : letters.foldlM (letter level) p = .ok q) :
    ∃ entries : List (Char × Switch), entries.map Prod.fst = letters ∧
      ∀ c s, (c, s) ∈ entries → level.lettered? c = some s := by
  induction letters generalizing p with
  | nil => exact ⟨[], rfl, fun c s member => absurd member List.not_mem_nil⟩
  | cons c letters ih =>
    rw [List.foldlM_cons] at read
    obtain ⟨p', came, read⟩ := bind_eq_ok read
    obtain ⟨entries, rfl, found⟩ := ih read
    rw [letter] at came
    split at came
    · next s is =>
      refine ⟨(c, s) :: entries, rfl, fun c' s' member => ?_⟩
      rcases List.mem_cons.1 member with same | later
      · cases same
        exact is
      · exact found c' s' later
    · cases came

theorem phrase_of_long (idle : p.Idle) {body : Text} (read : p.long level body = .ok q) :
    (∃ phrase : Phrase, phrase.Fits level ∧ phrase.words = ['-' :: '-' :: body]) ∨
      ∃ s, level.named? body = some s ∧ s.takesValue = true ∧ q.pending = some (s, none) ∧
        q.trailing = p.trailing := by
  cases cut : Text.cutAt? '=' body with
  | some halves =>
    obtain ⟨name, value⟩ := halves
    obtain rfl := Text.eq_of_cutAt? cut
    simp only [long, cut] at read
    cases found : level.named? name with
    | none => simp [found] at read
    | some s =>
      simp only [found] at read
      split at read
      · next takes => exact .inl ⟨.joined name s value, ⟨found, takes⟩, rfl⟩
      · cases read
  | none =>
    simp only [long, cut] at read
    cases found : level.named? body with
    | none => simp [found] at read
    | some s =>
      simp only [found] at read
      split at read
      · next takes =>
        refine .inr ⟨s, rfl, takes, ?_⟩
        rcases settle_cases level idle with ⟨g, settled, -⟩ | ⟨⟨stop, settled⟩, -⟩
        · rw [settled] at read
          cases read
          exact ⟨rfl, rfl⟩
        · rw [settled] at read
          cases read
      · next flag => exact .inl ⟨.named body s, ⟨found, by simpa using flag⟩, rfl⟩

theorem step_idle (idle : p.Idle) (before : p.trailing = false) {word : Text}
    (read : p.step level word = .ok q) :
    (∃ phrase : Phrase, phrase.Fits level ∧ phrase.words = [word]) ∨ word = ['-', '-'] ∨
      ∃ name s, word = '-' :: '-' :: name ∧ level.named? name = some s ∧ s.takesValue = true ∧
        q.pending = some (s, none) ∧ q.trailing = false := by
  rcases word_cases word with bare | rfl | ⟨body, nonempty, rfl⟩ | ⟨c, letters, other, rfl⟩
  · refine .inl ⟨.operand word, ⟨?_, bare⟩, rfl⟩
    have taken : p.operand level word = .ok q := by
      rw [← read, step_plain before bare]
      rcases idle with none | ⟨s, value, -, some⟩
      · rw [none]
      · rw [some]
    rw [operand] at taken
    split at taken
    · next room => exact (Bool.and_eq_true _ _ ▸ room).1
    · cases taken
  · exact .inr (.inl rfl)
  · rw [step_dashed before nonempty] at read
    rcases phrase_of_long idle read with phrase | ⟨s, found, takes, awaits, same⟩
    · exact .inl phrase
    · exact .inr (.inr ⟨body, s, rfl, found, takes, awaits, same.trans before⟩)
  · rw [step_letters before other] at read
    obtain ⟨entries, names, found⟩ := exists_lettered read
    refine .inl ⟨.lettered entries, ⟨?_, found⟩, by rw [Phrase.words, names]⟩
    rintro rfl
    cases names

theorem awaits_for_ever (awaits : p.awaitsValue = true) (behind : p.trailing = true)
    {args : List Text} (read : args.foldlM (step level) p = .ok q) : q.awaitsValue = true := by
  cases args with
  | nil =>
    cases read
    exact awaits
  | cons word args =>
    rw [List.foldlM_cons, step_trailing behind] at read
    obtain ⟨p', came, -⟩ := bind_eq_ok read
    exact absurd came (operand_awaiting awaits word)

theorem exists_clause {args : List Text} (before : p.trailing = false)
    (read : args.foldlM (step level) p = .ok q) (complete : q.awaitsValue = false) :
    (p.Idle → ∃ clause : Clause, (∀ phrase ∈ clause.phrases, phrase.Fits level) ∧
      clause.words = args) ∧
    (∀ s, s.takesValue = true → p.pending = some (s, none) →
      ∃ (value : Text) (clause : Clause), plain value = true ∧
        (∀ phrase ∈ clause.phrases, phrase.Fits level) ∧ value :: clause.words = args) := by
  induction args generalizing p with
  | nil =>
    cases read
    refine ⟨fun _ => ⟨⟨[], none⟩, fun _ member => absurd member List.not_mem_nil, rfl⟩, ?_⟩
    intro s _ awaits
    simp [awaitsValue, awaits] at complete
  | cons word args ih =>
    rw [List.foldlM_cons] at read
    obtain ⟨p', came, onward⟩ := bind_eq_ok read
    refine ⟨fun idle => ?_, fun s takes awaits => ?_⟩
    · rcases step_idle idle before came with
        ⟨phrase, fits, words⟩ | rfl | ⟨name, s, rfl, found, takes, awaits, untrailed⟩
      · have reads := reads_phrase idle before fits
        rw [words, foldlM_step_singleton, came] at reads
        obtain ⟨clause, others, rfl⟩ := (ih reads.2.1 onward).1 reads.1
        refine ⟨⟨phrase :: clause.phrases, clause.rest⟩, List.forall_mem_cons.2 ⟨fits, others⟩, ?_⟩
        rw [Clause.words, List.flatMap_cons, words]
        rfl
      · exact ⟨⟨[], some args⟩, fun _ member => absurd member List.not_mem_nil, rfl⟩
      · obtain ⟨value, clause, bare, others, rfl⟩ := (ih untrailed onward).2 s takes awaits
        exact ⟨⟨.apart name s value :: clause.phrases, clause.rest⟩,
          List.forall_mem_cons.2 ⟨⟨found, takes, bare⟩, others⟩, rfl⟩
    · rcases step_awaiting awaits before came with ⟨bare, rfl⟩ | rfl
      · let answered : Progress := { p with pending := some (s, some word) }
        have untrailed : answered.trailing = false := before
        obtain ⟨later, -⟩ := ih untrailed onward
        obtain ⟨clause, others, rfl⟩ := later (.inr ⟨s, word, takes, rfl⟩)
        exact ⟨word, clause, bare, others, rfl⟩
      · have waits := awaits_for_ever (by simp [awaitsValue, awaits]) rfl onward
        rw [complete] at waits
        cases waits

theorem awaitsValue_of_finish (finished : p.finish level = .ok g) : p.awaitsValue = false := by
  cases awaits : p.awaitsValue with
  | false => rfl
  | true => exact absurd finished (finish_awaiting awaits)

theorem readSubcommand_eq_ok_iff {c : Subcommand} {args : List Text} :
    readSubcommand c args = .ok g ↔
      ∃ clause : Clause, clause.Fits (.subcommand c) ∧ clause.words = args ∧ clause.given = g := by
  constructor
  · intro read
    obtain ⟨p, came, finished⟩ := bind_eq_ok read
    obtain ⟨clause, fits, rfl⟩ :=
      (exists_clause rfl came (awaitsValue_of_finish finished)).1 idle_start
    obtain ⟨fits, given⟩ := (finish_clause fits).1 read
    exact ⟨clause, fits, rfl, given⟩
  · rintro ⟨clause, fits, rfl, given⟩
    exact (finish_clause fits.phrases).2 ⟨fits, given⟩

end Clauses

end PlatformLauncher.CommandLine
