import PlatformLauncher.Proofs.CommandLine.Clauses

/-!
The grammar of the arguments. A level is told a clause, and a line is a clause of the launcher and,
behind the name of a subcommand, a clause of that subcommand. The arguments that are accepted are the
words of the lines that are grammatical. Main statement: `parse_eq_ok_iff`.
-/
namespace PlatformLauncher.CommandLine

namespace Subcommand

def name : Subcommand → Text
  | bootstrap => "bootstrap".toList
  | install => "install".toList
  | status => "status".toList
  | stop => "stop".toList
  | showConfig => "show-config".toList

theorem ofName?_name (c : Subcommand) : ofName? c.name = some c := by cases c <;> rfl

theorem eq_name_of_ofName? {arg : Text} {c : Subcommand} (found : ofName? arg = some c) :
    arg = c.name := by
  obtain ⟨before, after, all, -⟩ := List.lookup_eq_some_iff.1 found
  have listed : ∀ entry ∈ names, entry.1 = entry.2.name := by decide
  exact listed (arg, c) (by simp [all])

end Subcommand

structure Line where
  own : Clause
  below : Option (Subcommand × Clause)
deriving DecidableEq, Repr

namespace Line

def words (l : Line) : List Text :=
  l.own.words ++ l.below.elim [] fun (c, clause) => c.name :: clause.words

/-- A double dash of the launcher ends the options, and then there is no subcommand. -/
structure Grammatical (l : Line) : Prop where
  own : l.own.Fits .launcher
  below : ∀ c clause, l.below = some (c, clause) → l.own.rest = none ∧ clause.Fits (.subcommand c)

def levels (l : Line) : Levels where
  own := l.own.given
  below := l.below.map fun (c, clause) => (c, clause.given)

def arguments (l : Line) : Arguments := l.levels.arguments

end Line

open Progress

section Whole

variable {p q : Progress} {own : Clause}

theorem readFrom_open (verbatim : (p.trailing || p.awaitsValue) = true) (word : Text)
    (rest : List Text) :
    readFrom p (word :: rest) = p.step .launcher word >>= (readFrom · rest) := by
  rw [readFrom, if_pos verbatim]

theorem readFrom_dashed (p : Progress) (body : Text) (rest : List Text) :
    readFrom p (('-' :: body) :: rest) = p.step .launcher ('-' :: body) >>= (readFrom · rest) := by
  by_cases verbatim : (p.trailing || p.awaitsValue) = true
  · exact readFrom_open verbatim _ _
  · have other : Subcommand.ofName? ('-' :: body) = none := by
      cases found : Subcommand.ofName? ('-' :: body) with
      | none => rfl
      | some c =>
        have named := Subcommand.eq_name_of_ofName? found
        cases c <;> cases named
    rw [readFrom, if_neg verbatim, if_neg (by rintro ⟨⟩), other]

theorem readFrom_phrase (idle : p.Idle) (before : p.trailing = false) {phrase : Phrase}
    (fits : phrase.Fits .launcher) (rest : List Text) :
    readFrom p (phrase.words ++ rest) =
      phrase.words.foldlM (step .launcher) p >>= (readFrom · rest) := by
  cases phrase with
  | apart name s value =>
    obtain ⟨found, takes, -⟩ := fits
    change readFrom p (('-' :: '-' :: name) :: value :: rest) = _
    rw [readFrom_dashed, Phrase.words, List.foldlM_cons, bind_assoc,
      step_dashed before (proper_of_named found).1, long_named found, if_pos takes]
    rcases settle_cases .launcher idle with ⟨g, settled, -⟩ | ⟨⟨stop, settled⟩, -⟩
    · rw [settled]
      let awaiting : Progress := ⟨g, some (s, none), p.trailing⟩
      have verbatim : (awaiting.trailing || awaiting.awaitsValue) = true := by
        simp [awaiting, awaitsValue]
      change readFrom awaiting (value :: rest) =
        (awaiting.step .launcher value >>= pure) >>= (readFrom · rest)
      rw [readFrom_open verbatim, bind_pure]
    · rw [settled]
      rfl
  | joined name s value =>
    rw [Phrase.words, foldlM_step_singleton]
    exact readFrom_dashed _ _ _
  | named name s =>
    rw [Phrase.words, foldlM_step_singleton]
    exact readFrom_dashed _ _ _
  | lettered letters =>
    rw [Phrase.words, foldlM_step_singleton]
    exact readFrom_dashed _ _ _
  | operand word => cases fits.1

theorem readFrom_phrases {phrases : List Phrase} (fits : ∀ phrase ∈ phrases, phrase.Fits .launcher)
    (idle : p.Idle) (before : p.trailing = false) (rest : List Text) :
    readFrom p (phrases.flatMap Phrase.words ++ rest) =
      (phrases.flatMap Phrase.words).foldlM (step .launcher) p >>= (readFrom · rest) := by
  induction phrases generalizing p with
  | nil => rfl
  | cons phrase phrases ih =>
    have fit := fits phrase List.mem_cons_self
    have reads := reads_phrase idle before fit
    rw [List.flatMap_cons, List.append_assoc, readFrom_phrase idle before fit, List.foldlM_append,
      bind_assoc]
    cases came : phrase.words.foldlM (step .launcher) p with
    | error stop => rfl
    | ok p' =>
      rw [came] at reads
      exact ih (fun other member => fits other (List.mem_cons_of_mem _ member)) reads.1 reads.2.1

theorem rest_of_launcher (fits : own.Fits .launcher) : own.rest = none ∨ own.rest = some [] := by
  obtain ⟨phrases, _ | _ | ⟨word, rest⟩⟩ := own
  · exact .inl rfl
  · exact .inr rfl
  · have sound := fits.entries.sound (.operand word) (by simp [Clause.entries])
    cases sound

theorem readFrom_own (fits : own.Fits .launcher) (rest : List Text) :
    readFrom .start (own.words ++ rest) =
      own.words.foldlM (step .launcher) .start >>= (readFrom · rest) := by
  rw [Clause.words, List.append_assoc, readFrom_phrases fits.phrases idle_start rfl,
    List.foldlM_append, bind_assoc]
  refine bind_congr fun p => ?_
  rcases rest_of_launcher fits with none | some
  · rw [none]
    rfl
  · rw [some]
    exact (readFrom_dashed p _ _).trans (congrArg (· >>= _) (bind_pure _).symm)

inductive Went (p : Progress) (l : Levels) : List Text → Prop
  | whole {args : List Text} {q : Progress} (reads : args.foldlM (step .launcher) p = .ok q)
      (finished : q.finish .launcher = .ok l.own) (nothing : l.below = none) : Went p l args
  | onward {front rest : List Text} {c : Subcommand} {q : Progress} {given : Given}
      (reads : front.foldlM (step .launcher) p = .ok q) (before : q.trailing = false)
      (finished : q.finish .launcher = .ok l.own) (below : readSubcommand c rest = .ok given)
      (is : l.below = some (c, given)) : Went p l (front ++ c.name :: rest)

theorem Went.step {l : Levels} {word : Text} {args : List Text}
    (came : p.step .launcher word = .ok q) (went : Went q l args) : Went p l (word :: args) := by
  have stepped (words : List Text) : (word :: words).foldlM (Progress.step .launcher) p =
      words.foldlM (Progress.step .launcher) q := by
    rw [List.foldlM_cons, came]
    rfl
  cases went with
  | whole reads finished nothing => exact .whole ((stepped _).trans reads) finished nothing
  | onward reads before finished below is =>
    exact .onward ((stepped _).trans reads) before finished below is

theorem went_of_readFrom {args : List Text} {l : Levels} (read : readFrom p args = .ok l) :
    Went p l args := by
  induction args generalizing p with
  | nil =>
    rw [readFrom] at read
    cases finished : p.finish .launcher with
    | error stop =>
      rw [finished] at read
      cases read
    | ok own =>
      rw [finished] at read
      cases read
      exact .whole rfl finished rfl
  | cons word args ih =>
    have stepping (read : p.step .launcher word >>= (readFrom · args) = .ok l) :
        Went p l (word :: args) := by
      obtain ⟨p', came, read⟩ := bind_eq_ok read
      exact (ih read).step came
    rw [readFrom] at read
    split at read
    · exact stepping read
    · next closed =>
      split at read
      · cases read
      · split at read
        · next c found =>
          obtain rfl := Subcommand.eq_name_of_ofName? found
          rw [Bool.or_eq_true, not_or, Bool.not_eq_true] at closed
          obtain ⟨given, below, read⟩ := bind_eq_ok read
          obtain ⟨own, finished, read⟩ := bind_eq_ok read
          cases read
          have here : ([] : List Text).foldlM (step .launcher) p = .ok p := rfl
          have went := Went.onward (l := ⟨own, some (c, given)⟩) here closed.1 finished below rfl
          exact went
        · exact stepping read

theorem exists_line {args : List Text} {l : Levels} (read : readFrom .start args = .ok l) :
    ∃ line : Line, line.Grammatical ∧ line.words = args ∧ line.levels = l := by
  have own_of {words : List Text} {q : Progress}
      (reads : words.foldlM (step .launcher) .start = .ok q)
      (finished : q.finish .launcher = .ok l.own) :
      ∃ own : Clause, own.Fits .launcher ∧ own.words = words ∧ own.given = l.own ∧
        own.rest.isSome = q.trailing := by
    obtain ⟨own, fits, rfl⟩ :=
      (exists_clause rfl reads (awaitsValue_of_finish finished)).1 idle_start
    have behind := reads_clause fits
    rw [reads] at behind
    obtain ⟨fits, given⟩ := (finish_clause fits).1 (by rw [reads]; exact finished)
    exact ⟨own, fits, rfl, given, behind.2.1.symm⟩
  cases went_of_readFrom read with
  | whole reads finished nothing =>
    obtain ⟨own, fits, words, given, -⟩ := own_of reads finished
    refine ⟨⟨own, none⟩, ⟨fits, fun _ _ named => by cases named⟩, ?_, ?_⟩
    · rw [Line.words, Option.elim_none, List.append_nil, words]
    · rw [Line.levels, given, Option.map_none, ← nothing]
  | @onward _ _ c _ _ reads before finished below is =>
    obtain ⟨own, fits, rfl, given', behind⟩ := own_of reads finished
    obtain ⟨clause, fits', rfl, rfl⟩ := readSubcommand_eq_ok_iff.1 below
    refine ⟨⟨own, some (c, clause)⟩, ⟨fits, ?_⟩, rfl, ?_⟩
    · rintro c clause ⟨⟩
      rw [before, Option.isSome_eq_false_iff, Option.isNone_iff_eq_none] at behind
      exact ⟨behind, fits'⟩
    · rw [Line.levels, given', Option.map_some, ← is]

theorem Line.Grammatical.read {line : Line} (grammatical : line.Grammatical) :
    readFrom .start line.words = .ok line.levels := by
  obtain ⟨own, below⟩ := line
  have fits := grammatical.own
  have finished := (finish_clause fits.phrases).2 ⟨fits, rfl⟩
  have reads := reads_clause fits.phrases
  rw [Line.words, readFrom_own fits]
  obtain ⟨p, came, finished⟩ := bind_eq_ok finished
  rw [came] at reads ⊢
  cases below with
  | none =>
    change (p.finish .launcher).map _ = _
    rw [finished]
    rfl
  | some named =>
    obtain ⟨c, clause⟩ := named
    obtain ⟨ownRest, fits'⟩ := grammatical.below c clause rfl
    have closed : ¬ (p.trailing || p.awaitsValue) = true := by
      rw [reads.2.1, awaitsValue_of_idle reads.1, ownRest]
      exact Bool.false_ne_true
    have unlike : c.name ≠ Subcommand.helpName := by cases c <;> decide
    have below := readSubcommand_eq_ok_iff.2 ⟨clause, fits', rfl, rfl⟩
    change readFrom p (c.name :: clause.words) = _
    rw [readFrom, if_neg closed, if_neg unlike, Subcommand.ofName?_name]
    dsimp only
    rw [below, finished]
    rfl

theorem parse_eq_ok_iff {args : List Text} {a : Arguments} :
    parse args = .ok a ↔
      ∃ line : Line, line.Grammatical ∧ line.words = args ∧ line.arguments = a := by
  rw [parse]
  constructor
  · intro parsed
    cases read : readFrom .start args with
    | error stop =>
      rw [read] at parsed
      cases parsed
    | ok l =>
      rw [read] at parsed
      obtain ⟨line, grammatical, words, rfl⟩ := exists_line read
      exact ⟨line, grammatical, words, Except.ok.inj parsed⟩
  · rintro ⟨line, grammatical, rfl, rfl⟩
    rw [grammatical.read]
    rfl

end Whole

end PlatformLauncher.CommandLine
