import PlatformLauncher.Proofs.CommandLine.Lines

/-!
The home is given to the command that it stands with, and an option that holds for the whole run may
stand anywhere. Main statement: `home_where_placed`.
-/
namespace PlatformLauncher.CommandLine

/-! Homes -/

def Subcommand.homed? (h : Text) : Subcommand → Option Task
  | bootstrap => some (.bootstrap (some h))
  | status => some (.status (some h))
  | stop => some (.stop (some h))
  | install | showConfig => none

def Entry.home? : Entry → Option Text
  | option .home h => some h
  | _ => none

def Clause.homes (c : Clause) : List Text := c.entries.filterMap Entry.home?

namespace Line

def homesAhead (l : Line) : List Text := l.own.homes

def homesBehind (l : Line) : List Text := l.below.elim [] fun (_, clause) => clause.homes

end Line

section Homes

variable {level : Level} {clause : Clause}

theorem mem_homes {h : Text} : h ∈ clause.homes ↔ Entry.option .home h ∈ clause.entries := by
  rw [Clause.homes, List.mem_filterMap]
  constructor
  · rintro ⟨e, member, is⟩
    rcases e with ⟨s, value⟩ | word
    · cases s <;> cases is
      exact member
    · cases is
  · exact fun member => ⟨_, member, rfl⟩

theorem Clause.Fits.home_of_mem (fits : clause.Fits level) {h : Text} (member : h ∈ clause.homes) :
    clause.given.home = some h := by
  obtain ⟨g, keeps⟩ := kept_of_mem fits.entries (mem_homes.1 member)
  rw [Clause.given, keeps]
  rfl

theorem Clause.Fits.home_of_none (fits : clause.Fits level) (none : clause.homes = []) :
    clause.given.home = Option.none := by
  have free := (vacant_kept fits.entries (some .home)).2 fun e member place => by
    rcases e with ⟨s, value⟩ | word
    · cases place
      exact List.not_mem_nil (none ▸ mem_homes.2 member)
    · cases place
  simpa [Given.vacant, Given.has, Clause.given] using free

theorem Clause.Fits.allows (fits : clause.Fits level) {s : Switch} {value : Text}
    (member : Entry.option s value ∈ clause.entries) : level.allows s = true := by
  rw [Clause.entries, List.mem_append, List.mem_flatMap] at member
  rcases member with ⟨phrase, listed, member⟩ | behind
  · have fit := fits.phrases phrase listed
    cases phrase with
    | apart name s' value' =>
      cases List.mem_singleton.1 member
      exact (Option.filter_eq_some_iff.1 fit.1).2
    | joined name s' value' =>
      cases List.mem_singleton.1 member
      exact (Option.filter_eq_some_iff.1 fit.1).2
    | named name s' =>
      cases List.mem_singleton.1 member
      exact (Option.filter_eq_some_iff.1 fit.1).2
    | lettered letters =>
      obtain ⟨⟨c, s'⟩, letter, is⟩ := List.mem_map.1 member
      cases is
      exact (Option.filter_eq_some_iff.1 (fit.2 c s letter)).2
    | operand word => cases List.mem_singleton.1 member
  · obtain ⟨word, -, is⟩ := List.mem_map.1 behind
    cases is

theorem homed_of_allows {c : Subcommand} (allows : (Level.subcommand c).allows .home = true)
    (g : Given) {h : Text} (home : g.home = some h) : c.homed? h = some (c.task g) := by
  cases c <;> first | rw [Subcommand.homed?, Subcommand.task, home] | cases allows

theorem Arguments.select_of_home {a : Arguments} {h : Text} (home : a.home = some h) :
    a.select =
      match a.task with
      | none | some (.bootstrap none) => .ok (.bootstrap (some h))
      | some _ => .error misplacedHome := by
  obtain ⟨_, task, config, verbose⟩ := a
  cases home
  rcases task with _ | (⟨_ | home'⟩ | _ | _ | _ | _) <;> rfl

theorem Arguments.select_of_none {a : Arguments} (home : a.home = none) :
    a.select = .ok (a.task.getD (.bootstrap none)) := by
  obtain ⟨_, task, config, verbose⟩ := a
  cases home
  rcases task with _ | (⟨_ | home'⟩ | _ | _ | _ | _) <;> rfl

variable {line : Line}

theorem select_ahead (grammatical : line.Grammatical) {h : Text} (ahead : h ∈ line.homesAhead)
    (behind : line.homesBehind = []) :
    line.arguments.select =
      match line.below with
      | none | some (.bootstrap, _) => .ok (.bootstrap (some h))
      | some _ => .error misplacedHome := by
  have home : line.arguments.home = some h := grammatical.own.home_of_mem ahead
  obtain ⟨own, _ | ⟨c, clause⟩⟩ := line
  · rw [Arguments.select_of_home home]
    rfl
  · have nothing := (grammatical.below c clause rfl).2.home_of_none behind
    have task : (Line.arguments ⟨own, some (c, clause)⟩).task = some (c.task clause.given) := rfl
    rw [Arguments.select_of_home home, task]
    cases c with
    | bootstrap =>
      rw [Subcommand.task, nothing]
    | _ => rfl

theorem select_behind (grammatical : line.Grammatical) {h : Text} (behind : h ∈ line.homesBehind)
    (ahead : line.homesAhead = []) :
    ∃ c clause task, line.below = some (c, clause) ∧ c.homed? h = some task ∧
      line.arguments.select = .ok task := by
  have nothing : line.arguments.home = none := grammatical.own.home_of_none ahead
  obtain ⟨own, _ | ⟨c, clause⟩⟩ := line
  · cases behind
  have fits := (grammatical.below c clause rfl).2
  have allows := fits.allows (mem_homes.1 behind)
  exact ⟨c, clause, c.task clause.given, rfl,
    homed_of_allows allows _ (fits.home_of_mem behind), Arguments.select_of_none nothing⟩

theorem select_both (grammatical : line.Grammatical) (ahead : line.homesAhead ≠ [])
    (behind : line.homesBehind ≠ []) : line.arguments.select = .error misplacedHome := by
  obtain ⟨h, ahead⟩ := List.exists_mem_of_ne_nil _ ahead
  obtain ⟨h', behind⟩ := List.exists_mem_of_ne_nil _ behind
  have home : line.arguments.home = some h := grammatical.own.home_of_mem ahead
  obtain ⟨own, _ | ⟨c, clause⟩⟩ := line
  · cases behind
  have below := (grammatical.below c clause rfl).2.home_of_mem behind
  have task : (Line.arguments ⟨own, some (c, clause)⟩).task = some (c.task clause.given) := rfl
  rw [Arguments.select_of_home home, task]
  cases c with
  | bootstrap => rw [Subcommand.task, below]
  | _ => rfl

end Homes

/-! One more option -/

inductive Addition where
  | config (path : Path)
  | verbose (short : Bool)
deriving DecidableEq, Repr

namespace Addition

def words : Addition → List Text
  | config path => ["--config".toList, path]
  | verbose short => [if short then "-v".toList else "--verbose".toList]

def alter (a : Arguments) : Addition → Arguments
  | config path => { a with config := some path }
  | verbose _ => { a with verbose := true }

def Fresh (a : Arguments) : Addition → Prop
  | config path => path ≠ [] ∧ path.head? ≠ some '-' ∧ a.config = none
  | verbose _ => a.verbose = false

def phrase : Addition → Phrase
  | config path => .apart "config".toList .config path
  | verbose true => .lettered [('v', .verbose)]
  | verbose false => .named "verbose".toList .verbose

def entry : Addition → Entry
  | config path => .option .config path
  | verbose _ => .option .verbose []

variable {level : Level} {a : Arguments} {x : Addition}

theorem words_phrase (x : Addition) : x.phrase.words = x.words := by
  rcases x with path | _ | _ <;> rfl

theorem entries_phrase (x : Addition) : x.phrase.entries = [x.entry] := by
  rcases x with path | _ | _ <;> rfl

theorem plain_of_head? {word : Text} (head : word.head? ≠ some '-') : plain word = true := by
  unfold plain
  split
  · exact absurd rfl head
  · rfl

theorem fits_phrase (level : Level) (fresh : x.Fresh a) : x.phrase.Fits level := by
  rcases x with path | _ | _
  · refine ⟨?_, rfl, plain_of_head? fresh.2.1⟩
    cases level <;> rfl
  · refine ⟨?_, rfl⟩
    cases level <;> rfl
  · refine ⟨List.cons_ne_nil _ _, fun c s member => ?_⟩
    cases List.mem_singleton.1 member
    cases level <;> rfl

theorem sound_entry (level : Level) (fresh : x.Fresh a) : x.entry.sound level = true := by
  rcases x with path | short
  · obtain ⟨nonempty, -⟩ := fresh
    cases path with
    | nil => exact absurd rfl nonempty
    | cons c path => rfl
  · cases level with
    | launcher => rfl
    | subcommand c => cases c <;> rfl

end Addition

/-- Behind these words no option waits for its value, and no double dash has ended the options. -/
def EndsWhole (front : List Text) : Prop :=
  ['-', '-'] ∉ front ∧ front.getLast? ≠ some "--home".toList ∧
    front.getLast? ≠ some "--config".toList

instance (front : List Text) : Decidable (EndsWhole front) :=
  inferInstanceAs (Decidable (_ ∧ _ ∧ _))

section Insertion

variable {level : Level} {front middle rest : List Text}

theorem EndsWhole.of_append (whole : EndsWhole (front ++ middle)) : EndsWhole middle := by
  obtain ⟨free, home, config⟩ := whole
  have last {word : Text} (last : middle.getLast? = some word) :
      (front ++ middle).getLast? = some word := by rw [List.getLast?_append, last]; rfl
  exact ⟨fun member => free (List.mem_append_right _ member), fun is => home (last is),
    fun is => config (last is)⟩

theorem not_endsWhole_of_takesValue {name : Text} {s : Switch}
    (found : level.named? name = some s) (takes : s.takesValue = true) :
    ¬ EndsWhole ['-' :: '-' :: name] := by
  have listed := (Option.filter_eq_some_iff.1 found).1
  obtain ⟨before, after, all, -⟩ := List.lookup_eq_some_iff.1 listed
  have spelled : ∀ entry ∈ Switch.names, entry.2.takesValue = true →
      entry.1 = "home".toList ∨ entry.1 = "config".toList := by decide
  rintro ⟨-, home, config⟩
  rcases spelled (name, s) (by simp [all]) takes with is | is
  · exact home (by rw [List.getLast?_singleton, show name = _ from is]; rfl)
  · exact config (by rw [List.getLast?_singleton, show name = _ from is]; rfl)

theorem not_endsWhole_of_cut {phrase : Phrase} (fits : phrase.Fits level) (nonempty : front ≠ [])
    (more : middle ≠ []) (words : phrase.words = front ++ middle) : ¬ EndsWhole front := by
  obtain ⟨first, front, rfl⟩ := List.exists_cons_of_ne_nil nonempty
  obtain ⟨next, middle, rfl⟩ := List.exists_cons_of_ne_nil more
  cases phrase with
  | apart name s value =>
    cases front with
    | nil =>
      cases words
      exact not_endsWhole_of_takesValue fits.1 fits.2.1
    | cons second front => simp [Phrase.words] at words
  | joined name s value => simp [Phrase.words] at words
  | named name s => simp [Phrase.words] at words
  | lettered letters => simp [Phrase.words] at words
  | operand word => simp [Phrase.words] at words

theorem split_phrases {phrases : List Phrase} {tail : List Text}
    (fits : ∀ phrase ∈ phrases, phrase.Fits level) (whole : EndsWhole front)
    (split : phrases.flatMap Phrase.words ++ tail = front ++ rest) :
    (∃ ahead behind, phrases = ahead ++ behind ∧ front = ahead.flatMap Phrase.words ∧
        rest = behind.flatMap Phrase.words ++ tail) ∨
      ∃ more, more ≠ [] ∧ front = phrases.flatMap Phrase.words ++ more ∧ tail = more ++ rest := by
  induction phrases generalizing front with
  | nil =>
    by_cases here : front = []
    · subst here
      exact .inl ⟨[], [], rfl, rfl, split.symm⟩
    · exact .inr ⟨front, here, rfl, split⟩
  | cons phrase phrases ih =>
    by_cases here : front = []
    · subst here
      exact .inl ⟨[], phrase :: phrases, rfl, rfl, split.symm⟩
    rw [List.flatMap_cons, List.append_assoc] at split
    rcases List.append_eq_append_iff.1 split with ⟨more, rfl, later⟩ | ⟨cut, words, later⟩
    · rcases ih (fun other member => fits other (List.mem_cons_of_mem _ member)) whole.of_append
        later with ⟨ahead, behind, rfl, rfl, rfl⟩ | ⟨more, nonempty, rfl, rfl⟩
      · exact .inl ⟨phrase :: ahead, behind, rfl, rfl, rfl⟩
      · exact .inr ⟨more, nonempty, by rw [List.flatMap_cons, List.append_assoc], rfl⟩
    · by_cases nothing : cut = []
      · subst nothing
        rw [List.append_nil] at words
        exact .inl ⟨[phrase], phrases, rfl, by rw [← words]; simp, later⟩
      · exact absurd whole
          (not_endsWhole_of_cut (fits phrase List.mem_cons_self) here nothing words)

theorem Clause.split {clause : Clause} (fits : ∀ phrase ∈ clause.phrases, phrase.Fits level)
    (whole : EndsWhole front) (split : clause.words = front ++ rest) :
    ∃ ahead behind, clause.phrases = ahead ++ behind ∧ front = ahead.flatMap Phrase.words ∧
      rest = Clause.words ⟨behind, clause.rest⟩ := by
  rcases split_phrases fits whole split with found | ⟨more, nonempty, rfl, tail⟩
  · exact found
  · obtain ⟨word, more, rfl⟩ := List.exists_cons_of_ne_nil nonempty
    cases behind : clause.rest with
    | none =>
      rw [behind] at tail
      cases tail
    | some words =>
      rw [behind] at tail
      cases tail
      exact absurd (by simp) whole.1

theorem Clause.Fits.insert {ahead behind : List Phrase} {words : Option (List Text)}
    (fits : Clause.Fits level ⟨ahead ++ behind, words⟩) {phrase : Phrase} {e : Entry}
    (fit : phrase.Fits level) (entries : phrase.entries = [e]) (sound : e.sound level = true)
    (free : (Clause.given ⟨ahead ++ behind, words⟩).vacant e.place = true) :
    Clause.Fits level ⟨ahead ++ phrase :: behind, words⟩ ∧
      Clause.given ⟨ahead ++ phrase :: behind, words⟩ =
        (Clause.given ⟨ahead ++ behind, words⟩).enter e := by
  let before := ahead.flatMap Phrase.entries
  let after := behind.flatMap Phrase.entries ++ (words.getD []).map .operand
  have old : Clause.entries ⟨ahead ++ behind, words⟩ = before ++ after := by
    simp [Clause.entries, before, after]
  have new : Clause.entries ⟨ahead ++ phrase :: behind, words⟩ = before ++ e :: after := by
    simp [Clause.entries, before, after, entries]
  have compatible := fits.entries
  rw [Clause.given, old] at free
  rw [old] at compatible
  have more : Compatible level (before ++ e :: after) :=
    (compatible_cons_iff.2 ⟨sound, (vacant_kept compatible _).1 free, compatible⟩).perm
      List.perm_middle.symm
  refine ⟨⟨?_, new ▸ more, fun takes => ?_⟩, ?_⟩
  · intro other member
    rcases List.mem_append.1 member with there | there
    · exact fits.phrases other (List.mem_append_left _ there)
    · rcases List.mem_cons.1 there with rfl | there
      · exact fit
      · exact fits.phrases other (List.mem_append_right _ there)
  · obtain ⟨word, member⟩ := fits.operand takes
    refine ⟨word, ?_⟩
    rw [old] at member
    rw [new]
    exact List.perm_middle.mem_iff.2 (List.mem_cons_of_mem _ member)
  · rw [Clause.given, Clause.given, new, old, kept_middle more]

variable {x : Addition}

theorem config_eq_none_iff (l : Levels) :
    l.arguments.config = none ↔
      l.own.config = none ∧ ∀ c g, l.below = some (c, g) → g.config = none := by
  obtain ⟨own, _ | ⟨c, g⟩⟩ := l <;> simp [Levels.arguments, and_comm]

theorem verbose_eq_false_iff (l : Levels) :
    l.arguments.verbose = false ↔
      l.own.verbose = false ∧ ∀ c g, l.below = some (c, g) → g.verbose = false := by
  obtain ⟨own, _ | ⟨c, g⟩⟩ := l <;> simp [Levels.arguments]

theorem vacant_of_fresh {l : Levels} (fresh : x.Fresh l.arguments) :
    l.own.vacant x.entry.place = true ∧
      ∀ c g, l.below = some (c, g) → g.vacant x.entry.place = true := by
  rcases x with path | short
  · obtain ⟨own, below⟩ := (config_eq_none_iff l).1 fresh.2.2
    have vacant (g : Given) (free : g.config = none) : g.vacant (some .config) = true := by
      simp [Given.vacant, Given.has, free]
    exact ⟨vacant _ own, fun c g is => vacant g (below c g is)⟩
  · obtain ⟨own, below⟩ := (verbose_eq_false_iff l).1 fresh
    have vacant (g : Given) (free : g.verbose = false) : g.vacant (some .verbose) = true := by
      simp [Given.vacant, Given.has, free]
    exact ⟨vacant _ own, fun c g is => vacant g (below c g is)⟩

theorem arguments_enter_own {l : Levels} (fresh : x.Fresh l.arguments) :
    Levels.arguments ⟨l.own.enter x.entry, l.below⟩ = x.alter l.arguments := by
  obtain ⟨own, _ | ⟨c, g⟩⟩ := l
  · rcases x with path | short <;> rfl
  · rcases x with path | short
    · have free := ((config_eq_none_iff _).1 fresh.2.2).2 c g rfl
      simp [Levels.arguments, Addition.alter, Addition.entry, Given.enter, Given.put, free]
    · simp [Levels.arguments, Addition.alter, Addition.entry, Given.enter, Given.put]

theorem arguments_enter_below (own : Given) (c : Subcommand) (g : Given) :
    Levels.arguments ⟨own, some (c, g.enter x.entry)⟩ =
      x.alter (Levels.arguments ⟨own, some (c, g)⟩) := by
  rcases x with path | short <;> cases c <;>
    simp [Levels.arguments, Addition.alter, Addition.entry, Given.enter, Given.put,
      Subcommand.task]

variable {line : Line}

theorem Line.Grammatical.split (grammatical : line.Grammatical) (whole : EndsWhole front)
    (split : line.words = front ++ rest) :
    (∃ ahead behind ended, line.own = ⟨ahead ++ behind, ended⟩ ∧
        front = ahead.flatMap Phrase.words ∧
        rest = Clause.words ⟨behind, ended⟩ ++
          line.below.elim [] fun (c, clause) => c.name :: clause.words) ∨
      ∃ c ahead behind ended, line.below = some (c, ⟨ahead ++ behind, ended⟩) ∧
        front = line.own.words ++ c.name :: ahead.flatMap Phrase.words ∧
        rest = Clause.words ⟨behind, ended⟩ := by
  obtain ⟨⟨phrases, ended⟩, below⟩ := line
  have inOwn {cut : List Text} (words : Clause.words ⟨phrases, ended⟩ = front ++ cut) :
      ∃ ahead behind, phrases = ahead ++ behind ∧ front = ahead.flatMap Phrase.words ∧
        cut = Clause.words ⟨behind, ended⟩ := Clause.split grammatical.own.phrases whole words
  rcases List.append_eq_append_iff.1 split with ⟨_ | ⟨name, more⟩, is, later⟩ | ⟨cut, words, later⟩
  · rw [List.append_nil] at is
    obtain ⟨ahead, behind, rfl, words, cut⟩ := inOwn (by rw [is, List.append_nil])
    exact .inl ⟨ahead, behind, ended, rfl, words, by rw [← cut]; exact later.symm⟩
  · obtain _ | ⟨c, clause⟩ := below
    · cases later
    · obtain ⟨rfl, words⟩ := List.cons_eq_cons.1 later
      subst is
      have further : EndsWhole more := by
        rw [← List.singleton_append (x := c.name), ← List.append_assoc] at whole
        exact whole.of_append
      obtain ⟨ahead, behind, is, rfl, rfl⟩ :=
        Clause.split (grammatical.below c clause rfl).2.phrases further words
      refine .inr ⟨c, ahead, behind, clause.rest, ?_, rfl, rfl⟩
      rw [← is]
  · obtain ⟨ahead, behind, rfl, front, rfl⟩ := inOwn words
    exact .inl ⟨ahead, behind, ended, rfl, front, later⟩

theorem Line.Grammatical.insert (grammatical : line.Grammatical) (whole : EndsWhole front)
    (fresh : x.Fresh line.arguments) (split : line.words = front ++ rest) :
    ∃ line' : Line, line'.Grammatical ∧ line'.words = front ++ x.words ++ rest ∧
      line'.arguments = x.alter line.arguments := by
  obtain ⟨own, below⟩ := line
  obtain ⟨free, freeBelow⟩ := vacant_of_fresh fresh
  rcases grammatical.split whole split with
    ⟨ahead, behind, ended, is, rfl, rfl⟩ | ⟨c, ahead, behind, ended, is, rfl, rfl⟩
  · cases is
    obtain ⟨fits, given⟩ := grammatical.own.insert (x.fits_phrase .launcher fresh)
      x.entries_phrase (x.sound_entry .launcher fresh) free
    refine ⟨⟨⟨ahead ++ x.phrase :: behind, ended⟩, below⟩, ⟨fits, grammatical.below⟩, ?_, ?_⟩
    · simp [Line.words, Clause.words, x.words_phrase]
    · rw [Line.arguments, Line.levels, given]
      exact arguments_enter_own fresh
  · cases is
    obtain ⟨ownRest, clause⟩ := grammatical.below c _ rfl
    obtain ⟨fits, given⟩ := clause.insert (x.fits_phrase _ fresh) x.entries_phrase
      (x.sound_entry _ fresh) (freeBelow c _ rfl)
    refine ⟨⟨own, some (c, ⟨ahead ++ x.phrase :: behind, ended⟩)⟩, ⟨grammatical.own, ?_⟩, ?_, ?_⟩
    · rintro _ _ ⟨⟩
      exact ⟨ownRest, fits⟩
    · simp [Line.words, Clause.words, x.words_phrase]
    · change Levels.arguments ⟨own.given,
        some (c, Clause.given ⟨ahead ++ x.phrase :: behind, ended⟩)⟩ = _
      rw [given]
      exact arguments_enter_below _ _ _

theorem parse_insert {a : Arguments} (parsed : parse (front ++ rest) = .ok a)
    (whole : EndsWhole front) (fresh : x.Fresh a) :
    parse (front ++ x.words ++ rest) = .ok (x.alter a) := by
  obtain ⟨line, grammatical, words, rfl⟩ := parse_eq_ok_iff.1 parsed
  exact parse_eq_ok_iff.2 (grammatical.insert whole fresh words)

theorem endsWhole_append (nonempty : middle ≠ []) :
    EndsWhole (front ++ middle) ↔ ['-', '-'] ∉ front ∧ EndsWhole middle := by
  have last : (front ++ middle).getLast? = middle.getLast? := by
    rw [List.getLast?_append, List.getLast?_eq_some_getLast nonempty, Option.some_or]
  rw [EndsWhole, EndsWhole, last, List.mem_append, not_or, and_assoc]

theorem Addition.endsWhole {a : Arguments} (fresh : x.Fresh a) : EndsWhole x.words := by
  rcases x with path | _ | _
  · have other {rest : Text} : path ≠ '-' :: rest := by
      rintro rfl
      exact fresh.2.1 rfl
    refine ⟨fun member => ?_, fun last => other (Option.some.inj last),
      fun last => other (Option.some.inj last)⟩
    rcases List.mem_cons.1 member with is | member
    · cases is
    · exact other (List.mem_singleton.1 member).symm
  · exact ⟨by decide, by decide, by decide⟩
  · exact ⟨by decide, by decide, by decide⟩

theorem EndsWhole.insert {a : Arguments} (fresh : x.Fresh a) (whole : EndsWhole (front ++ middle)) :
    EndsWhole (front ++ x.words ++ middle) := by
  have nonempty : x.words ≠ [] := by rcases x with path | short <;> exact List.cons_ne_nil _ _
  have added := Addition.endsWhole fresh
  by_cases nothing : middle = []
  · subst nothing
    rw [List.append_nil] at whole ⊢
    exact (endsWhole_append nonempty).2 ⟨whole.1, added⟩
  · rw [endsWhole_append nothing] at whole ⊢
    exact ⟨fun member => (List.mem_append.1 member).elim whole.1 added.1, whole.2⟩

theorem parse_insert_twice {x y : Addition} {a : Arguments}
    (parsed : parse (front ++ middle ++ rest) = .ok a) (whole : EndsWhole front)
    (whole' : EndsWhole (front ++ middle)) (fresh : x.Fresh a) (fresh' : y.Fresh (x.alter a)) :
    parse (front ++ x.words ++ middle ++ y.words ++ rest) = .ok (y.alter (x.alter a)) := by
  rw [List.append_assoc] at parsed
  have once := parse_insert parsed whole fresh
  rw [← List.append_assoc] at once
  exact parse_insert once (whole'.insert fresh) fresh'

end Insertion

section Spellings

variable {level : Level} {e : Entry} {h : Text}

theorem fits_nothing (level : Level) (none : level.takesOperand = false) :
    Clause.Fits level ⟨[], Option.none⟩ :=
  ⟨fun _ member => absurd member List.not_mem_nil,
    ⟨fun _ member => absurd member List.not_mem_nil, List.nodup_nil⟩,
    fun takes => absurd takes (by simp [none])⟩

theorem fits_alone {phrase : Phrase} (none : level.takesOperand = false)
    (fit : phrase.Fits level)
    (entries : phrase.entries = [e]) (sound : e.sound level = true) :
    Clause.Fits level ⟨[phrase], Option.none⟩ := by
  have nothing : Clause.Fits level ⟨[] ++ [], Option.none⟩ := fits_nothing level none
  exact (nothing.insert fit entries sound (Given.vacant_empty _)).1

theorem select_spelled (phrase : Phrase)
    (fit : ∀ level : Level, level.allows .home = true → phrase.Fits level)
    (entries : phrase.entries = [.option .home h]) :
    ∀ args ∈ [phrase.words, "bootstrap".toList :: phrase.words,
        phrase.words ++ ["bootstrap".toList]],
      ∃ a, parse args = .ok a ∧ a.select = .ok (.bootstrap (some h)) := by
  let home : Clause := ⟨[phrase], none⟩
  let nothing : Clause := ⟨[], none⟩
  have words : home.words = phrase.words := by simp [home, Clause.words]
  have given : home.given = Given.empty.put .home h := by
    rw [Clause.given, show home.entries = [.option .home h] by simp [home, Clause.entries, entries]]
    rfl
  have sound (level : Level) (optional : level.refusesEmpty .home = false) :
      (Entry.option .home h).sound level = true := by simp [Entry.sound, optional]
  have own : home.Fits .launcher := fits_alone rfl (fit _ rfl) entries (sound _ rfl)
  have below : home.Fits (.subcommand .bootstrap) :=
    fits_alone rfl (fit _ rfl) entries (sound _ rfl)
  have free : nothing.Fits .launcher := fits_nothing _ rfl
  have free' : nothing.Fits (.subcommand .bootstrap) := fits_nothing _ rfl
  intro args member
  simp only [List.mem_cons, List.not_mem_nil, or_false] at member
  rcases member with rfl | rfl | rfl
  · refine ⟨_, parse_eq_ok_iff.2 ⟨⟨home, none⟩, ⟨own, ?_⟩, ?_, rfl⟩, ?_⟩
    · rintro _ _ ⟨⟩
    · rw [Line.words, words, Option.elim_none, List.append_nil]
    · change Arguments.select ⟨home.given.home, none, _, _⟩ = _
      rw [given]
      rfl
  · refine ⟨_, parse_eq_ok_iff.2 ⟨⟨nothing, some (.bootstrap, home)⟩, ⟨free, ?_⟩, ?_, rfl⟩, ?_⟩
    · rintro _ _ ⟨⟩
      exact ⟨rfl, below⟩
    · rw [← words]
      rfl
    · change Arguments.select ⟨none, some (.bootstrap home.given.home), _, _⟩ = _
      rw [given]
      rfl
  · refine ⟨_, parse_eq_ok_iff.2 ⟨⟨home, some (.bootstrap, nothing)⟩, ⟨own, ?_⟩, ?_, rfl⟩, ?_⟩
    · rintro _ _ ⟨⟩
      exact ⟨rfl, free'⟩
    · rw [← words]
      rfl
    · change Arguments.select ⟨home.given.home, some (.bootstrap none), _, _⟩ = _
      rw [given]
      rfl

theorem fits_home {level : Level} (allows : level.allows .home = true) :
    level.named? "home".toList = some .home := by
  rw [Level.named?, Option.filter_eq_some_iff]
  exact ⟨rfl, allows⟩

end Spellings

/-- What is accepted is grammatical. A home before the subcommand is one for the bootstrap, and for
no other command; behind the subcommand it is one for that command; on both sides it is refused.
Config file and verbosity may be given at any place between whole words, and nothing else changes. -/
theorem home_where_placed :
    (∀ args a, parse args = .ok a ↔
      ∃ line : Line, line.Grammatical ∧ line.words = args ∧ line.arguments = a) ∧
    (∀ line : Line, line.Grammatical →
      (∀ h ∈ line.homesAhead, line.homesBehind = [] →
        line.arguments.select =
          match line.below with
          | none | some (.bootstrap, _) => .ok (.bootstrap (some h))
          | some _ => .error misplacedHome) ∧
      (∀ h ∈ line.homesBehind, line.homesAhead = [] →
        ∃ c clause task, line.below = some (c, clause) ∧ c.homed? h = some task ∧
          line.arguments.select = .ok task) ∧
      (line.homesAhead ≠ [] → line.homesBehind ≠ [] →
        line.arguments.select = .error misplacedHome)) ∧
    (∀ h : Text,
      (h.head? ≠ some '-' →
        ∀ args ∈ [["--home".toList, h], ["bootstrap".toList, "--home".toList, h],
            ["--home".toList, h, "bootstrap".toList]],
          ∃ a, parse args = .ok a ∧ a.select = .ok (.bootstrap (some h))) ∧
      ∀ args ∈ [["--home=".toList ++ h], ["bootstrap".toList, "--home=".toList ++ h],
          ["--home=".toList ++ h, "bootstrap".toList]],
        ∃ a, parse args = .ok a ∧ a.select = .ok (.bootstrap (some h))) ∧
    (∀ (x : Addition) (front rest : List Text) (a : Arguments), parse (front ++ rest) = .ok a →
      EndsWhole front → x.Fresh a → parse (front ++ x.words ++ rest) = .ok (x.alter a)) ∧
    (∀ (x y : Addition) (front middle rest : List Text) (a : Arguments),
      parse (front ++ middle ++ rest) = .ok a → EndsWhole front → EndsWhole (front ++ middle) →
      x.Fresh a → y.Fresh (x.alter a) →
        parse (front ++ x.words ++ middle ++ y.words ++ rest) = .ok (y.alter (x.alter a))) ∧
    ∀ (x : Addition) (a : Arguments), (x.alter a).select = a.select := by
  refine ⟨fun args a => parse_eq_ok_iff, fun line grammatical => ⟨?_, ?_, ?_⟩, fun h => ⟨?_, ?_⟩,
    fun x front rest a => parse_insert, fun x y front middle rest a => parse_insert_twice, ?_⟩
  · exact fun h ahead behind => select_ahead grammatical ahead behind
  · exact fun h behind ahead => select_behind grammatical behind ahead
  · exact fun ahead behind => select_both grammatical ahead behind
  · intro undashed
    exact select_spelled (.apart "home".toList .home h) (fun level allows =>
      ⟨fits_home allows, rfl, Addition.plain_of_head? undashed⟩) rfl
  · exact select_spelled (.joined "home".toList .home h) (fun level allows =>
      ⟨fits_home allows, rfl⟩) rfl
  · intro x a
    cases x <;> rfl

theorem home_where_placed_like_subcommands :
    let home (h : Text) : Clause := ⟨[.apart "home".toList .home h], none⟩
    let ahead : Line := ⟨home "stop".toList, some (.showConfig, ⟨[], none⟩)⟩
    let behind : Line := ⟨⟨[], none⟩, some (.status, home "bootstrap".toList)⟩
    ahead.arguments.select = .error misplacedHome ∧
      behind.arguments.select = .ok (.status (some "bootstrap".toList)) ∧
      parse ["--home".toList, "status".toList, "--config".toList, "stop".toList,
          "bootstrap".toList, "-v".toList] =
        .ok ⟨some "status".toList, some (.bootstrap none), some "stop".toList, true⟩ := by
  intro home ahead behind
  have fits (level : Level) (h : Text) (none : level.takesOperand = false)
      (allows : level.allows .home = true) (undashed : plain h = true)
      (sound : (Entry.option .home h).sound level = true) : (home h).Fits level :=
    fits_alone none ⟨fits_home allows, rfl, undashed⟩ rfl sound
  have grammatical : ahead.Grammatical := by
    refine ⟨fits _ _ rfl rfl rfl rfl, ?_⟩
    rintro _ _ ⟨⟩
    exact ⟨rfl, fits_nothing _ rfl⟩
  have grammatical' : behind.Grammatical := by
    refine ⟨fits_nothing _ rfl, ?_⟩
    rintro _ _ ⟨⟩
    exact ⟨rfl, fits _ _ rfl rfl rfl rfl⟩
  obtain ⟨-, placed, -, -, twice, -⟩ := home_where_placed
  obtain ⟨c, clause, task, is, homed, selects⟩ :=
    (placed behind grammatical').2.1 "bootstrap".toList List.mem_cons_self rfl
  cases is
  cases homed
  refine ⟨(placed ahead grammatical).1 "stop".toList List.mem_cons_self rfl, selects, ?_⟩
  exact twice (.config "stop".toList) (.verbose true) ["--home".toList, "status".toList]
    ["bootstrap".toList] [] ⟨some "status".toList, some (.bootstrap none), none, false⟩ rfl
    (by decide) (by decide) ⟨by decide, by decide, rfl⟩ rfl

end PlatformLauncher.CommandLine
