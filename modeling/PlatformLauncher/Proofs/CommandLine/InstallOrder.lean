import PlatformLauncher.Proofs.CommandLine.PlacedHome

/-!
The words behind `install`. Whatever their order and their spelling, they come to the choice that was
made, and there is exactly one source among them. Main statements: `parse_pieces` for a choice that is
spelled out, `sources_of_parse` for any words that are accepted, and `install_in_any_order`.
-/
namespace PlatformLauncher.CommandLine

open Progress

/-! Phrases of a subcommand -/

section Order

variable {c : Subcommand} {phrases phrases' : List Phrase}

theorem parse_named (c : Subcommand) (args : List Text) :
    parse (c.name :: args) =
      (readSubcommand c args).map fun given => Levels.arguments ⟨.empty, some (c, given)⟩ := by
  have closed : ¬ (start.trailing || start.awaitsValue) = true := Bool.false_ne_true
  have unlike : c.name ≠ Subcommand.helpName := by cases c <;> decide
  rw [parse, readFrom, if_neg closed, if_neg unlike, Subcommand.ofName?_name]
  dsimp only
  cases readSubcommand c args <;> rfl

theorem readSubcommand_phrases (fits : ∀ phrase ∈ phrases, phrase.Fits (.subcommand c)) {g : Given} :
    readSubcommand c (phrases.flatMap Phrase.words) = .ok g ↔
      Clause.Fits (.subcommand c) ⟨phrases, none⟩ ∧ kept (phrases.flatMap Phrase.entries) = g := by
  let clause : Clause := ⟨phrases, none⟩
  have words : clause.words = phrases.flatMap Phrase.words := List.append_nil _
  have entries : clause.entries = phrases.flatMap Phrase.entries := List.append_nil _
  have whole : (clause.words.foldlM (step (.subcommand c)) .start >>= finish (.subcommand c)) = .ok g ↔
      clause.Fits (.subcommand c) ∧ clause.given = g := finish_clause fits
  rw [words, Clause.given, entries] at whole
  exact whole

theorem Clause.Fits.perm (fits : Clause.Fits (.subcommand c) ⟨phrases, none⟩)
    (same : phrases.Perm phrases') : Clause.Fits (.subcommand c) ⟨phrases', none⟩ := by
  have entries : (Clause.entries ⟨phrases, none⟩).Perm (Clause.entries ⟨phrases', none⟩) :=
    (same.flatMap_right Phrase.entries).append_right _
  refine ⟨fun phrase member => fits.phrases phrase (same.mem_iff.2 member),
    fits.entries.perm entries, fun takes => ?_⟩
  obtain ⟨word, member⟩ := fits.operand takes
  exact ⟨word, entries.mem_iff.1 member⟩

theorem readSubcommand_perm (fits : ∀ phrase ∈ phrases, phrase.Fits (.subcommand c))
    (same : phrases.Perm phrases') {g : Given}
    (read : readSubcommand c (phrases.flatMap Phrase.words) = .ok g) :
    readSubcommand c (phrases'.flatMap Phrase.words) = .ok g := by
  obtain ⟨whole, rfl⟩ := (readSubcommand_phrases fits).1 read
  have whole' := whole.perm same
  refine (readSubcommand_phrases whole'.phrases).2 ⟨whole', ?_⟩
  have compatible : Compatible (.subcommand c) (phrases.flatMap Phrase.entries) := by
    simpa [Clause.entries] using whole.entries
  exact (kept_perm compatible (same.flatMap_right _)).symm

theorem parse_perm (fits : ∀ phrase ∈ phrases, phrase.Fits (.subcommand c))
    (same : phrases.Perm phrases') (a : Arguments) :
    parse (c.name :: phrases.flatMap Phrase.words) = .ok a ↔
      parse (c.name :: phrases'.flatMap Phrase.words) = .ok a := by
  have fits' : ∀ phrase ∈ phrases', phrase.Fits (.subcommand c) := fun phrase member =>
    fits phrase (same.mem_iff.2 member)
  have onward {first second : List Phrase} (fits : ∀ phrase ∈ first, phrase.Fits (.subcommand c))
      (same : first.Perm second) (parsed : parse (c.name :: first.flatMap Phrase.words) = .ok a) :
      parse (c.name :: second.flatMap Phrase.words) = .ok a := by
    rw [parse_named] at parsed ⊢
    cases read : readSubcommand c (first.flatMap Phrase.words) with
    | error stop =>
      rw [read] at parsed
      cases parsed
    | ok g =>
      rw [read] at parsed
      rw [readSubcommand_perm fits same read]
      exact parsed
  exact ⟨onward fits same, onward fits' same.symm⟩

end Order

/-! A choice, and how it is spelled -/

structure Choice where
  source : Text
  force : Bool
  preRelease : Bool
  verbose : Bool
  config : Option Path
deriving DecidableEq, Repr

namespace Choice

/-- No word of it looks like an option. -/
structure Plain (c : Choice) : Prop where
  source : c.source.head? ≠ some '-'
  config : ∀ p ∈ c.config, p ≠ [] ∧ p.head? ≠ some '-'

def entries (c : Choice) : List Entry :=
  .operand c.source ::
    ((if c.force then [.option .force []] else []) ++
      (if c.preRelease then [.option .preRelease []] else []) ++
      (if c.verbose then [.option .verbose []] else []) ++ c.config.toList.map (.option .config))

def task (c : Choice) : Task := .install c.source c.force c.preRelease

def arguments (c : Choice) : Arguments := ⟨none, some c.task, c.config, c.verbose⟩

variable {c : Choice}

theorem kept_entries (c : Choice) :
    kept c.entries = ⟨none, c.config, c.verbose, c.force, c.preRelease, some c.source⟩ := by
  obtain ⟨source, _ | _, _ | _, _ | _, _ | path⟩ := c <;> rfl

theorem Plain.compatible (spellable : c.Plain) : Compatible (.subcommand .install) c.entries where
  sound e member := by
    simp only [entries, List.mem_cons, List.mem_append, List.mem_ite_nil_right, List.mem_map,
      Option.mem_toList, List.not_mem_nil, or_false] at member
    rcases member with rfl | ((⟨-, rfl⟩ | ⟨-, rfl⟩) | ⟨-, rfl⟩) | ⟨path, given, rfl⟩
    · rfl
    · rfl
    · rfl
    · rfl
    · have nonempty : path.isEmpty = false := by simpa using (spellable.config path given).1
      simp [Entry.sound, nonempty]
  once := by
    obtain ⟨source, _ | _, _ | _, _ | _, _ | path⟩ := c <;> simp [entries, Entry.place]

end Choice

inductive EarlyName where
  | pre
  | preRelease
  | allowPrereleases
deriving DecidableEq, Repr

def EarlyName.text : EarlyName → Text
  | pre => "pre".toList
  | preRelease => "pre-release".toList
  | allowPrereleases => "allow-prereleases".toList

/-- A piece of what is typed behind `install`. Two flags can share a dash. -/
inductive Piece where
  | source (word : Text)
  | force (short : Bool)
  | preRelease (name : EarlyName)
  | addition (x : Addition)
  | shared (forceFirst : Bool)
deriving DecidableEq, Repr

namespace Piece

def words : Piece → List Text
  | source word => [word]
  | force short => [if short then "-f".toList else "--force".toList]
  | preRelease name => ["--".toList ++ name.text]
  | addition x => x.words
  | shared forceFirst => [if forceFirst then "-fv".toList else "-vf".toList]

def entries : Piece → List Entry
  | source word => [.operand word]
  | force _ => [.option .force []]
  | preRelease _ => [.option .preRelease []]
  | addition x => [x.entry]
  | shared true => [.option .force [], .option .verbose []]
  | shared false => [.option .verbose [], .option .force []]

def source? : Piece → Option Text
  | source word => some word
  | _ => none

/-- Neither its source nor its path looks like an option. -/
def Plain : Piece → Prop
  | source word => word.head? ≠ some '-'
  | addition (.config path) => path ≠ [] ∧ path.head? ≠ some '-'
  | _ => True

def phrase : Piece → Phrase
  | source word => .operand word
  | force true => .lettered [('f', .force)]
  | force false => .named "force".toList .force
  | preRelease name => .named name.text .preRelease
  | addition x => x.phrase
  | shared true => .lettered [('f', .force), ('v', .verbose)]
  | shared false => .lettered [('v', .verbose), ('f', .force)]

theorem words_phrase (piece : Piece) : piece.phrase.words = piece.words := by
  rcases piece with word | (_ | _) | name | x | (_ | _)
  case addition => exact x.words_phrase
  all_goals rfl

theorem entries_phrase (piece : Piece) : piece.phrase.entries = piece.entries := by
  rcases piece with word | (_ | _) | name | x | (_ | _)
  case addition => exact x.entries_phrase
  all_goals rfl

theorem fits_phrase {piece : Piece} (spellable : piece.Plain) :
    piece.phrase.Fits (.subcommand .install) := by
  have lettered {letters : List (Char × Switch)} (nonempty : letters ≠ [])
      (each : ∀ entry ∈ letters, (Level.subcommand .install).lettered? entry.1 = some entry.2) :
      (Phrase.lettered letters).Fits (.subcommand .install) :=
    ⟨nonempty, fun c s member => each (c, s) member⟩
  rcases piece with word | (_ | _) | name | x | (_ | _)
  · exact ⟨rfl, Addition.plain_of_head? spellable⟩
  · exact ⟨rfl, rfl⟩
  · exact lettered (by simp) (by decide)
  · cases name <;> exact ⟨rfl, rfl⟩
  · have fresh : x.Fresh ⟨none, none, none, false⟩ := by
      rcases x with path | short
      · exact ⟨spellable.1, spellable.2, rfl⟩
      · rfl
    exact x.fits_phrase _ fresh
  · exact lettered (by simp) (by decide)
  · exact lettered (by simp) (by decide)

end Piece

section Spelling

variable {c : Choice} {pieces : List Piece}

theorem plain_of_spelled (spellable : c.Plain) (spelled : (pieces.flatMap Piece.entries).Perm c.entries)
    {piece : Piece} (member : piece ∈ pieces) : piece.Plain := by
  have said {e : Entry} (inside : e ∈ piece.entries) : e ∈ c.entries :=
    spelled.mem_iff.1 (List.mem_flatMap.2 ⟨piece, member, inside⟩)
  rcases piece with word | short | name | (path | short) | forceFirst
  case source =>
    have named : word = c.source := by simpa [Choice.entries] using said List.mem_cons_self
    rw [named]
    exact spellable.source
  case addition.config =>
    have given : path ∈ c.config := by simpa [Choice.entries, Addition.entry] using said List.mem_cons_self
    exact spellable.config path given
  all_goals trivial

theorem words_pieces (pieces : List Piece) :
    (pieces.map Piece.phrase).flatMap Phrase.words = pieces.flatMap Piece.words := by
  simp [List.flatMap_map, Piece.words_phrase]

theorem entries_pieces (pieces : List Piece) :
    (pieces.map Piece.phrase).flatMap Phrase.entries = pieces.flatMap Piece.entries := by
  simp [List.flatMap_map, Piece.entries_phrase]

theorem fits_pieces (spellable : ∀ piece ∈ pieces, piece.Plain) :
    ∀ phrase ∈ pieces.map Piece.phrase, phrase.Fits (.subcommand .install) := by
  intro phrase member
  obtain ⟨piece, inside, rfl⟩ := List.mem_map.1 member
  exact Piece.fits_phrase (spellable piece inside)

theorem parse_pieces (spellable : c.Plain) (spelled : (pieces.flatMap Piece.entries).Perm c.entries) :
    parse ("install".toList :: pieces.flatMap Piece.words) = .ok c.arguments := by
  have phrases := fits_pieces fun piece member => plain_of_spelled spellable spelled member
  have compatible : Compatible (.subcommand .install) (pieces.flatMap Piece.entries) :=
    spellable.compatible.perm spelled.symm
  have entries : Clause.entries ⟨pieces.map Piece.phrase, none⟩ = pieces.flatMap Piece.entries :=
    (List.append_nil _).trans (entries_pieces pieces)
  have fits : Clause.Fits (.subcommand .install) ⟨pieces.map Piece.phrase, none⟩ :=
    ⟨phrases, entries ▸ compatible, fun _ => ⟨c.source, by
      rw [entries]
      exact spelled.mem_iff.2 List.mem_cons_self⟩⟩
  have read := (readSubcommand_phrases phrases).2 ⟨fits, rfl⟩
  rw [words_pieces, entries_pieces, kept_perm compatible spelled, Choice.kept_entries] at read
  change parse (Subcommand.install.name :: _) = _
  rw [parse_named, read]
  simp [Except.map, Levels.arguments, Subcommand.task, Choice.arguments, Choice.task, Given.empty]

end Spelling

/-! The sources among any words -/

/-- The words that are no options and no values of options, with or without a value due. -/
def sourcesFrom : Bool → List Text → List Text
  | _, [] => []
  | true, _ :: rest => sourcesFrom false rest
  | false, word :: rest =>
    if word = "--".toList then rest
    else if word = "--config".toList then sourcesFrom true rest
    else if plain word then word :: sourcesFrom false rest
    else sourcesFrom false rest

def sources (args : List Text) : List Text := sourcesFrom false args

def Entry.source? : Entry → Option Text
  | operand word => some word
  | option _ _ => none

section Sources

variable {word : Text} {phrase : Phrase} {phrases : List Phrase} {clause : Clause} {args : List Text}

theorem sources_option (rest : List Text) (dashedWord : plain word = false)
    (more : word ≠ "--".toList) (flag : word ≠ "--config".toList) :
    sources (word :: rest) = sources rest := by
  rw [sources, sourcesFrom, if_neg more, if_neg flag, dashedWord, if_neg Bool.false_ne_true, sources]

theorem sources_plain (rest : List Text) (spellable : plain word = true) :
    sources (word :: rest) = word :: sources rest := by
  have unlike {dashedWord : Text} (dashed : plain dashedWord = false) : word ≠ dashedWord := by
    rintro rfl
    exact Bool.false_ne_true (dashed.symm.trans spellable)
  rw [sources, sourcesFrom, if_neg (unlike rfl), if_neg (unlike rfl), if_pos spellable, sources]

theorem eq_config_of_takesValue {name : Text} {s : Switch}
    (found : (Level.subcommand .install).named? name = some s) :
    s.takesValue = true ↔ name = "config".toList := by
  obtain ⟨listed, allowed⟩ := Option.filter_eq_some_iff.1 found
  obtain ⟨before, after, all, -⟩ := List.lookup_eq_some_iff.1 listed
  have known : ∀ entry ∈ Switch.names, (Level.subcommand .install).allows entry.2 = true →
      (entry.2.takesValue = true ↔ entry.1 = "config".toList) := by decide
  exact known (name, s) (by simp [all]) allowed

theorem sources_phrase (fits : phrase.Fits (.subcommand .install)) (rest : List Text) :
    sources (phrase.words ++ rest) = phrase.entries.filterMap Entry.source? ++ sources rest := by
  cases phrase with
  | apart name s value =>
    obtain ⟨found, takes, -⟩ := fits
    obtain rfl := (eq_config_of_takesValue found).1 takes
    rfl
  | joined name s value =>
    obtain ⟨found, takes⟩ := fits
    obtain rfl := (eq_config_of_takesValue found).1 takes
    exact sources_option rest rfl (by simp) (by simp)
  | named name s =>
    obtain ⟨found, flag⟩ := fits
    have other : name ≠ "config".toList := by
      intro is
      exact Bool.false_ne_true (flag.symm.trans ((eq_config_of_takesValue found).2 is))
    obtain ⟨nonempty, -⟩ := proper_of_named found
    exact sources_option rest rfl (by simpa using nonempty) (by simpa using other)
  | lettered letters =>
    obtain ⟨nonempty, found⟩ := fits
    obtain _ | ⟨⟨c, s⟩, letters⟩ := letters
    · exact absurd rfl nonempty
    · have dash := ne_dash_of_lettered (found c s List.mem_cons_self)
      have noSource : (Phrase.lettered ((c, s) :: letters)).entries.filterMap Entry.source? = [] := by
        rw [List.filterMap_eq_nil_iff]
        intro e member
        obtain ⟨_, -, rfl⟩ := List.mem_map.1 member
        rfl
      rw [noSource]
      exact sources_option rest rfl (by simp [dash]) (by simp [dash])
  | operand word => exact sources_plain rest fits.2

theorem sources_words (fits : ∀ phrase ∈ phrases, phrase.Fits (.subcommand .install))
    (rest : List Text) :
    sources (phrases.flatMap Phrase.words ++ rest) =
      (phrases.flatMap Phrase.entries).filterMap Entry.source? ++ sources rest := by
  induction phrases with
  | nil => rfl
  | cons phrase phrases ih =>
    rw [List.flatMap_cons, List.flatMap_cons, List.append_assoc,
      sources_phrase (fits phrase List.mem_cons_self),
      ih fun other member => fits other (List.mem_cons_of_mem _ member), List.filterMap_append,
      List.append_assoc]

theorem sources_clause (fits : ∀ phrase ∈ clause.phrases, phrase.Fits (.subcommand .install)) :
    sources clause.words = clause.entries.filterMap Entry.source? := by
  have behind : sources (clause.rest.elim [] fun rest => ['-', '-'] :: rest) =
      ((clause.rest.getD []).map Entry.operand).filterMap Entry.source? := by
    cases clause.rest with
    | none => rfl
    | some rest => simp [sources, sourcesFrom, List.filterMap_map, Function.comp_def, Entry.source?]
  rw [Clause.words, sources_words fits, behind, Clause.entries, List.filterMap_append]

theorem Clause.Fits.source (fits : clause.Fits (.subcommand .install)) :
    ∃ s, clause.entries.filterMap Entry.source? = [s] ∧ clause.given.operand = some s := by
  obtain ⟨s, member⟩ := fits.operand rfl
  obtain ⟨g, keeps⟩ := kept_of_mem fits.entries member
  refine ⟨s, ?_, by rw [Clause.given, keeps]; rfl⟩
  obtain ⟨before, after, is⟩ := List.append_of_mem member
  have first : (before ++ .operand s :: after).Perm (.operand s :: (before ++ after)) :=
    List.perm_middle
  have compatible := fits.entries
  rw [is] at compatible ⊢
  obtain ⟨-, apart, -⟩ := compatible_cons_iff.1 (compatible.perm first)
  have others : (before ++ after).filterMap Entry.source? = [] := by
    rw [List.filterMap_eq_nil_iff]
    intro e inside
    cases e with
    | option s value => rfl
    | operand word => exact absurd rfl (apart (.operand word) inside)
  have listed := first.filterMap Entry.source?
  rw [List.filterMap_cons, others] at listed
  exact List.perm_singleton.1 listed

theorem sources_of_parse {a : Arguments} (parsed : parse ("install".toList :: args) = .ok a) :
    ∃ s force preRelease, sources args = [s] ∧ a.task = some (.install s force preRelease) := by
  change parse (Subcommand.install.name :: args) = _ at parsed
  rw [parse_named] at parsed
  cases read : readSubcommand .install args with
  | error stop =>
    rw [read] at parsed
    cases parsed
  | ok g =>
    rw [read] at parsed
    cases parsed
    obtain ⟨clause, fits, rfl, rfl⟩ := readSubcommand_eq_ok_iff.1 read
    obtain ⟨s, only, settled⟩ := fits.source
    refine ⟨s, clause.given.force, clause.given.preRelease, ?_, ?_⟩
    · rw [sources_clause fits.phrases, only]
    · simp [Levels.arguments, Subcommand.task, settled]

end Sources

/-! What is not accepted -/

def RefusesOnly {α : Type} (came : Except Stop α) : Prop :=
  ∀ stop, came = .error stop → ∃ m, stop = .misuse m

section Refusals

variable {α β : Type} {level : Level} {p : Progress} {phrase : Phrase} {phrases : List Phrase}

theorem RefusesOnly.ok (x : α) : RefusesOnly (.ok x) := by rintro _ ⟨⟩

theorem RefusesOnly.misuse (m : Misuse) : RefusesOnly (.error (.misuse m) : Except Stop α) := by
  rintro _ ⟨⟩
  exact ⟨m, rfl⟩

theorem RefusesOnly.map {came : Except Stop α} (refuses : RefusesOnly came) (f : α → β) :
    RefusesOnly (came.map f) := by
  cases came with
  | ok x => exact .ok (f x)
  | error stop =>
    obtain ⟨m, rfl⟩ := refuses stop rfl
    exact .misuse m

theorem RefusesOnly.bind {came : Except Stop α} {next : α → Except Stop β}
    (refuses : RefusesOnly came) (onward : ∀ x, came = .ok x → RefusesOnly (next x)) :
    RefusesOnly (came >>= next) := by
  cases came with
  | ok x => exact onward x rfl
  | error stop =>
    obtain ⟨m, rfl⟩ := refuses stop rfl
    exact .misuse m

theorem refuses_add (level : Level) (g : Given) (s : Switch) (value : Text) :
    RefusesOnly (g.add level s value) := by
  unfold Given.add
  split
  · exact .misuse _
  split
  · exact .misuse _
  · exact .ok _

theorem refuses_settle (level : Level) (p : Progress) : RefusesOnly (p.settle level) := by
  unfold settle
  split
  · exact .ok p
  · exact .misuse _
  · exact (refuses_add level _ _ _).map _

theorem refuses_complete (level : Level) (p : Progress) {s : Switch} (value : Text)
    (lasting : s ≠ .help ∧ s ≠ .version) : RefusesOnly (p.complete level s value) := by
  refine (refuses_settle level p).bind fun p' _ => ?_
  split
  · exact absurd rfl lasting.1
  · exact absurd rfl lasting.2
  · exact (refuses_add level _ _ _).map _

theorem refuses_operand (level : Level) (p : Progress) (word : Text) :
    RefusesOnly (p.operand level word) := by
  unfold operand
  split
  · exact (refuses_settle level p).map _
  · exact .misuse _

theorem refuses_letters {letters : List (Char × Switch)}
    (found : ∀ c s, (c, s) ∈ letters → level.lettered? c = some s)
    (lasting : ∀ entry ∈ letters, entry.2 ≠ .help ∧ entry.2 ≠ .version) :
    RefusesOnly ((letters.map Prod.fst).foldlM (letter level) p) := by
  induction letters generalizing p with
  | nil => exact .ok p
  | cons entry letters ih =>
    obtain ⟨c, s⟩ := entry
    have completes : letter level p c = p.complete level s [] := by
      rw [letter, found c s List.mem_cons_self]
    rw [List.map_cons, List.foldlM_cons, completes]
    refine (refuses_complete level p [] (lasting _ List.mem_cons_self)).bind fun p' _ => ?_
    exact ih (fun c s member => found c s (List.mem_cons_of_mem _ member))
      fun entry member => lasting entry (List.mem_cons_of_mem _ member)

theorem refuses_phrase (idle : p.Idle) (before : p.trailing = false) (fits : phrase.Fits level)
    (lasting : ∀ e ∈ phrase.entries, e.place ≠ some .help ∧ e.place ≠ some .version) :
    RefusesOnly (phrase.words.foldlM (step level) p) := by
  have stays {s : Switch} {value : Text} (said : Entry.option s value ∈ phrase.entries) :
      s ≠ .help ∧ s ≠ .version := by simpa [Entry.place] using lasting _ said
  cases phrase with
  | apart name s value =>
    obtain ⟨found, takes, bare⟩ := fits
    rw [Phrase.words, foldlM_apart idle before found takes bare]
    exact (refuses_settle level p).map _
  | joined name s value =>
    rw [Phrase.words, foldlM_step_singleton, step_dashed before (by simp), long_joined fits.1 fits.2]
    exact refuses_complete level p value (stays List.mem_cons_self)
  | named name s =>
    rw [Phrase.words, foldlM_step_singleton, step_dashed before (proper_of_named fits.1).1,
      long_named fits.1, if_neg (by simp [fits.2])]
    exact refuses_complete level p [] (stays List.mem_cons_self)
  | lettered letters =>
    obtain ⟨nonempty, found⟩ := fits
    obtain _ | ⟨⟨c, s⟩, letters⟩ := letters
    · exact absurd rfl nonempty
    · have dash := ne_dash_of_lettered (found c s List.mem_cons_self)
      rw [Phrase.words, foldlM_step_singleton, List.map_cons, step_letters before dash]
      exact refuses_letters found fun entry member => stays (List.mem_map.2 ⟨entry, member, rfl⟩)
  | operand word =>
    rw [Phrase.words, foldlM_step_singleton, step_plain before fits.2]
    split
    · exact .ok _
    · exact refuses_operand level p word

theorem refuses_phrases (idle : p.Idle) (before : p.trailing = false)
    (fits : ∀ phrase ∈ phrases, phrase.Fits level)
    (lasting : ∀ e ∈ phrases.flatMap Phrase.entries, e.place ≠ some .help ∧ e.place ≠ some .version) :
    RefusesOnly ((phrases.flatMap Phrase.words).foldlM (step level) p) := by
  induction phrases generalizing p with
  | nil => exact .ok p
  | cons phrase phrases ih =>
    have fit := fits phrase List.mem_cons_self
    have reads := reads_phrase idle before fit
    rw [List.flatMap_cons] at lasting
    rw [List.flatMap_cons, List.foldlM_append]
    refine (refuses_phrase idle before fit fun e member =>
      lasting e (List.mem_append_left _ member)).bind fun p' came => ?_
    rw [came] at reads
    exact ih reads.1 reads.2.1 (fun other member => fits other (List.mem_cons_of_mem _ member))
      fun e member => lasting e (List.mem_append_right _ member)

theorem refuses_finish (level : Level) (p : Progress) : RefusesOnly (p.finish level) := by
  refine (refuses_settle level p).bind fun p' _ => ?_
  split
  · exact .misuse _
  · exact .ok _

end Refusals

section Install

variable {pieces : List Piece}

theorem lasting_pieces (pieces : List Piece) :
    ∀ e ∈ pieces.flatMap Piece.entries, e.place ≠ some .help ∧ e.place ≠ some .version := by
  intro e member
  obtain ⟨piece, -, inside⟩ := List.mem_flatMap.1 member
  rcases piece with word | short | name | (path | short) | (_ | _) <;>
    simp only [Piece.entries, Addition.entry, List.mem_cons, List.not_mem_nil, or_false] at inside
  case shared.false | shared.true => rcases inside with rfl | rfl <;> simp [Entry.place]
  all_goals simp [inside, Entry.place]

theorem sources_entries (pieces : List Piece) :
    (pieces.flatMap Piece.entries).filterMap Entry.source? = pieces.filterMap Piece.source? := by
  induction pieces with
  | nil => rfl
  | cons piece pieces ih =>
    have one : piece.entries.filterMap Entry.source? = piece.source?.toList := by
      rcases piece with word | short | name | (path | short) | (_ | _) <;> rfl
    rw [List.flatMap_cons, List.filterMap_append, ih, one, List.filterMap_cons]
    cases piece.source? <;> rfl

theorem sources_pieces (spellable : ∀ piece ∈ pieces, piece.Plain) :
    sources (pieces.flatMap Piece.words) = pieces.filterMap Piece.source? := by
  have phrases := sources_words (fits_pieces spellable) []
  have nothing : sources [] = [] := rfl
  rwa [words_pieces, entries_pieces, List.append_nil, nothing, List.append_nil, sources_entries]
    at phrases

theorem misused_of_sources (spellable : ∀ piece ∈ pieces, piece.Plain)
    (wrong : (pieces.filterMap Piece.source?).length ≠ 1) :
    ∃ m, parse ("install".toList :: pieces.flatMap Piece.words) = .error (.misuse m) := by
  have refuses : RefusesOnly (readSubcommand .install (pieces.flatMap Piece.words)) := by
    rw [← words_pieces]
    refine (refuses_phrases idle_start rfl (fits_pieces spellable) ?_).bind fun p _ =>
      refuses_finish _ p
    rw [entries_pieces]
    exact lasting_pieces pieces
  have whole : RefusesOnly (parse ("install".toList :: pieces.flatMap Piece.words)) := by
    change RefusesOnly (parse (Subcommand.install.name :: _))
    rw [parse_named]
    exact refuses.map _
  cases parsed : parse ("install".toList :: pieces.flatMap Piece.words) with
  | ok a =>
    obtain ⟨s, -, -, only, -⟩ := sources_of_parse parsed
    rw [sources_pieces spellable] at only
    rw [only] at wrong
    exact absurd rfl wrong
  | error stop =>
    obtain ⟨m, rfl⟩ := whole stop parsed
    exact ⟨m, rfl⟩

/-- However the pieces of a choice are ordered and spelled, behind `install` they are that choice; and
phrases of any spelling may change places. Among any words that are accepted there is one source, and
it is the one to be installed: without one, or with more, all words are refused, and pieces that ask
for no help as a misuse, whatever they are and however often they are given. -/
theorem install_in_any_order :
    (∀ c : Choice, c.Plain → ∀ pieces : List Piece,
      (pieces.flatMap Piece.entries).Perm c.entries →
        parse ("install".toList :: pieces.flatMap Piece.words) = .ok c.arguments ∧
          c.arguments.select = .ok (.install c.source c.force c.preRelease)) ∧
    (∀ phrases phrases' : List Phrase,
      (∀ phrase ∈ phrases, phrase.Fits (.subcommand .install)) → phrases.Perm phrases' →
        ∀ a, parse ("install".toList :: phrases.flatMap Phrase.words) = .ok a ↔
          parse ("install".toList :: phrases'.flatMap Phrase.words) = .ok a) ∧
    (∀ args a, parse ("install".toList :: args) = .ok a →
      ∃ s force preRelease, sources args = [s] ∧ a.task = some (.install s force preRelease)) ∧
    (∀ args, sources args = [] ∨ 2 ≤ (sources args).length →
      ∃ stop, parse ("install".toList :: args) = .error stop) ∧
    ∀ pieces : List Piece, (∀ piece ∈ pieces, piece.Plain) →
      pieces.filterMap Piece.source? = [] ∨ 2 ≤ (pieces.filterMap Piece.source?).length →
        ∃ m, parse ("install".toList :: pieces.flatMap Piece.words) = .error (.misuse m) := by
  have wrong {words : List Text} (none_or_more : words = [] ∨ 2 ≤ words.length) :
      words.length ≠ 1 := by
    rcases none_or_more with rfl | more
    · decide
    · omega
  refine ⟨fun c spellable pieces spelled => ⟨parse_pieces spellable spelled, rfl⟩,
    fun phrases phrases' fits same a => parse_perm fits same a,
    fun args a => sources_of_parse, fun args none_or_more => ?_,
    fun pieces spellable none_or_more => misused_of_sources spellable (wrong none_or_more)⟩
  cases parsed : parse ("install".toList :: args) with
  | ok a =>
    obtain ⟨s, -, -, only, -⟩ := sources_of_parse parsed
    exact absurd (congrArg List.length only) (wrong none_or_more)
  | error stop => exact ⟨stop, rfl⟩

theorem install_in_any_order_like_subcommands :
    parse ["install".toList, "--config".toList, "stop".toList, "-vf".toList, "help".toList,
        "--allow-prereleases".toList] =
      .ok ⟨none, some (.install "help".toList true true), some "stop".toList, true⟩ ∧
    (∃ stop, parse ["install".toList, "a".toList, "-f".toList, "--".toList, "-b".toList] =
      .error stop) ∧
    ∃ m, parse ["install".toList, "--config".toList, "a".toList, "-f".toList, "-f".toList] =
      .error (.misuse m) := by
  obtain ⟨chosen, -, -, refused, misused⟩ := install_in_any_order
  let choice : Choice := ⟨"help".toList, true, true, true, some "stop".toList⟩
  have spellable : choice.Plain := by
    refine ⟨by decide, ?_⟩
    rintro _ ⟨⟩
    exact ⟨by decide, by decide⟩
  have parsed := (chosen choice spellable [.addition (.config "stop".toList), .shared false,
    .source "help".toList, .preRelease .allowPrereleases] (by decide)).1
  refine ⟨parsed, refused ["a".toList, "-f".toList, "--".toList, "-b".toList] (.inr (by decide)), ?_⟩
  refine misused [.addition (.config "a".toList), .force true, .force true] ?_ (.inl rfl)
  simp [Piece.Plain]

end Install

end PlatformLauncher.CommandLine
