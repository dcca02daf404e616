import PlatformLauncher.Proofs.CommandLine.Entries

/-!
The words of one level, in phrases: an option with its value in one word or in two, a flag by its
name, flags by their letters, an operand. Reading a phrase comes to its entries, although the last
option with a value is checked only later. Main statements: `reads_phrases` and `reads_operands`,
and `exists_phrases` for the way back.
-/
namespace PlatformLauncher

namespace CommandLine

/-- Whether a word can be a value apart from its option, or an operand. A single dash can. -/
def plain : Text → Bool
  | '-' :: _ :: _ => false
  | _ => true

inductive Phrase where
  | apart (name : Text) (s : Switch) (value : Text)
  | joined (name : Text) (s : Switch) (value : Text)
  | named (name : Text) (s : Switch)
  | lettered (letters : List (Char × Switch))
  | operand (word : Text)
deriving DecidableEq, Repr

namespace Phrase

def words : Phrase → List Text
  | apart name _ value => ['-' :: '-' :: name, value]
  | joined name _ value => ['-' :: '-' :: (name ++ '=' :: value)]
  | named name _ => ['-' :: '-' :: name]
  | lettered letters => ['-' :: letters.map Prod.fst]
  | operand word => [word]

def entries : Phrase → List Entry
  | apart _ s value | joined _ s value => [.option s value]
  | named _ s => [.option s []]
  | lettered letters => letters.map fun (_, s) => .option s []
  | operand word => [.operand word]

def Fits (level : Level) : Phrase → Prop
  | apart name s value => level.named? name = some s ∧ s.takesValue = true ∧ plain value = true
  | joined name s _ => level.named? name = some s ∧ s.takesValue = true
  | named name s => level.named? name = some s ∧ s.takesValue = false
  | lettered letters => letters ≠ [] ∧ ∀ c s, (c, s) ∈ letters → level.lettered? c = some s
  | operand word => level.takesOperand = true ∧ plain word = true

end Phrase

section Names

variable {level : Level}

theorem proper_of_named {name : Text} {s : Switch} (found : level.named? name = some s) :
    name ≠ [] ∧ '=' ∉ name := by
  have listed := (Option.filter_eq_some_iff.1 found).1
  obtain ⟨before, after, all, -⟩ := List.lookup_eq_some_iff.1 listed
  have proper : ∀ entry ∈ Switch.names, entry.1 ≠ [] ∧ '=' ∉ entry.1 := by decide
  exact proper (name, s) (by simp [all])

theorem ne_dash_of_lettered {c : Char} {s : Switch} (found : level.lettered? c = some s) :
    c ≠ '-' := by
  rintro rfl
  cases level <;> cases found

end Names

namespace Progress

def Idle (p : Progress) : Prop :=
  p.pending = none ∨ ∃ s value, s.takesValue = true ∧ p.pending = some (s, some value)

def owed (p : Progress) : List Entry :=
  match p.pending with
  | some (s, some value) => [.option s value]
  | _ => []

def told (level : Level) (p : Progress) (es : List Entry) : Option Given :=
  (p.owed ++ es).foldlM (Given.note? level) p.given

/-- Words with these entries came to this. Behind a double dash only operands follow. -/
def Reads (level : Level) (p : Progress) (es : List Entry) (trailing : Bool) :
    Except Stop Progress → Prop
  | .ok p' => p'.Idle ∧ p'.trailing = trailing ∧
      ∀ rest, p'.told level rest = p.told level (es ++ rest)
  | .error _ => ∀ rest, p.told level (es ++ rest) = none

section Reading

variable {level : Level} {p q : Progress} {es es' : List Entry} {trailing trailing' : Bool}

theorem idle_start : start.Idle := .inl rfl

theorem awaitsValue_of_idle (idle : p.Idle) : p.awaitsValue = false := by
  rcases idle with none | ⟨s, value, -, pending⟩ <;> simp [awaitsValue, *]

variable (level) in
theorem Reads.refl (idle : p.Idle) (same : p.trailing = trailing) :
    Reads level p [] trailing (.ok p) :=
  ⟨idle, same, fun _ => rfl⟩

theorem Reads.bind {came : Except Stop Progress} {next : Progress → Except Stop Progress}
    (reads : Reads level p es trailing came)
    (onward : ∀ p', p'.Idle → p'.trailing = trailing → Reads level p' es' trailing' (next p')) :
    Reads level p (es ++ es') trailing' (came >>= next) := by
  cases came with
  | error stop => exact fun rest => by rw [List.append_assoc, reads]
  | ok p' =>
    obtain ⟨idle, untrailed, told⟩ := reads
    have later := onward p' idle untrailed
    change Reads level p (es ++ es') trailing' (next p')
    cases ends : next p' with
    | error stop =>
      rw [ends] at later
      intro rest
      rw [List.append_assoc, ← told]
      exact later rest
    | ok p'' =>
      rw [ends] at later
      refine ⟨later.1, later.2.1, fun rest => ?_⟩
      rw [List.append_assoc, ← told]
      exact later.2.2 rest

variable (level) in
theorem add_cases (g : Given) {s : Switch} (value : Text) (lasting : s ≠ .help ∧ s ≠ .version) :
    (∃ g', g.note? level (.option s value) = some g' ∧ g.add level s value = .ok g' ∧
        g'.operand = g.operand) ∨
      g.note? level (.option s value) = none ∧ ∃ stop, g.add level s value = .error stop := by
  have sound : (Entry.option s value).sound level = !(value.isEmpty && level.refusesEmpty s) := by
    cases s <;> simp_all [Entry.sound]
  rw [Given.note?, sound, Given.add]
  cases repeated : g.has s with
  | true => exact .inr ⟨by simp [Given.vacant, Entry.place, repeated], _, rfl⟩
  | false =>
    cases refused : value.isEmpty && level.refusesEmpty s with
    | true => exact .inr ⟨rfl, _, rfl⟩
    | false =>
      refine .inl ⟨_, by simp [Given.vacant, Entry.place, repeated, Given.enter], rfl, ?_⟩
      cases s <;> rfl

variable (level) in
theorem settle_cases (idle : p.Idle) :
    (∃ g, p.settle level = .ok ⟨g, none, p.trailing⟩ ∧ g.operand = p.given.operand ∧
        ∀ es, p.told level es = es.foldlM (Given.note? level) g) ∨
      (∃ stop, p.settle level = .error stop) ∧ ∀ es, p.told level es = none := by
  obtain ⟨given, pending, trailing⟩ := p
  rcases idle with none | ⟨s, value, takes, some⟩
  · cases none
    exact .inl ⟨given, rfl, rfl, fun _ => rfl⟩
  · cases some
    have lasting : s ≠ .help ∧ s ≠ .version := by cases s <;> simp_all [Switch.takesValue]
    rcases add_cases level given value lasting with
      ⟨g, noted, added, operand⟩ | ⟨noted, stop, added⟩
    · refine .inl ⟨g, by simp [settle, added, Except.map], operand, fun es => ?_⟩
      simp [told, owed, noted]
    · refine .inr ⟨⟨stop, by simp [settle, added, Except.map]⟩, fun es => ?_⟩
      simp [told, owed, noted]

theorem told_settled (g : Given) (es : List Entry) :
    told level ⟨g, none, trailing⟩ es = es.foldlM (Given.note? level) g := rfl

theorem reads_complete (idle : p.Idle) (s : Switch) (value : Text) :
    Reads level p [.option s value] p.trailing (p.complete level s value) := by
  rcases settle_cases level idle with ⟨g, settled, -, told⟩ | ⟨⟨stop, settled⟩, told⟩
  · by_cases lasting : s ≠ .help ∧ s ≠ .version
    · have completes : p.complete level s value =
          (g.add level s value).map fun given => ⟨given, none, p.trailing⟩ := by
        rw [complete, settled]
        cases s <;> first | rfl | simp at lasting
      rw [completes]
      rcases add_cases level g value lasting with
        ⟨g', noted, added, -⟩ | ⟨noted, stop, added⟩
      · rw [added]
        refine ⟨.inl rfl, rfl, fun rest => ?_⟩
        rw [told, told_settled, List.singleton_append, List.foldlM_cons, noted]
        rfl
      · rw [added]
        intro rest
        rw [told, List.singleton_append, List.foldlM_cons, noted]
        rfl
    · have stops : ∃ stop, p.complete level s value = .error stop := by
        rw [complete, settled]
        cases s <;> first | exact ⟨_, rfl⟩ | simp at lasting
      obtain ⟨stop, stops⟩ := stops
      rw [stops]
      intro rest
      rw [told, List.singleton_append, List.foldlM_cons]
      cases s <;> first | rfl | simp at lasting
  · rw [complete, settled]
    exact fun rest => told _

variable (level) in
theorem reads_operand (idle : p.Idle) (word : Text) :
    Reads level p [.operand word] p.trailing (p.operand level word) := by
  have noted (g : Given) (same : g.operand = p.given.operand) :
      g.note? level (.operand word) =
        if level.takesOperand && p.given.operand.isNone then
          some { g with operand := some word } else none := by
    rw [← same]
    rfl
  rw [operand]
  rcases settle_cases level idle with ⟨g, settled, same, told⟩ | ⟨⟨stop, settled⟩, told⟩
  · have tells rest : p.told level ([.operand word] ++ rest) =
        g.note? level (.operand word) >>= fun g' => rest.foldlM (Given.note? level) g' := by
      rw [told, List.singleton_append, List.foldlM_cons]
    simp only [noted g same] at tells
    split
    · next room =>
      rw [settled]
      exact ⟨.inl rfl, rfl, fun rest => by rw [tells, if_pos room]; rfl⟩
    · next full => exact fun rest => by rw [tells, if_neg full]; rfl
  · split
    · rw [settled]
      exact fun rest => told _
    · exact fun rest => told _

/-! One word after the other -/

theorem foldlM_step_singleton (word : Text) :
    [word].foldlM (step level) p = p.step level word := bind_pure _

theorem step_dashed (before : p.trailing = false) {body : Text} (nonempty : body ≠ []) :
    p.step level ('-' :: '-' :: body) = p.long level body := by
  cases body with
  | nil => exact absurd rfl nonempty
  | cons c body =>
    unfold step
    rw [before]
    rfl

theorem step_doubleDash (before : p.trailing = false) :
    p.step level ['-', '-'] = .ok { p with trailing := true } := by
  unfold step
  rw [before]
  rfl

theorem step_letters (before : p.trailing = false) {c : Char} (undashed : c ≠ '-') (rest : Text) :
    p.step level ('-' :: c :: rest) = (c :: rest).foldlM (letter level) p := by
  unfold step
  rw [before, if_neg Bool.false_ne_true]
  split
  · next is => cases is; exact absurd rfl undashed
  · next is => cases is; exact absurd rfl undashed
  · next is => cases is; rfl
  · next other => exact absurd rfl (other c rest)

theorem step_plain (before : p.trailing = false) {word : Text} (bare : plain word = true) :
    p.step level word =
      match p.pending with
      | some (s, none) => .ok { p with pending := some (s, some word) }
      | _ => p.operand level word := by
  unfold step
  rw [before, if_neg Bool.false_ne_true]
  split
  · cases bare
  · cases bare
  · cases bare
  · rfl

theorem step_trailing (behind : p.trailing = true) (word : Text) :
    p.step level word = p.operand level word := by
  unfold step
  rw [behind, if_pos rfl]

theorem long_joined {name : Text} {s : Switch} (found : level.named? name = some s)
    (takes : s.takesValue = true) (value : Text) :
    p.long level (name ++ '=' :: value) = p.complete level s value := by
  simp [long, Text.cutAt?_append (proper_of_named found).2, found, takes]

theorem long_named {name : Text} {s : Switch} (found : level.named? name = some s) :
    p.long level name =
      if s.takesValue then (p.settle level).map fun p => { p with pending := some (s, none) }
      else p.complete level s [] := by
  simp [long, Text.cutAt?_of_notMem (proper_of_named found).2, found]

theorem reads_letters {letters : List (Char × Switch)} (idle : p.Idle)
    (found : ∀ c s, (c, s) ∈ letters → level.lettered? c = some s) :
    Reads level p (letters.map fun (_, s) => .option s []) p.trailing
      ((letters.map Prod.fst).foldlM (letter level) p) := by
  induction letters generalizing p with
  | nil => exact .refl level idle rfl
  | cons entry letters ih =>
    obtain ⟨c, s⟩ := entry
    have completes : letter level p c = p.complete level s [] := by
      rw [letter, found c s List.mem_cons_self]
    rw [List.map_cons, List.map_cons, List.foldlM_cons, completes]
    refine (reads_complete idle s []).bind fun p' idle' same => ?_
    rw [← same]
    exact ih idle' fun c s member => found c s (List.mem_cons_of_mem _ member)

theorem foldlM_apart {name value : Text} {s : Switch} (idle : p.Idle) (before : p.trailing = false)
    (found : level.named? name = some s) (takes : s.takesValue = true) (bare : plain value = true) :
    ['-' :: '-' :: name, value].foldlM (step level) p =
      (p.settle level).map fun q => { q with pending := some (s, some value) } := by
  rw [List.foldlM_cons, step_dashed before (proper_of_named found).1, long_named found, if_pos takes]
  rcases settle_cases level idle with ⟨g, settled, -⟩ | ⟨⟨stop, settled⟩, -⟩
  · rw [settled]
    let awaiting : Progress := ⟨g, some (s, none), p.trailing⟩
    have answered : awaiting.step level value = .ok ⟨g, some (s, some value), p.trailing⟩ :=
      step_plain (p := awaiting) before bare
    change awaiting.step level value >>= pure = _
    rw [answered]
    rfl
  · rw [settled]
    rfl

theorem reads_apart {name value : Text} {s : Switch} (idle : p.Idle) (before : p.trailing = false)
    (found : level.named? name = some s) (takes : s.takesValue = true) (bare : plain value = true) :
    Reads level p [.option s value] false
      (['-' :: '-' :: name, value].foldlM (step level) p) := by
  rw [foldlM_apart idle before found takes bare]
  rcases settle_cases level idle with ⟨g, settled, -, told⟩ | ⟨⟨stop, settled⟩, told⟩
  · rw [settled]
    exact ⟨.inr ⟨s, value, takes, rfl⟩, before, fun rest => (told _).symm⟩
  · rw [settled]
    exact fun rest => told _

theorem reads_phrase (idle : p.Idle) (before : p.trailing = false) {phrase : Phrase}
    (fits : phrase.Fits level) :
    Reads level p phrase.entries false (phrase.words.foldlM (step level) p) := by
  cases phrase with
  | apart name s value => exact reads_apart idle before fits.1 fits.2.1 fits.2.2
  | joined name s value =>
    rw [Phrase.words, foldlM_step_singleton, step_dashed before (by simp),
      long_joined fits.1 fits.2, ← before]
    exact reads_complete idle s value
  | named name s =>
    rw [Phrase.words, foldlM_step_singleton, step_dashed before (proper_of_named fits.1).1,
      long_named fits.1, if_neg (by simp [fits.2]), ← before]
    exact reads_complete idle s []
  | lettered letters =>
    obtain ⟨nonempty, found⟩ := fits
    obtain _ | ⟨⟨c, s⟩, letters⟩ := letters
    · exact absurd rfl nonempty
    · have dash := ne_dash_of_lettered (found c s List.mem_cons_self)
      rw [Phrase.words, foldlM_step_singleton, List.map_cons, step_letters before dash, ← before]
      exact reads_letters idle found
  | operand word =>
    have reads := reads_operand level idle word
    rw [Phrase.words, foldlM_step_singleton, step_plain before fits.2, ← before]
    rcases idle with none | ⟨s, value, -, some⟩
    · rw [none]
      exact reads
    · rw [some]
      exact reads

theorem reads_phrases {phrases : List Phrase} (fits : ∀ phrase ∈ phrases, phrase.Fits level)
    (idle : p.Idle) (before : p.trailing = false) :
    Reads level p (phrases.flatMap Phrase.entries) false
      ((phrases.flatMap Phrase.words).foldlM (step level) p) := by
  induction phrases generalizing p with
  | nil => exact .refl level idle before
  | cons phrase phrases ih =>
    rw [List.flatMap_cons, List.flatMap_cons, List.foldlM_append]
    exact (reads_phrase idle before (fits phrase List.mem_cons_self)).bind fun p' idle' before' =>
      ih (fun other member => fits other (List.mem_cons_of_mem _ member)) idle' before'

theorem reads_operands (words : List Text) (idle : p.Idle) (behind : p.trailing = true) :
    Reads level p (words.map .operand) true (words.foldlM (step level) p) := by
  induction words generalizing p with
  | nil => exact .refl level idle behind
  | cons word words ih =>
    rw [List.map_cons, List.foldlM_cons, step_trailing behind]
    have reads := reads_operand level idle word
    rw [behind] at reads
    exact reads.bind fun p' idle' behind' => ih idle' behind'

theorem finish_eq_ok_iff (idle : p.Idle) {g : Given} :
    p.finish level = .ok g ↔
      p.told level [] = some g ∧ (level.takesOperand = true → g.operand.isSome = true) := by
  rw [finish]
  rcases settle_cases level idle with ⟨g', settled, -, told⟩ | ⟨⟨stop, settled⟩, told⟩
  · have ends : p.told level [] = some g' := told []
    rw [settled, ends, Option.some.injEq]
    change (if level.takesOperand && g'.operand.isNone then throw _ else pure g') = _ ↔ _
    split
    · next missing =>
      rw [Bool.and_eq_true, Option.isNone_iff_eq_none] at missing
      refine ⟨fun ends => (by cases ends), ?_⟩
      rintro ⟨rfl, given⟩
      simpa [missing.2] using given missing.1
    · next present =>
      refine ⟨fun ends => ⟨Except.ok.inj ends, fun takes => ?_⟩, fun ends => congrArg _ ends.1⟩
      cases ends
      simpa [takes, Option.isSome_iff_ne_none] using present
  · rw [settled, told]
    exact ⟨fun ends => (by cases ends), fun ends => (by cases ends.1)⟩

end Reading

end Progress

end CommandLine

end PlatformLauncher
