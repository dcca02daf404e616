import PlatformLauncher.Proofs.Bootstrap.KeptHome

/-!
The env file as a shell reads it: one command that exports the home, with a value in double quotes.
The home stands there unescaped, so that the value is the home exactly when nothing in it means
anything to a shell within double quotes. Main statement: `exported_home`.
-/
namespace PlatformLauncher.EnvFile

def isEscapable (c : Char) : Bool := c = '$' || c = '`' || c = '"' || c = '\\' || c = '\n'

def addEscaped (c : Char) (value : Text) : Text := if c = '\n' then value else c :: value

/-- The value of a word whose opening quote was read, and what follows its closing quote. There is
none when the word is not closed, or when something is to be expanded in it. -/
def quotedWord? : Text → Option (Text × Text)
  | [] => none
  | '\\' :: d :: rest =>
    if isEscapable d then
      (quotedWord? rest).map fun (value, after) => (addEscaped d value, after)
    else (quotedWord? (d :: rest)).map fun (value, after) => ('\\' :: value, after)
  | c :: rest =>
    if c = '"' then some ([], rest)
    else if c = '$' || c = '`' then none
    else (quotedWord? rest).map fun (value, after) => (c :: value, after)

def exported? (name script : Text) : Option Text :=
  match (Text.dropPrefix? ("export ".toList ++ name ++ "=\"".toList) script).bind quotedWord? with
  | some (value, ['\n']) => some value
  | _ => none

/-- Nothing in the text means anything to a shell within double quotes. No backslash stands before
what it could escape, the closing quote included. -/
structure Plain (home : Text) : Prop where
  quote : '"' ∉ home
  dollar : '$' ∉ home
  backquote : '`' ∉ home
  backslash : ∀ d, ['\\', d] <:+: home ++ ['"'] → isEscapable d = false

section Reading

variable {c d : Char} {s rest value after : Text}

theorem quotedWord?_escaped (escapable : isEscapable d = true) :
    quotedWord? ('\\' :: d :: rest) =
      (quotedWord? rest).map fun (value, after) => (addEscaped d value, after) := by
  rw [quotedWord?, if_pos escapable]

theorem quotedWord?_literal (quote : c ≠ '"') (expansion : c ≠ '$' ∧ c ≠ '`')
    (literal : c = '\\' → ∃ d more, rest = d :: more ∧ isEscapable d = false) :
    quotedWord? (c :: rest) =
      (quotedWord? rest).map fun (value, after) => (c :: value, after) := by
  by_cases backslash : c = '\\'
  · obtain ⟨d, more, rfl, unescaped⟩ := literal backslash
    subst backslash
    rw [quotedWord?, if_neg (by simp [unescaped])]
  · rw [quotedWord?, if_neg quote, if_neg (by simpa using expansion)]
    exact fun d more same _ => backslash same

theorem quotedWord?_ends (rest : Text) : quotedWord? ('"' :: rest) = some ([], rest) := by
  rw [quotedWord?, if_pos rfl]
  exact fun d more same _ => absurd same (by decide)

theorem quotedWord?_expands (expansion : c = '$' ∨ c = '`') : quotedWord? (c :: rest) = none := by
  rcases expansion with rfl | rfl <;> simp [quotedWord?]

theorem length_addEscaped_le (c : Char) (value : Text) :
    (addEscaped c value).length ≤ value.length + 1 := by
  unfold addEscaped
  split
  · omega
  · exact Nat.le_refl _

theorem exists_of_extended {word : Option (Text × Text)} {extend : Text → Text}
    (e : word.map (fun (value, after) => (extend value, after)) = some (value, after)) :
    ∃ shorter, word = some (shorter, after) ∧ value = extend shorter := by
  obtain ⟨⟨shorter, after'⟩, read, same⟩ := Option.map_eq_some_iff.1 e
  cases same
  exact ⟨shorter, read, rfl⟩

theorem length_of_quotedWord? (e : quotedWord? s = some (value, after)) :
    value.length + after.length < s.length := by
  fun_induction quotedWord? s generalizing value after with
  | case1 => cases e
  | case2 d rest _ ih =>
    obtain ⟨value', read, rfl⟩ := exists_of_extended e
    have shorter := ih read
    have added := length_addEscaped_le d value'
    simp only [List.length_cons]
    omega
  | case3 d rest _ ih =>
    obtain ⟨value', read, rfl⟩ := exists_of_extended e
    have shorter := ih read
    simp only [List.length_cons] at shorter ⊢
    omega
  | case4 =>
    cases e
    simp
  | case5 => cases e
  | case6 c rest _ _ _ ih =>
    obtain ⟨value', read, rfl⟩ := exists_of_extended e
    have shorter := ih read
    simp only [List.length_cons]
    omega

theorem plain_nil : Plain [] where
  quote := nofun
  dollar := nofun
  backquote := nofun
  backslash d inside := by
    have long := inside.length_le
    simp at long

theorem plain_cons_iff : Plain (c :: s) ↔
    (c ≠ '"' ∧ c ≠ '$' ∧ c ≠ '`') ∧
      (c = '\\' → ∃ d more, s ++ ['"'] = d :: more ∧ isEscapable d = false) ∧ Plain s := by
  constructor
  · rintro ⟨quote, dollar, backquote, backslash⟩
    simp only [List.mem_cons, not_or] at quote dollar backquote
    refine ⟨⟨Ne.symm quote.1, Ne.symm dollar.1, Ne.symm backquote.1⟩, ?_, quote.2, dollar.2,
      backquote.2, fun d inside => backslash d (List.infix_cons inside)⟩
    rintro rfl
    cases next : s ++ ['"'] with
    | nil => simp at next
    | cons d more =>
      refine ⟨d, more, rfl, backslash d ?_⟩
      rw [List.cons_append, next]
      exact ⟨[], more, rfl⟩
  · rintro ⟨⟨quote, dollar, backquote⟩, literal, plain⟩
    refine ⟨?_, ?_, ?_, fun d inside => ?_⟩
    · simp [Ne.symm quote, plain.quote]
    · simp [Ne.symm dollar, plain.dollar]
    · simp [Ne.symm backquote, plain.backquote]
    · rcases List.infix_cons_iff.1 inside with first | later
      · obtain ⟨rfl, second⟩ := List.cons_prefix_cons.1 first
        obtain ⟨d', more, next, unescaped⟩ := literal rfl
        change [d] <+: s ++ ['"'] at second
        rw [next] at second
        obtain ⟨rfl, -⟩ := List.cons_prefix_cons.1 second
        exact unescaped
      · exact plain.backslash d later

theorem quotedWord?_ne_of_escaped (escapable : isEscapable d = true)
    (whole : s ++ '"' :: rest = d :: after) :
    quotedWord? ('\\' :: (s ++ '"' :: rest)) ≠ some ('\\' :: s, rest) := by
  intro read
  have lengths := congrArg List.length whole
  rw [whole, quotedWord?_escaped escapable] at read
  obtain ⟨value, read, shown⟩ := exists_of_extended read
  have shorter := length_of_quotedWord? read
  have upTo := congrArg List.length shown
  have added := length_addEscaped_le d value
  simp only [List.length_append, List.length_cons] at shorter lengths upTo
  omega

theorem quotedWord?_quoted (s rest : Text) :
    quotedWord? (s ++ '"' :: rest) = some (s, rest) ↔ Plain s := by
  induction s with
  | nil => exact iff_of_true (quotedWord?_ends rest) plain_nil
  | cons c s ih =>
    rw [List.cons_append, plain_cons_iff]
    by_cases quote : c = '"'
    · simp [quote, quotedWord?_ends]
    by_cases expansion : c = '$' ∨ c = '`'
    · rw [quotedWord?_expands expansion]
      rcases expansion with rfl | rfl <;> simp
    rw [not_or] at expansion
    obtain ⟨d, more, next⟩ : ∃ d more, s ++ ['"'] = d :: more := by cases s <;> simp
    have whole : s ++ '"' :: rest = d :: (more ++ rest) := by
      rw [List.append_cons, next, List.cons_append]
    by_cases escaped : c = '\\' ∧ isEscapable d = true
    · obtain ⟨rfl, escapable⟩ := escaped
      refine iff_of_false (quotedWord?_ne_of_escaped escapable whole) ?_
      rintro ⟨-, literal, -⟩
      obtain ⟨d', more', next', unescaped⟩ := literal rfl
      cases next.symm.trans next'
      cases escapable.symm.trans unescaped
    · have literal : c = '\\' → isEscapable d = false := fun backslash => by
        simpa [backslash] using escaped
      rw [quotedWord?_literal quote expansion fun backslash => ⟨d, _, whole, literal backslash⟩]
      constructor
      · intro read
        obtain ⟨value, read, same⟩ := exists_of_extended read
        cases same
        exact ⟨⟨quote, expansion⟩, fun backslash => ⟨d, more, next, literal backslash⟩, ih.1 read⟩
      · rintro ⟨-, -, plain⟩
        rw [ih.2 plain]
        rfl

instance (home : Text) : Decidable (Plain home) :=
  decidable_of_iff (quotedWord? (home ++ ['"']) = some (home, [])) (quotedWord?_quoted home [])

theorem exported?_line (home : Path) :
    exported? Home.envName (line home ++ ['\n']) = some home ↔ Plain home := by
  have text : line home ++ ['\n'] = opening ++ (home ++ ['"', '\n']) := by
    simp [line]
  have read : (Text.dropPrefix? ("export ".toList ++ Home.envName ++ "=\"".toList)
      (line home ++ ['\n'])).bind quotedWord? = quotedWord? (home ++ ['"', '\n']) := by
    rw [text]
    exact congrArg (Option.bind · quotedWord?) (Text.dropPrefix?_append opening _)
  unfold exported?
  rw [read, ← quotedWord?_quoted home ['\n']]
  split
  · next value found => simp [found]
  · next other =>
    simp only [reduceCtorEq, false_iff]
    intro found
    exact other _ found

end Reading

/-- The env file is one command that exports the home as it is, without any expansion, exactly when
the home is plain. -/
theorem exported_home (t t' : Tree) (here : Location) (envFile home : Path)
    (written : write t here envFile home = .ok t') :
    ∃ script, t'.readText here envFile = .ok script ∧
      (exported? Home.envName script = some home ↔ Plain home) := by
  obtain ⟨place, -, -, stands⟩ := Tree.status_of_write (Bootstrap.envFile_write_ok written)
  exact ⟨_, Tree.readText_of_read (Tree.read_of_status stands), exported?_line home⟩

def sill : Tree where
  entries := [(["w".toList], .directory)]
  sealed_ := []

theorem exported_home_spaced :
    ∃ t', write sill ["w".toList] "env".toList "/srv/it's a \\data\nhome".toList = .ok t' ∧
      ∃ script, t'.readText ["w".toList] "env".toList = .ok script ∧
        exported? Home.envName script = some "/srv/it's a \\data\nhome".toList := by
  obtain ⟨t', written⟩ : ∃ t', write sill ["w".toList] "env".toList
      "/srv/it's a \\data\nhome".toList = .ok t' := ⟨_, rfl⟩
  obtain ⟨script, read, reads⟩ := exported_home sill t' ["w".toList] "env".toList
    "/srv/it's a \\data\nhome".toList written
  exact ⟨t', written, script, read, reads.2 (by decide +kernel)⟩

/-- A double quote ends the word too early, a dollar sign or a backquote starts an expansion, and of
two backslashes one is left. -/
theorem exported_home_escapes :
    exported? Home.envName (line "a\"b".toList ++ ['\n']) = none ∧
      exported? Home.envName (line "a$b".toList ++ ['\n']) = none ∧
      exported? Home.envName (line "a`b".toList ++ ['\n']) = none ∧
      exported? Home.envName (line "a\\\\b".toList ++ ['\n']) = some "a\\b".toList := by
  decide +kernel

end PlatformLauncher.EnvFile
