import PlatformLauncher.CommandLine.Run
import PlatformLauncher.Proofs.Bootstrap.Course
import PlatformLauncher.Proofs.Settings.Layering

/-!
A home that is typed and the same one named on the command line make the same run. What is typed is
the first line of the input, however that line ends and whatever comes after it. On a terminal that
is shown the question the output has the question in it, and nothing else is different. Main
statement: `typed_home`.
-/
namespace PlatformLauncher

namespace Bootstrap

/-- This answer comes of the question for the home, and the question leaves nothing in the output. -/
def Collaborators.answering (deps : Collaborators) (answer : Except Failure (Option Text)) :
    Collaborators :=
  { deps with ask := fun _ _ _ => ⟨answer, []⟩ }

def Collaborators.wordless (deps : Collaborators) : Collaborators :=
  { deps with ask := fun h t default => { deps.ask h t default with printed := [] } }

section Answers

variable {settings : Settings} {here : Location} {cwd : Path} {deps : Collaborators}

theorem run_answering_congr {a b : Option Text}
    (same : Home.resolve a (offeredHome settings cwd) = Home.resolve b (offeredHome settings cwd))
    (st : State) :
    (run settings here cwd (deps.answering (.ok a))).run st =
      (run settings here cwd (deps.answering (.ok b))).run st := by
  have opens : opening settings here cwd (deps.answering (.ok a)) =
      opening settings here cwd (deps.answering (.ok b)) := by
    have install : (deps.answering (.ok a)).install = (deps.answering (.ok b)).install := rfl
    rw [opening, installStage_congr install]
    rfl
  rw [run_eq, run_eq, opens]
  refine Flow.run_bind_congr rfl fun installs s₁ _ => ?_
  refine Flow.run_bind_congr ?_ fun home s₂ _ => rfl
  refine Flow.run_bind_congr ?_ fun home s₂ _ => rfl
  rw [run_takeAnswer, run_takeAnswer]
  simp only [Collaborators.answering, same]

theorem home_of_answering {a : Option Text} {t : Tree} {limit : Option Nat} {report : Report}
    {st : State}
    (reported : (run settings here cwd (deps.answering (.ok a))).run (.start t ⟨[], limit⟩) =
      .ok report st) :
    report.home = Home.resolve a (offeredHome settings cwd) :=
  (home_of_limited_report reported).1

theorem run_putQuestion (default : Path) {s : State} (unlimited : s.sink.room = none) :
    (putQuestion deps default).run s = .ok () { s with sink :=
      ⟨s.sink.accepted ++ Octets.encode (deps.ask s.history s.tree default).printed, none⟩ } := by
  change (Flow.write _).run s = _
  rw [Flow.run_write, put_of_open unlimited]
  rfl

variable (settings here cwd deps)

theorem run_eq_question :
    run settings here cwd deps = (do
      let installs ← installStage settings here cwd deps
      putQuestion deps (offeredHome settings cwd)
      let home ← settleHome settings here cwd deps
      proceed settings here cwd deps installs home) := by
  simp only [run_eq, opening, bind_assoc, pure_bind]

/-- The words of the question stand behind the installs; the rest of the run does not know of them. -/
theorem run_wordless (t : Tree) :
    let s := endOf ((installStage settings here cwd deps).run (.start t .unlimited))
    let words := Octets.encode (deps.ask s.history s.tree (offeredHome settings cwd)).printed
    ∃ (output : Octets) (result : EStateM.Result Halt State Report),
      (run settings here cwd deps.wordless).run (.start t .unlimited) =
          withSink ⟨s.sink.accepted ++ output, none⟩ result ∧
        (run settings here cwd deps).run (.start t .unlimited) =
          withSink ⟨s.sink.accepted ++ words ++ output, none⟩ result := by
  obtain ⟨s₁, went, -, unlimited⟩ :=
    mirrors_installStage deps here cwd settings (.start t .unlimited) rfl
  rw [show endOf ((installStage settings here cwd deps).run (.start t .unlimited)) = s₁ from
    congrArg endOf went]
  intro s words
  have install : deps.wordless.install = deps.install := rfl
  -- the rest is the same flow in both runs, whatever stands in the output by then
  obtain ⟨output, result, goes⟩ := (Truncates.bind (truncates_settleHome settings here cwd deps)
    fun home => truncates_proceed settings here cwd deps home
      ((Errand.installAll deps here cwd settings.packages).run ⟨t, []⟩).1).appends s
  refine ⟨output, result, ?_, ?_⟩
  · have asked : (putQuestion deps.wordless (offeredHome settings cwd)).run s =
        .ok () { s with sink := ⟨s.sink.accepted ++ [], none⟩ } := run_putQuestion _ unlimited
    rw [run_eq_question, installStage_congr install, EStateM.run_bind, went]
    dsimp only
    rw [EStateM.run_bind, asked, ← goes, List.append_nil]
    rfl
  · have asked : (putQuestion deps (offeredHome settings cwd)).run s =
        .ok () { s with sink := ⟨s.sink.accepted ++ words, none⟩ } := run_putQuestion _ unlimited
    rw [run_eq_question, EStateM.run_bind, went]
    dsimp only
    rw [EStateM.run_bind, asked, ← goes]
    rfl

end Answers

end Bootstrap

namespace CommandLine

open Bootstrap

namespace Prompt

def carriageReturn : UInt8 := 13

/-- The input begins with this line: all of it, or up to a line feed. A carriage return right before
that line feed is not part of the line. -/
inductive Typed (line : Text) : Octets → Prop where
  | unended (oneLine : '\n' ∉ line) : Typed line (Octets.encode line)
  | fed (rest : Octets) (oneLine : '\n' ∉ line) (bare : ¬ ['\r'] <:+ line) :
    Typed line (Octets.encode line ++ lineFeed :: rest)
  | returned (rest : Octets) (oneLine : '\n' ∉ line) :
    Typed line (Octets.encode line ++ carriageReturn :: lineFeed :: rest)

theorem feed_notMem_encode {line : Text} (oneLine : '\n' ∉ line) :
    lineFeed ∉ Octets.encode line := by
  intro found
  obtain ⟨c, member, octet⟩ := List.mem_flatMap.1 found
  rcases Nat.lt_or_ge c.toNat 0x80 with ascii | beyond
  · rw [Octets.ofChar, if_pos ascii, List.mem_singleton] at octet
    have same := congrArg UInt8.toNat octet
    rw [Octets.octet_toNat (by omega)] at same
    rw [show c = '\n' from Char.toNat_inj.1 same.symm] at member
    exact oneLine member
  · exact absurd (Octets.le_of_mem_ofChar beyond octet) (by decide)

theorem takeWhile_encode {line : Text} (oneLine : '\n' ∉ line) (rest : Octets) :
    (Octets.encode line ++ rest).takeWhile (· != lineFeed) =
      Octets.encode line ++ rest.takeWhile (· != lineFeed) := by
  refine List.takeWhile_append_of_pos fun octet member => ?_
  rw [bne_iff_ne]
  rintro rfl
  exact feed_notMem_encode oneLine member

theorem answer_of_stretch {input : Octets} {stretch line : Text} (nonempty : input ≠ [])
    (before : input.takeWhile (· != lineFeed) = Octets.encode stretch)
    (shown : lineText (input.contains lineFeed) stretch = line) (whole : '\x08' ∉ line) :
    answer input = .ok (some line) := by
  rw [answer, if_neg (by simpa using nonempty), before, Octets.decode?_encode]
  dsimp only
  rw [shown, rubbedOut_of_not_mem whole]

theorem answer_of_typed {line : Text} {input : Octets} (typed : Typed line input)
    (whole : '\x08' ∉ line) :
    answer input = .ok (if input = [] then none else some line) := by
  by_cases nonempty : input = []
  · subst nonempty
    rfl
  rw [if_neg nonempty]
  cases typed with
  | unended oneLine =>
    have before := takeWhile_encode oneLine []
    rw [List.append_nil, List.takeWhile_nil, List.append_nil] at before
    have unfed : (Octets.encode line).contains lineFeed = false := by
      simpa using feed_notMem_encode oneLine
    exact answer_of_stretch nonempty before (by rw [unfed]; rfl) whole
  | fed rest oneLine bare =>
    have before := takeWhile_encode oneLine (lineFeed :: rest)
    rw [List.takeWhile_cons_of_neg (by decide), List.append_nil] at before
    have ended : (Octets.encode line ++ lineFeed :: rest).contains lineFeed = true := by simp
    exact answer_of_stretch nonempty before (by rw [ended]; exact Text.dropReturn_of_bare bare) whole
  | returned rest oneLine =>
    have before := takeWhile_encode oneLine (carriageReturn :: lineFeed :: rest)
    rw [List.takeWhile_cons_of_pos (by decide), List.takeWhile_cons_of_neg (by decide),
      show [carriageReturn] = Octets.encode ['\r'] from rfl, ← Octets.encode_append] at before
    have ended : (Octets.encode line ++ carriageReturn :: lineFeed :: rest).contains lineFeed =
        true := by simp
    exact answer_of_stretch nonempty before (by rw [ended]; exact Text.dropReturn_returned line) whole

theorem Typed.blank {line : Text} (typed : Typed line []) : line = [] := by
  generalize e : ([] : Octets) = input at typed
  cases typed with
  | unended oneLine =>
    have read := Octets.decode?_encode line
    rw [← e] at read
    exact (Option.some.inj read).symm
  | fed rest oneLine bare => simp at e
  | returned rest oneLine => simp at e

theorem resolve_of_typed {line : Text} {input : Octets} (typed : Typed line input)
    (default : Path) :
    Home.resolve (if input = [] then none else some line) default =
      Home.resolve (some line) default := by
  by_cases empty : input = []
  · subst empty
    rw [if_pos rfl, typed.blank]
    rfl
  · rw [if_neg empty]

end Prompt

theorem parse_bootstrap :
    parse ["bootstrap".toList] = .ok ⟨none, some (.bootstrap none), none, false⟩ := rfl

theorem parse_bootstrap_home (home : Text) :
    parse ["bootstrap".toList, "--home=".toList ++ home] =
      .ok ⟨none, some (.bootstrap (some home)), none, false⟩ := by
  cases home <;> rfl

theorem resolve_line (line : Text) (default : Path) :
    Home.resolve (some line) default = if line = [] then default else line := by
  cases line <;> rfl

theorem resolve_idem (line : Text) (default : Path) :
    Home.resolve (some (Home.resolve (some line) default)) default =
      Home.resolve (some line) default := by
  cases line with
  | nil => cases default <;> rfl
  | cons c rest => rfl

section Typing

variable {line : Text} {input : Octets}

theorem run_typed (typed : Prompt.Typed line input) (whole : '\x08' ∉ line) (settings : Settings)
    (here : Location) (cwd : Path) (deps : Collaborators) (st : State) :
    (run settings here cwd (deps.answering (Prompt.answer input))).run st =
      (run settings here cwd (deps.answering (.ok (some line)))).run st := by
  rw [Prompt.answer_of_typed typed whole]
  exact run_answering_congr (Prompt.resolve_of_typed typed _) st

end Typing

namespace Session

def loaded (s : Session) : Except Failure Settings :=
  Settings.load s.tree s.here none (Settings.homeDirectory? s.environment) s.environment

def preamble (s : Session) (settings : Settings) : Octets :=
  (endOf ((installStage settings s.here s.cwd (s.collaborators settings none)).run
    (.start s.tree .unlimited))).sink.accepted

theorem depart_withSink {α : Type} (k : Sink) (r : EStateM.Result Halt State α) :
    depart (withSink k r) = { depart r with printed := k.accepted } := by
  cases r with
  | ok a s => rfl
  | error e s => cases e <;> rfl

theorem depart_perform (s : Session) (settings : Settings) (home : Option Text) (st : State) :
    depart ((s.perform settings (.bootstrap home)).run st) =
      depart ((Bootstrap.run settings s.here s.cwd (s.collaborators settings home)).run st) := by
  rw [perform, EStateM.run_bind]
  cases (Bootstrap.run settings s.here s.cwd (s.collaborators settings home)).run st with
  | ok report st => rfl
  | error e st => cases e <;> rfl

end Session

section Sessions

variable {line : Text} {session : Session} (other : Octets)

theorem session_run_of_unloaded {failure : Failure} (refused : session.loaded = .error failure) :
    session.run ["bootstrap".toList] =
      Session.run { session with input := other } ["bootstrap".toList, "--home=".toList ++ line] := by
  rw [Session.loaded] at refused
  rw [Session.run, Session.run, parse_bootstrap, parse_bootstrap_home]
  dsimp only
  rw [refused]
  rfl

theorem session_run_of_loaded (typed : Prompt.Typed line session.input) (whole : '\x08' ∉ line)
    {settings : Settings} (loads : session.loaded = .ok settings) :
    let named := Session.run { session with input := other }
      ["bootstrap".toList, "--home=".toList ++ line]
    let words := Octets.encode (session.inquire none (offeredHome settings session.cwd)).printed
    ∃ output : Octets, named.printed = session.preamble settings ++ output ∧
      session.run ["bootstrap".toList] =
        { named with printed := session.preamble settings ++ words ++ output } := by
  rw [Session.loaded] at loads
  intro named words
  obtain ⟨output, result, without, within⟩ := run_wordless settings session.here session.cwd
    (session.collaborators settings none) session.tree
  have typing := run_typed typed whole settings session.here session.cwd
    (session.collaborators settings none) (.start session.tree .unlimited)
  have unasked : named = Session.depart
      (withSink ⟨session.preamble settings ++ output, none⟩ result) := by
    refine Eq.trans ?_ (congrArg Session.depart without)
    change Session.run _ _ = _
    rw [Session.run, parse_bootstrap_home]
    dsimp only
    rw [loads]
    exact (Session.depart_perform _ _ _ _).trans (congrArg Session.depart typing.symm)
  refine ⟨output, ?_, ?_⟩
  · rw [unasked, Session.depart_withSink]
  · rw [unasked, Session.depart_withSink, Session.run, parse_bootstrap]
    dsimp only
    rw [loads]
    refine (Session.depart_perform _ _ _ _).trans ?_
    rw [within, Session.depart_withSink]
    rfl

end Sessions

/-- A bootstrap that reads the home from its input does what it does when the line that was typed is
given beforehand, and so it takes that line as it stands, or the default for an empty one. To the
launcher the input might as well be any other, with the same line behind `--home`; only the question
is printed in addition, right behind the installs, on a terminal that is shown it. -/
theorem typed_home (line : Text) (input : Octets) (typed : Prompt.Typed line input)
    (whole : '\x08' ∉ line) :
    (∀ (settings : Settings) (here : Location) (cwd : Path) (deps : Collaborators),
      let typing := run settings here cwd (deps.answering (Prompt.answer input))
      let preset home := run settings here cwd (deps.answering (.ok (some home)))
      let home := if line = [] then offeredHome settings cwd else line
      (∀ st, typing.run st = (preset line).run st ∧ typing.run st = (preset home).run st) ∧
        ∀ t limit report st, typing.run (.start t ⟨[], limit⟩) = .ok report st →
          report.home = home) ∧
      ∀ (session : Session) (other : Octets), session.input = input →
        let asked := session.run ["bootstrap".toList]
        let named := Session.run { session with input := other }
          ["bootstrap".toList, "--home=".toList ++ line]
        (Prompt.isShown session.environment = false → asked = named) ∧
          (∀ failure, session.loaded = .error failure → asked = named) ∧
          ∀ settings, Prompt.isShown session.environment = true → session.loaded = .ok settings →
            let question := Octets.encode (Home.promptText (offeredHome settings session.cwd))
            ∃ output : Octets, named.printed = session.preamble settings ++ output ∧
              asked = { named with
                printed := session.preamble settings ++ question ++ output } := by
  refine ⟨fun settings here cwd deps => ?_, fun session other given => ?_⟩
  · intro typing preset home
    have named : Home.resolve (some line) (offeredHome settings cwd) = home := resolve_line line _
    have same : ∀ st, typing.run st = (preset line).run st :=
      run_typed typed whole settings here cwd deps
    refine ⟨fun st => ⟨same st, (same st).trans (run_answering_congr ?_ st)⟩, ?_⟩
    · rw [← named, resolve_idem]
    · intro t limit report st reported
      rw [same] at reported
      exact (home_of_answering reported).trans named
  · subst given
    intro asked named
    refine ⟨fun hidden => ?_, fun failure refused => session_run_of_unloaded other refused,
      fun settings shown loads => ?_⟩
    · cases loads : session.loaded with
      | error failure => exact session_run_of_unloaded other loads
      | ok settings =>
        obtain ⟨output, printed, runs⟩ := session_run_of_loaded other typed whole loads
        have wordless : (session.inquire none (offeredHome settings session.cwd)).printed = [] := by
          simp [Session.inquire, hidden]
        rw [wordless, Octets.encode_nil, List.append_nil, ← printed] at runs
        exact runs
    · have worded : (session.inquire none (offeredHome settings session.cwd)).printed =
          Home.promptText (offeredHome settings session.cwd) := by
        simp [Session.inquire, shown]
      rw [← worded]
      exact session_run_of_loaded other typed whole loads

theorem typed_home_returned :
    let line := "\t~/it's \rmy \"home\" ".toList
    let input := Octets.encode line ++ [13, 10, 255, 8]
    let result := (run .standard ["w".toList] "/w".toList
      (obliging.answering (Prompt.answer input))).run (.start workedIn .unlimited)
    let session : Session :=
      ⟨workedIn, ["w".toList], [("TERM".toList, "Emacs".toList)], input, fun _ => false⟩
    let named := session.run ["bootstrap".toList, "--home=".toList ++ line]
    let question := "Enter VOLTTRON_HOME directory (default: /w/volttron_home): ".toList
    Prompt.Typed line input ∧ '\x08' ∉ line ∧
      (∃ report, result = .ok report (endOf result) ∧ report.home = line) ∧
      Prompt.isShown session.environment = true ∧ session.loaded = .ok .standard ∧
      ∃ output : Octets, named.printed = session.preamble .standard ++ output ∧
        session.run ["bootstrap".toList] = { named with
          printed := session.preamble .standard ++ Octets.encode question ++ output } := by
  intro line input result session named question
  have typed : Prompt.Typed line input := .returned [255, 8] (by decide)
  have whole : '\x08' ∉ line := by decide
  obtain ⟨preset, sessions⟩ := typed_home line input typed whole
  obtain ⟨same, home⟩ := preset .standard ["w".toList] "/w".toList obliging
  have reports : (answerOf? ((run .standard ["w".toList] "/w".toList
      (obliging.answering (.ok (some line)))).run (.start workedIn .unlimited))).isSome := by
    decide +kernel
  obtain ⟨report, reported⟩ := Option.isSome_iff_exists.1 reports
  have ends : result = .ok report (endOf result) := eq_ok_of_answerOf? (by
    rw [← reported]
    exact congrArg answerOf? (same _).1)
  have shown : Prompt.isShown session.environment = true := by decide
  have loads : session.loaded = .ok .standard := Settings.eq_ok_of_toOption (by decide +kernel)
  obtain ⟨-, -, asked⟩ := sessions session input rfl
  exact ⟨typed, whole, ⟨report, ends, home workedIn none report _ ends⟩, shown, loads,
    asked .standard shown loads⟩

theorem printed_ne_on_dumb_terminal :
    let line := "vh".toList
    let session : Session :=
      ⟨workedIn, ["w".toList], [("TERM".toList, "dumb".toList)], Octets.encode "vh\n".toList,
        fun _ => false⟩
    Prompt.Typed line session.input ∧ '\x08' ∉ line ∧
      (session.run ["bootstrap".toList]).printed ≠
        (session.run ["bootstrap".toList, "--home=".toList ++ line]).printed := by
  intro line session
  have typed : Prompt.Typed line session.input := .fed [] (by decide) (by decide)
  have whole : '\x08' ∉ line := by decide
  have loads : session.loaded = .ok .standard := Settings.eq_ok_of_toOption (by decide +kernel)
  obtain ⟨output, printed, runs⟩ := session_run_of_loaded session.input typed whole loads
  refine ⟨typed, whole, fun same => ?_⟩
  rw [runs, printed, List.append_assoc] at same
  exact List.cons_ne_nil _ _ (List.self_eq_append_left.1 (List.append_cancel_left same).symm)

end CommandLine

end PlatformLauncher
