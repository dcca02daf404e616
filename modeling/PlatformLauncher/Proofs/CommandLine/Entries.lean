import Mathlib.Data.List.Nodup
import PlatformLauncher.CommandLine.Grammar

/-!
What a level keeps of its arguments. Entries are kept in places of their own, so that they are all
kept exactly when no two have the same place, and their order does not count. Main statements:
`foldlM_note?_eq_some_iff` and `kept_perm`.
-/
namespace PlatformLauncher.CommandLine

inductive Entry where
  | option (s : Switch) (value : Text)
  | operand (word : Text)
deriving DecidableEq, Repr

namespace Entry

def place : Entry → Option Switch
  | option s _ => some s
  | operand _ => none

/-- Whether a level keeps it. A wish for help or for the version ends the reading. -/
def sound (level : Level) : Entry → Bool
  | option .help _ | option .version _ => false
  | option s value => !(value.isEmpty && level.refusesEmpty s)
  | operand _ => level.takesOperand

end Entry

namespace Given

def enter (g : Given) : Entry → Given
  | .option s value => g.put s value
  | .operand word => { g with operand := some word }

def vacant (g : Given) : Option Switch → Bool
  | some s => !g.has s
  | none => g.operand.isNone

def note? (level : Level) (g : Given) (e : Entry) : Option Given :=
  if e.sound level && g.vacant e.place then some (g.enter e) else none

theorem vacant_empty (q : Option Switch) : empty.vacant q = true := by
  rcases q with _ | s
  · rfl
  · cases s <;> rfl

variable {level : Level} {g g' : Given} {e e' : Entry}

theorem vacant_enter (sound : e.sound level = true) (q : Option Switch) :
    (g.enter e).vacant q = (g.vacant q && q != e.place) := by
  rcases e with ⟨s, value⟩ | word
  · rcases q with _ | s'
    · cases s <;> simp [vacant, enter, put, Entry.place]
    · cases s <;> cases s' <;>
        first
          | cases sound
          | simp [vacant, enter, put, has, Entry.place]
  · rcases q with _ | s'
    · simp [vacant, enter, Entry.place]
    · cases s' <;> simp [vacant, enter, has, Entry.place]

theorem enter_comm (apart : e.place ≠ e'.place) :
    (g.enter e).enter e' = (g.enter e').enter e := by
  rcases e with ⟨s, value⟩ | word <;> rcases e' with ⟨s', value'⟩ | word'
  · cases s <;> cases s' <;> first | rfl | exact absurd rfl apart
  · cases s <;> rfl
  · cases s' <;> rfl
  · exact absurd rfl apart

theorem note?_eq_some_iff :
    g.note? level e = some g' ↔ e.sound level = true ∧ g.vacant e.place = true ∧ g.enter e = g' := by
  rw [note?, Option.ite_none_right_eq_some, Bool.and_eq_true, and_assoc, Option.some.injEq]

end Given

structure Compatible (level : Level) (es : List Entry) : Prop where
  sound : ∀ e ∈ es, e.sound level = true
  once : (es.map Entry.place).Nodup

def kept (es : List Entry) : Given := es.foldl Given.enter .empty

section Keeping

variable {level : Level} {g g' : Given} {e : Entry} {es es' : List Entry}

theorem compatible_cons_iff :
    Compatible level (e :: es) ↔
      e.sound level = true ∧ (∀ e' ∈ es, e'.place ≠ e.place) ∧ Compatible level es := by
  have none_there : e.place ∉ es.map Entry.place ↔ ∀ e' ∈ es, e'.place ≠ e.place := by
    simp [List.mem_map]
  constructor
  · rintro ⟨sound, once⟩
    rw [List.map_cons, List.nodup_cons] at once
    exact ⟨sound e List.mem_cons_self, none_there.1 once.1,
      fun e' member => sound e' (List.mem_cons_of_mem _ member), once.2⟩
  · rintro ⟨sound, apart, rest⟩
    exact ⟨List.forall_mem_cons.2 ⟨sound, rest.sound⟩,
      List.nodup_cons.2 ⟨none_there.2 apart, rest.once⟩⟩

theorem foldlM_note?_eq_some_iff :
    es.foldlM (Given.note? level) g = some g' ↔
      Compatible level es ∧ (∀ e ∈ es, g.vacant e.place = true) ∧ es.foldl Given.enter g = g' := by
  induction es generalizing g with
  | nil =>
    have nothing : Compatible level [] :=
      ⟨fun e member => absurd member List.not_mem_nil, List.nodup_nil⟩
    simp [nothing]
  | cons e es ih =>
    simp only [List.foldlM_cons, Option.bind_eq_bind, Option.bind_eq_some_iff,
      Given.note?_eq_some_iff, compatible_cons_iff, List.forall_mem_cons, List.foldl_cons]
    constructor
    · rintro ⟨_, ⟨sound, vacant, rfl⟩, later⟩
      obtain ⟨compatible, vacancies, keeps⟩ := ih.1 later
      have separate e' (member : e' ∈ es) := vacancies e' member
      simp only [Given.vacant_enter sound, Bool.and_eq_true, bne_iff_ne] at separate
      exact ⟨⟨sound, fun e' member => (separate e' member).2, compatible⟩,
        ⟨vacant, fun e' member => (separate e' member).1⟩, keeps⟩
    · rintro ⟨⟨sound, apart, compatible⟩, ⟨vacant, vacancies⟩, keeps⟩
      refine ⟨_, ⟨sound, vacant, rfl⟩, ih.2 ⟨compatible, fun e' member => ?_, keeps⟩⟩
      rw [Given.vacant_enter sound, vacancies e' member, Bool.true_and, bne_iff_ne]
      exact apart e' member

theorem foldlM_note?_empty :
    es.foldlM (Given.note? level) .empty = some g ↔ Compatible level es ∧ kept es = g := by
  rw [foldlM_note?_eq_some_iff]
  exact and_congr_right fun _ => and_iff_right fun e _ => Given.vacant_empty _

theorem Compatible.perm (compatible : Compatible level es) (same : es.Perm es') :
    Compatible level es' :=
  ⟨fun e member => compatible.sound e (same.mem_iff.2 member),
    (same.map _).nodup_iff.1 compatible.once⟩

theorem kept_perm (compatible : Compatible level es) (same : es.Perm es') : kept es = kept es' :=
  same.foldl_eq' (fun e member e' member' g => by
    by_cases apart : e.place = e'.place
    · rw [List.inj_on_of_nodup_map compatible.once member member' apart]
    · exact Given.enter_comm apart) _

theorem kept_middle {before after : List Entry}
    (compatible : Compatible level (before ++ e :: after)) :
    kept (before ++ e :: after) = (kept (before ++ after)).enter e := by
  have last : (before ++ e :: after).Perm (before ++ after ++ [e]) :=
    List.perm_middle.trans (List.perm_append_singleton _ _).symm
  rw [kept_perm compatible last, kept, List.foldl_append]
  rfl

theorem vacant_kept (compatible : Compatible level es) (q : Option Switch) :
    (kept es).vacant q = true ↔ ∀ e ∈ es, e.place ≠ q := by
  suffices ∀ g : Given, (es.foldl Given.enter g).vacant q = true ↔
      g.vacant q = true ∧ ∀ e ∈ es, e.place ≠ q by
    rw [kept, this, and_iff_right (Given.vacant_empty q)]
  induction es with
  | nil => simp
  | cons e es ih =>
    obtain ⟨sound, -, rest⟩ := compatible_cons_iff.1 compatible
    intro g
    rw [List.foldl_cons, ih rest, Given.vacant_enter sound, Bool.and_eq_true, bne_iff_ne,
      List.forall_mem_cons, and_assoc, ne_comm]

theorem kept_of_mem (compatible : Compatible level es) (member : e ∈ es) :
    ∃ g : Given, kept es = g.enter e := by
  obtain ⟨before, after, rfl⟩ := List.append_of_mem member
  exact ⟨_, kept_middle compatible⟩

end Keeping

end PlatformLauncher.CommandLine
