import PlatformLauncher.Tree.Walk

/-!
One name of a path. In a directory a name is a move into a directory, or comes to an end there; which
it is, is settled by the name or by what stands under it. Main statements: `advance_cons`, a stretch of
a walk goes on by the move of its first name, and `advance_found`, it ends at something the tree holds.
-/
namespace PlatformLauncher.Tree

inductive Move where
  | into (directory : Location)
  | missing
  | file (content : Octets)
  | link (target : Path)
  | tooLong

def Move.of (place : Location) : Option Entry → Move
  | none => .missing
  | some .directory => .into place
  | some (.file content) => .file content
  | some (.link target) => .link target

def move (t : Tree) (here : Location) (name : Text) : Move :=
  if name = ['.'] then .into here
  else if name = ['.', '.'] then .into here.parent
  else if nameLimit < (Octets.encode name).length then .tooLong
  else .of (name :: here) (t.get? (name :: here))

def Move.Holds (t : Tree) (here : Location) (name : Text) : Move → Prop
  | .into directory =>
    directory = here ∨ directory = here.parent ∨ t.get? directory = some .directory
  | .missing => t.get? (name :: here) = none
  | .file content => t.get? (name :: here) = some (.file content)
  | .link target => t.get? (name :: here) = some (.link target)
  | .tooLong => True

def Move.IsEnd : Move → Prop
  | .into _ | .tooLong => False
  | .missing | .file _ | .link _ => True

section Moving

variable {t : Tree} {follow : Bool} {here place : Location} {names : List Text}

theorem advance_cons (t : Tree) (follow : Bool) (here : Location) (name : Text) (rest : List Text) :
    advance t follow here (name :: rest) =
      match t.move here name with
      | .into directory => advance t follow directory rest
      | .missing => .landed (if rest.isEmpty then .vacant (name :: here) else .lost .notFound)
      | .file content =>
        .landed (if rest.isEmpty then .found (name :: here) (.file content) else .lost .notDirectory)
      | .link target =>
        if rest.isEmpty && !follow then .landed (.found (name :: here) (.link target))
        else .turned here target rest
      | .tooLong => .landed (.lost .nameTooLong) := by
  unfold move
  rw [advance]
  split
  · rfl
  split
  · rfl
  split
  · rfl
  cases t.get? (name :: here) with
  | none => rfl
  | some e => cases e <;> rfl

theorem move_cases (here : Location) (name : Text) :
    (∃ m : Move, ¬ m.IsEnd ∧ ∀ t : Tree, t.move here name = m) ∨
      ∀ t : Tree, t.move here name = .of (name :: here) (t.get? (name :: here)) := by
  unfold move
  split
  · exact .inl ⟨_, id, fun _ => rfl⟩
  split
  · exact .inl ⟨_, id, fun _ => rfl⟩
  split
  · exact .inl ⟨_, id, fun _ => rfl⟩
  · exact .inr fun _ => rfl

theorem looks_of_move {name : Text} {m : Move} (moved : t.move here name = m) (ends : m.IsEnd)
    (t' : Tree) : t'.move here name = .of (name :: here) (t'.get? (name :: here)) := by
  rcases move_cases here name with ⟨m', passes, fixed⟩ | looks
  · rw [fixed] at moved
    exact absurd (moved ▸ ends) passes
  · exact looks t'

theorem holds_move (t : Tree) (here : Location) (name : Text) :
    (t.move here name).Holds t here name := by
  unfold move
  split
  · exact .inl rfl
  split
  · exact .inr (.inl rfl)
  split
  · trivial
  cases stands : t.get? (name :: here) with
  | none => exact stands
  | some e =>
    cases e with
    | directory => exact .inr (.inr stands)
    | file content => exact stands
    | link target => exact stands

theorem holds_of_move {name : Text} {m : Move} (e : t.move here name = m) : m.Holds t here name :=
  e ▸ holds_move t here name

theorem stands_of_move {name : Text} {directory : Location} (stands : t.get? here = some .directory)
    (up : t.get? here.parent = some .directory) (e : t.move here name = .into directory) :
    t.get? directory = some .directory := by
  rcases holds_of_move e with rfl | rfl | inside
  · exact stands
  · exact up
  · exact inside

theorem advance_found {entry : Entry} (h : t.get? here = some .directory)
    (dirs : ∀ l, t.get? l = some .directory → t.get? l.parent = some .directory)
    (e : advance t follow here names = .landed (.found place entry)) :
    t.get? place = some entry := by
  induction names generalizing here with
  | nil =>
    cases e
    exact h
  | cons name rest ih =>
    rw [advance_cons] at e
    cases moved : t.move here name with
    | into directory =>
      rw [moved] at e
      exact ih (stands_of_move h (dirs here h) moved) e
    | missing =>
      rw [moved] at e
      cases rest <;> cases e
    | file content =>
      rw [moved] at e
      cases rest <;> cases e
      exact holds_of_move moved
    | link target =>
      rw [moved] at e
      dsimp only at e
      split at e <;> cases e
      exact holds_of_move moved
    | tooLong =>
      rw [moved] at e
      cases e

end Moving

end PlatformLauncher.Tree
