import PlatformLauncher.Proofs.Tree.Moves
import PlatformLauncher.Tree.Access

/-!
What writing a file does to the paths of a tree. A path leads to a slot when a file can be put at its
end; filling a slot changes what stands at that place and sends no path elsewhere. Main statements:
`status_put_self` and `status_put`.
-/
namespace PlatformLauncher.Tree

def Landing.slot? : Landing → Option Location
  | .found place (.file _) => some place
  | .vacant place => some place
  | _ => none

def Landing.Stands (t : Tree) : Landing → Prop
  | .found _ .directory | .lost _ => True
  | .found place e => place ≠ [] ∧ t.get? place = some e
  | .vacant place => place ≠ [] ∧ t.get? place = none

def IsSlot (t : Tree) (l : Location) : Prop :=
  l ≠ [] ∧ ∀ e, t.get? l = some e → ∃ content, e = .file content

def Landing.filled (l : Location) (content : Octets) (r : Landing) : Landing :=
  if r.slot? = some l then .found l (.file content) else r

/-- The directories and links of the first tree stand in the second one. -/
def Retains (t t' : Tree) : Prop :=
  ∀ l e, t.get? l = some e → (∀ content, e ≠ .file content) → t'.get? l = some e

def Stage.IsFirm : Stage → Prop
  | .turned .. => True
  | .landed (.found _ e) => ∀ content, e ≠ .file content
  | .landed _ => False

def Move.Held (t : Tree) (place : Location) : Move → Prop
  | .missing => False
  | .file content => t.get? place = some (.file content)
  | .into _ | .link _ | .tooLong => True

def Stage.Held (t : Tree) : Stage → Prop
  | .turned .. => True
  | .landed (.found place e) => ∀ content, e = .file content → t.get? place = some e
  | .landed _ => False

theorem Stage.IsFirm.held {t : Tree} {r : Stage} (firm : r.IsFirm) : r.Held t := by
  cases r with
  | turned directory target rest => trivial
  | landed l =>
    cases l with
    | found place e => exact fun content file => absurd file (firm content)
    | vacant place => cases firm
    | lost fault => cases firm

section Walking

variable {t : Tree} {follow : Bool} {here l place : Location} {names : List Text}

theorem stands_of_advance {r : Landing} (e : advance t follow here names = .landed r) :
    r.Stands t := by
  induction names generalizing here with
  | nil =>
    cases e
    trivial
  | cons name rest ih =>
    rw [advance_cons] at e
    cases moved : t.move here name with
    | into directory =>
      rw [moved] at e
      exact ih e
    | missing =>
      rw [moved] at e
      cases rest <;> cases e
      · exact ⟨List.cons_ne_nil _ _, holds_of_move moved⟩
      · trivial
    | file content =>
      rw [moved] at e
      cases rest <;> cases e
      · exact ⟨List.cons_ne_nil _ _, holds_of_move moved⟩
      · trivial
    | link target =>
      rw [moved] at e
      dsimp only at e
      split at e <;> cases e
      exact ⟨List.cons_ne_nil _ _, holds_of_move moved⟩
    | tooLong =>
      rw [moved] at e
      cases e
      trivial

theorem isSlot_of_advance {r : Landing} (e : advance t follow here names = .landed r)
    (slot : r.slot? = some place) : t.IsSlot place := by
  have stands := stands_of_advance e
  cases r with
  | lost fault => cases slot
  | vacant place' =>
    cases slot
    exact ⟨stands.1, fun e found => by rw [stands.2] at found; cases found⟩
  | found place' entry =>
    cases entry with
    | directory => cases slot
    | link target => cases slot
    | file content =>
      cases slot
      exact ⟨stands.1, fun e found => ⟨_, Option.some.inj (found.symm.trans stands.2)⟩⟩

theorem get?_put_of_passed {e : Entry} {content : Octets} (slot : t.IsSlot l)
    (passed : t.get? place = some e) (other : ∀ content, e ≠ .file content) :
    (t.put l (.file content)).get? place = some e := by
  rw [get?_put_of_ne, passed]
  rintro rfl
  obtain ⟨old, file⟩ := slot.2 e passed
  exact other old file

theorem retains_put_file {content : Octets} (slot : t.IsSlot l) :
    t.Retains (t.put l (.file content)) :=
  fun _ _ stands other => get?_put_of_passed slot stands other

theorem Retains.move {t' : Tree} {name : Text} {m : Move} (retains : t.Retains t')
    (e : t.move here name = m) (held : m.Held t' (name :: here)) : t'.move here name = m := by
  rcases move_cases here name with ⟨m', -, fixed⟩ | looks
  · rw [fixed] at e ⊢
    exact e
  rw [looks] at e ⊢
  subst e
  cases stands : t.get? (name :: here) with
  | none =>
    rw [stands] at held
    cases held
  | some e =>
    cases e with
    | directory => rw [retains _ _ stands (by simp)]
    | file content =>
      rw [stands] at held
      rw [show t'.get? (name :: here) = some (.file content) from held]
    | link target => rw [retains _ _ stands (by simp)]

theorem Retains.advance_of_held {t' : Tree} {r : Stage} (retains : t.Retains t')
    (e : Tree.advance t follow here names = r) (held : r.Held t') :
    Tree.advance t' follow here names = r := by
  induction names generalizing here with
  | nil => exact e
  | cons name rest ih =>
    rw [advance_cons] at e ⊢
    cases moved : t.move here name with
    | into directory =>
      rw [moved] at e
      rw [retains.move moved trivial]
      exact ih e
    | missing =>
      rw [moved] at e
      cases rest <;> subst e <;> cases held
    | file content =>
      rw [moved] at e
      cases rest <;> subst e
      · rw [retains.move moved (held _ rfl)]
      · cases held
    | link target =>
      rw [moved] at e
      rw [retains.move moved trivial]
      exact e
    | tooLong =>
      rw [moved] at e
      subst e
      cases held

theorem Retains.advance {t' : Tree} {r : Stage} (retains : t.Retains t')
    (e : advance t follow here names = r) (firm : r.IsFirm) :
    advance t' follow here names = r := retains.advance_of_held e firm.held

theorem advance_put_landed {content : Octets} {r : Landing} (slot : t.IsSlot l)
    (e : advance t follow here names = .landed r) (ends : r.slot? = some place) :
    advance (t.put l (.file content)) follow here names = .landed (r.filled l content) := by
  induction names generalizing here with
  | nil =>
    cases e
    cases ends
  | cons name rest ih =>
    rw [advance_cons] at e ⊢
    -- at its end the walk looks at the slot or at another place
    have looked {old : Move} (moved : t.move here name = old) (final : old.IsEnd) :
        (t.put l (.file content)).move here name =
          if name :: here = l then .file content else old := by
      rw [looks_of_move moved final]
      split
      · next atPlace =>
        rw [atPlace, get?_put_self t slot.1]
        rfl
      · next elsewhere => rw [get?_put_of_ne t elsewhere, ← looks_of_move moved final, moved]
    cases moved : t.move here name with
    | into directory =>
      rw [moved] at e
      rw [(retains_put_file slot).move moved trivial]
      exact ih e
    | missing =>
      rw [moved] at e
      rw [looked moved trivial]
      cases rest <;> cases e <;> cases ends
      by_cases atPlace : name :: here = l <;> simp [Landing.filled, Landing.slot?, atPlace]
    | file old =>
      rw [moved] at e
      rw [looked moved trivial]
      cases rest <;> cases e <;> cases ends
      by_cases atPlace : name :: here = l <;> simp [Landing.filled, Landing.slot?, atPlace]
    | link target =>
      rw [moved] at e
      dsimp only at e
      split at e <;> cases e
      cases ends
    | tooLong =>
      rw [moved] at e
      cases e
      cases ends

theorem advance_of_walk {links : Nat} {slash slash' : Bool} {r : Landing}
    (e : walk t follow links here names slash = (r, slash')) :
    r = .lost .tooManyLinks ∨ ∃ origin names', advance t follow origin names' = .landed r := by
  fun_induction walk t follow links here names slash with
  | case1 links here names slash r' landed =>
    cases e
    exact .inr ⟨here, names, landed⟩
  | case2 here names slash directory target rest turned =>
    cases e
    exact .inl rfl
  | case3 here names slash directory target rest turned links ih => exact ih e

theorem walk_put {links : Nat} {slash slash' : Bool} {r : Landing} {content : Octets}
    (slot : t.IsSlot l) (e : walk t follow links here names slash = (r, slash'))
    (ends : r.slot? = some place) :
    walk (t.put l (.file content)) follow links here names slash =
      (r.filled l content, slash') := by
  fun_induction walk t follow links here names slash with
  | case1 links here names slash r' landed =>
    cases e
    exact walk_of_landed (advance_put_landed slot landed ends) _
  | case2 here names slash directory target rest turned =>
    cases e
    cases ends
  | case3 here names slash directory target rest turned links ih =>
    rw [walk_of_turned ((retains_put_file slot).advance turned trivial)]
    exact ih e

end Walking

section Writing

variable {t t' : Tree} {here l place : Location} {p : Path} {content : Octets}

theorem advance_of_locate {follow slash : Bool} {r : Landing}
    (e : t.locate follow here p = (r, slash)) :
    (∃ fault, r = .lost fault) ∨ ∃ origin names, advance t follow origin names = .landed r := by
  unfold locate at e
  split at e
  · next fault _ =>
    cases e
    exact .inl ⟨fault, rfl⟩
  · rcases advance_of_walk e with rfl | ended
    · exact .inl ⟨_, rfl⟩
    · exact .inr ended

theorem stands_of_locate {follow slash : Bool} {r : Landing}
    (e : t.locate follow here p = (r, slash)) : r.Stands t := by
  rcases advance_of_locate e with ⟨fault, rfl⟩ | ⟨origin, names, ended⟩
  · trivial
  · exact stands_of_advance ended

theorem isSlot_of_locate {follow slash : Bool} {r : Landing}
    (e : t.locate follow here p = (r, slash)) (ends : r.slot? = some place) : t.IsSlot place := by
  rcases advance_of_locate e with ⟨fault, rfl⟩ | ⟨origin, names, ended⟩
  · cases ends
  · exact isSlot_of_advance ended ends

theorem locate_put {follow slash : Bool} {r : Landing} (slot : t.IsSlot l)
    (e : t.locate follow here p = (r, slash)) (ends : r.slot? = some place) :
    (t.put l (.file content)).locate follow here p = (r.filled l content, slash) := by
  unfold locate at e ⊢
  split at e
  · cases e
    cases ends
  · exact walk_put slot e ends

theorem advance_ne_link {origin : Location} {names : List Text} {target : Path} :
    advance t true origin names ≠ .landed (.found place (.link target)) := by
  intro e
  induction names generalizing origin with
  | nil => cases e
  | cons name rest ih =>
    rw [advance_cons] at e
    cases moved : t.move origin name with
    | into directory =>
      rw [moved] at e
      exact ih e
    | missing =>
      rw [moved] at e
      cases rest <;> cases e
    | file content =>
      rw [moved] at e
      cases rest <;> cases e
    | link target =>
      rw [moved] at e
      cases rest <;> cases e
    | tooLong =>
      rw [moved] at e
      cases e

theorem locate_ne_link {slash : Bool} {target : Path} :
    t.locate true here p ≠ (.found place (.link target), slash) := by
  intro e
  rcases advance_of_locate e with ⟨fault, lost⟩ | ⟨origin, names, ended⟩
  · cases lost
  · exact advance_ne_link ended

theorem locate_of_status {e : Entry} (stands : t.status here p = .ok (place, e)) :
    ∃ slash, t.locate true here p = (.found place e, slash) ∧ (e = .directory ∨ slash = false) := by
  rcases located : t.locate true here p with ⟨r, slash⟩
  unfold status at stands
  rw [located] at stands
  cases r with
  | lost fault => cases stands
  | vacant place => cases stands
  | found place' e' =>
    cases e' with
    | directory =>
      cases stands
      exact ⟨slash, rfl, .inl rfl⟩
    | file old =>
      cases slash <;> cases stands
      exact ⟨false, rfl, .inr rfl⟩
    | link target => exact absurd located locate_ne_link

theorem status_of_locate {slash : Bool} {e : Entry}
    (located : t.locate true here p = (.found place e, slash))
    (whole : e = .directory ∨ slash = false) : t.status here p = .ok (place, e) := by
  unfold status
  rw [located]
  rcases whole with rfl | rfl
  · rfl
  · cases e <;> rfl

theorem write_ok (e : t.write here p content = .ok t') :
    ∃ place r, t.locate true here p = (r, false) ∧ r.slot? = some place ∧
      t' = t.put place (.file content) := by
  unfold write at e
  split at e
  · cases e
  rcases located : t.locate true here p with ⟨r, slash⟩
  rw [located] at e
  cases r with
  | lost fault => cases e
  | vacant place =>
    cases slash with
    | true => cases e
    | false =>
      simp only at e
      split at e <;> cases e
      exact ⟨place, _, rfl, rfl, rfl⟩
  | found place entry =>
    cases slash with
    | true => cases e
    | false =>
      cases entry with
      | directory => cases e
      | file old =>
        cases e
        exact ⟨place, _, rfl, rfl, rfl⟩
      | link target => exact absurd located locate_ne_link

theorem status_put_self {r : Landing} (e : t.locate true here p = (r, false))
    (ends : r.slot? = some place) :
    (t.put place (.file content)).status here p = .ok (place, .file content) := by
  have located : (t.put place (.file content)).locate true here p =
      (r.filled place content, false) :=
    locate_put (isSlot_of_locate e ends) e ends
  simp [status, located, Landing.filled, ends]

theorem status_put {old : Octets} (slot : t.IsSlot l)
    (e : t.status here p = .ok (place, .file old)) :
    (t.put l (.file content)).status here p =
      .ok (place, .file (if place = l then content else old)) := by
  obtain ⟨slash, located, whole⟩ := locate_of_status e
  obtain rfl : slash = false := by simpa using whole
  unfold status
  rw [locate_put slot located rfl]
  by_cases same : place = l
  · simp [Landing.filled, Landing.slot?, same]
  · simp [Landing.filled, Landing.slot?, same]

theorem status_of_write (e : t.write here p content = .ok t') :
    ∃ place, t.IsSlot place ∧ t' = t.put place (.file content) ∧
      t'.status here p = .ok (place, .file content) := by
  obtain ⟨place, r, located, ends, rfl⟩ := write_ok e
  exact ⟨place, isSlot_of_locate located ends, rfl, status_put_self located ends⟩

theorem write_of_status {old : Octets} (stands : t.status here p = .ok (place, .file old))
    (name : Path.endsInSlash p = false) :
    t.write here p content = .ok (t.put place (.file content)) := by
  obtain ⟨slash, located, whole⟩ := locate_of_status stands
  obtain rfl : slash = false := by simpa using whole
  unfold write
  rw [located, name, Bool.and_false, if_neg Bool.false_ne_true]

theorem isDirectory_iff :
    t.isDirectory here p = true ↔ ∃ place, t.status here p = .ok (place, .directory) := by
  unfold isDirectory
  constructor
  · intro there
    split at there
    · next place leads => exact ⟨place, leads⟩
    · cases there
  · rintro ⟨place, leads⟩
    rw [leads]

theorem isFile_iff :
    t.isFile here p = true ↔ ∃ place content, t.status here p = .ok (place, .file content) := by
  unfold isFile
  constructor
  · intro there
    split at there
    · next place content leads => exact ⟨place, content, leads⟩
    · cases there
  · rintro ⟨place, content, leads⟩
    rw [leads]

theorem read_of_status {place : Location} (e : t.status here p = .ok (place, .file content)) :
    t.read here p = .ok content := by
  simp [read, e]

theorem readText_of_read {text : Text} (e : t.read here p = .ok (Octets.encode text)) :
    t.readText here p = .ok text := by
  simp [readText, e, Octets.decode?_encode]

def SameFile (t : Tree) (here : Location) (p q : Path) : Prop :=
  ∃ place content, t.status here p = .ok (place, .file content) ∧
    t.status here q = .ok (place, .file content)

theorem SameFile.status_eq {q : Path} (same : t.SameFile here p q) :
    t.status here p = t.status here q := by
  obtain ⟨place, content, first, second⟩ := same
  rw [first, second]

theorem status_of_write_apart {q : Path} {old : Octets} (e : t.write here q content = .ok t')
    (stands : t.status here p = .ok (place, .file old)) (apart : ¬ t'.SameFile here q p) :
    t'.status here p = .ok (place, .file old) := by
  obtain ⟨l, slot, rfl, written⟩ := status_of_write e
  have kept : (t.put l (.file content)).status here p =
      .ok (place, .file (if place = l then content else old)) :=
    status_put slot stands
  by_cases same : place = l
  · subst same
    rw [if_pos rfl] at kept
    exact absurd ⟨place, content, written, kept⟩ apart
  · rwa [if_neg same] at kept

end Writing

end PlatformLauncher.Tree
