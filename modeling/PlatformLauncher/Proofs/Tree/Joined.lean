import PlatformLauncher.Proofs.Tree.Growth

/-!
A path seen from a directory, and the same path joined to the path of that directory. Both lead to the
same directory; only the joined one can be too long, or lead through too many links. Main statements:
`status_of_joined` and `status_joined`.
-/
namespace PlatformLauncher

namespace Path

theorem exists_join_eq_append (base p : Path) : ∃ front, join base p = front ++ p := by
  unfold join
  split
  · exact ⟨[], rfl⟩
  · split
    · exact ⟨base, rfl⟩
    · exact ⟨base ++ ['/'], by simp⟩

theorem mem_join {base p : Path} {c : Char} (member : c ∈ join base p) :
    c ∈ base ∨ c = '/' ∨ c ∈ p := by
  unfold join at member
  split at member
  · exact .inr (.inr member)
  · split at member
    · rcases List.mem_append.1 member with inside | inside
      · exact .inl inside
      · exact .inr (.inr inside)
    · rcases List.mem_append.1 member with inside | inside
      · exact .inl inside
      · exact .inr (List.mem_cons.1 inside)

end Path

namespace Tree

section Faults

variable {base p : Path}

theorem pathFault?_eq_none_iff : pathFault? p = none ↔
    '\x00' ∉ p ∧ p ≠ [] ∧ (Octets.encode p).length < pathLimit := by
  unfold pathFault?
  split
  · next null => simp [List.contains_iff_mem.1 null]
  next null =>
  split
  · next empty => simp [List.isEmpty_iff.1 empty]
  next nonempty =>
  split <;> simp_all

theorem pathFault?_of_joined (named : p ≠ []) (whole : pathFault? (Path.join base p) = none) :
    pathFault? p = none := by
  obtain ⟨front, joined⟩ := Path.exists_join_eq_append base p
  rw [joined, pathFault?_eq_none_iff] at whole
  obtain ⟨null, -, short⟩ := whole
  rw [Octets.encode_append, List.length_append] at short
  exact pathFault?_eq_none_iff.2 ⟨fun inside => null (List.mem_append_right _ inside), named, by omega⟩

theorem pathFault?_joined (baseFits : pathFault? base = none) (whole : pathFault? p = none) :
    pathFault? (Path.join base p) = none ∨ pathFault? (Path.join base p) = some .nameTooLong := by
  obtain ⟨null, -, -⟩ := pathFault?_eq_none_iff.1 baseFits
  obtain ⟨null', named, -⟩ := pathFault?_eq_none_iff.1 whole
  obtain ⟨front, joined⟩ := Path.exists_join_eq_append base p
  have noNull : '\x00' ∉ Path.join base p := by
    intro member
    rcases Path.mem_join member with inside | slash | inside
    · exact null inside
    · exact absurd slash (by decide)
    · exact null' inside
  have nonempty : Path.join base p ≠ [] := by
    rw [joined]
    simp [named]
  unfold pathFault?
  rw [if_neg (by simpa using noNull), if_neg (by simpa using nonempty)]
  split
  · exact .inr rfl
  · exact .inl rfl

end Faults

section Walking

variable {t : Tree} {follow : Bool} {here dir place : Location} {names : List Text}
  {base p : Path}

theorem walk_slash (t : Tree) (follow : Bool) (links : Nat) (here : Location) (names : List Text)
    (slash slash' : Bool) :
    (walk t follow links here names slash).1 = (walk t follow links here names slash').1 := by
  fun_induction walk t follow links here names slash generalizing slash' with
  | case1 links here names slash r landed => rw [walk_of_landed landed]
  | case2 here names slash directory target rest turned => rw [walk_zero_of_turned turned]
  | case3 here names slash directory target rest turned links ih =>
    rw [walk_of_turned turned]
    exact ih _

theorem walk_links {links links' : Nat} (fewer : links ≤ links') (slash : Bool) :
    (walk t follow links here names slash).1 = .lost .tooManyLinks ∨
      (walk t follow links here names slash).1 = (walk t follow links' here names slash).1 := by
  fun_induction walk t follow links here names slash generalizing links' with
  | case1 links here names slash r landed => exact .inr (by rw [walk_of_landed landed])
  | case2 here names slash directory target rest turned => exact .inl rfl
  | case3 here names slash directory target rest turned links ih =>
    obtain ⟨links', rfl⟩ := Nat.exists_eq_add_of_lt (Nat.lt_of_lt_of_le (Nat.succ_pos links) fewer)
    rw [Nat.zero_add] at fewer ⊢
    rw [walk_of_turned turned]
    exact ih (Nat.le_of_succ_le_succ fewer)

theorem status_eq_of_isAbsolute (absolute : Path.isAbsolute p = true) (here dir : Location) :
    t.status here p = t.status dir p := by
  have same : t.locate true here p = t.locate true dir p := by
    unfold locate start
    rw [if_pos absolute, if_pos absolute]
  unfold status
  rw [same]

theorem status_directory_of_walk {slash : Bool} (whole : pathFault? p = none)
    (lands : (walk t true linkLimit (start here p) (Path.names p) slash).1 =
      .found place .directory) : t.status here p = .ok (place, .directory) := by
  rw [walk_slash t true linkLimit (start here p) (Path.names p) slash (Path.endsInSlash p)] at lands
  rcases walks : walk t true linkLimit (start here p) (Path.names p) (Path.endsInSlash p) with ⟨r, last⟩
  rw [walks] at lands
  refine status_eq_directory_iff.2 ⟨last, ?_⟩
  unfold locate
  rw [whole]
  exact walks.trans (congrArg (·, last) lands)

theorem walk_of_status_directory (leads : t.status here p = .ok (place, .directory)) :
    pathFault? p = none ∧
      ∃ slash, walk t true linkLimit (start here p) (Path.names p) (Path.endsInSlash p) =
        (.found place .directory, slash) := by
  obtain ⟨slash, located⟩ := status_eq_directory_iff.1 leads
  unfold locate at located
  split at located
  · cases located
  next whole => exact ⟨whole, slash, located⟩

theorem walk_joined (leads : t.status here base = .ok (dir, .directory))
    (relative : Path.isAbsolute p = false) (slash : Bool) :
    ∃ links ≤ linkLimit,
      (walk t true linkLimit (start here (Path.join base p)) (Path.names (Path.join base p)) slash).1 =
        (walk t true links (start dir p) (Path.names p) slash).1 := by
  obtain ⟨-, slash', walks⟩ := walk_of_status_directory leads
  obtain ⟨links, fewer, slash₁, further⟩ := walk_append (Path.names p) walks (.inl rfl) slash
  have origin : start here (Path.join base p) = start here base := by
    unfold start
    rw [Path.isAbsolute_join relative]
  have begin' : start dir p = dir := by
    unfold start
    rw [relative]
    rfl
  refine ⟨links, fewer, ?_⟩
  rw [origin, begin', Path.names_join relative, further]
  exact walk_slash ..

theorem status_of_joined (leads : t.status here base = .ok (dir, .directory)) (named : p ≠ [])
    (joined : t.status here (Path.join base p) = .ok (place, .directory)) :
    t.status dir p = .ok (place, .directory) := by
  cases absolute : Path.isAbsolute p with
  | true =>
    rw [Path.join_eq_of_isAbsolute absolute] at joined
    rw [status_eq_of_isAbsolute absolute dir here, joined]
  | false =>
    obtain ⟨whole, slash, walks⟩ := walk_of_status_directory joined
    obtain ⟨links, fewer, same⟩ := walk_joined leads absolute (Path.endsInSlash (Path.join base p))
    rw [walks] at same
    refine status_directory_of_walk (pathFault?_of_joined named whole)
      (?_ : (walk t true linkLimit _ _ (Path.endsInSlash (Path.join base p))).1 = _)
    rcases walk_links (t := t) fewer _ with many | further
    · cases same.trans many
    · exact further.symm.trans same.symm

theorem status_joined (leads : t.status here base = .ok (dir, .directory))
    (seen : t.status dir p = .ok (place, .directory)) :
    t.status here (Path.join base p) = .ok (place, .directory) ∨
      t.status here (Path.join base p) = .error .nameTooLong ∨
      t.status here (Path.join base p) = .error .tooManyLinks := by
  cases absolute : Path.isAbsolute p with
  | true =>
    rw [Path.join_eq_of_isAbsolute absolute]
    exact .inl ((status_eq_of_isAbsolute absolute here dir).trans seen)
  | false =>
    obtain ⟨baseFits, -, -⟩ := walk_of_status_directory leads
    obtain ⟨whole, slash, walks⟩ := walk_of_status_directory seen
    rcases pathFault?_joined baseFits whole with fits | long
    · obtain ⟨links, fewer, same⟩ := walk_joined leads absolute (Path.endsInSlash p)
      rcases walk_links (t := t) fewer _ with many | further
      · refine .inr (.inr ?_)
        rw [many, walk_slash t true _ _ _ _ (Path.endsInSlash (Path.join base p))] at same
        unfold status locate
        rw [fits]
        dsimp only
        rw [← Prod.eta (walk ..), same]
      · rw [walks] at further
        exact .inl (status_directory_of_walk fits (same.trans further))
    · refine .inr (.inl ?_)
      unfold status locate
      rw [long]

end Walking

end Tree

end PlatformLauncher
