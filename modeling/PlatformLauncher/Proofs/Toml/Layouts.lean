import PlatformLauncher.Proofs.Toml.Documents

/-!
A number in a table, in the ways in which a document can write it: under the header of the table,
with a dotted key, or in braces. Main statement: `read_numberText`, in each of them the number is read
as it is written, or the document is refused when the number has more than 64 bits.
-/
namespace PlatformLauncher.Toml
open Document

inductive Layout where
  | underHeader
  | dotted
  | inBraces
deriving DecidableEq, Repr

def assigned (key : Text) (n : Nat) (rest : Text) : Text :=
  key ++ (" = ".toList ++ (Numeral.ofNat n ++ rest))

def numberText (name key : Text) (n : Nat) : Layout → Text
  | .underHeader => '[' :: name ++ "]\n".toList ++ assigned key n ['\n']
  | .dotted => name ++ '.' :: assigned key n ['\n']
  | .inBraces => name ++ (" = ".toList ++ ('\x7b' :: ' ' :: assigned key n " \x7d\n".toList))

section
variable {name key next rest : Text} {n : Nat}

theorem assigned_append (key : Text) (n : Nat) (a b : Text) :
    assigned key n a ++ b = assigned key n (a ++ b) := by
  simp [assigned]

theorem assignment?_assigned (hk : IsKey key) (n : Nat) (rest : Text) :
    assignment? (assigned key n rest) = some ([key], Numeral.ofNat n ++ rest) :=
  assignment?_bare hk ((isKey_ofNat n).skipSpaces _)

theorem assignment?_dotted (hn : IsKey name) (hk : IsKey key) (n : Nat) (rest : Text) :
    assignment? (name ++ '.' :: assigned key n rest) =
      some ([name, key], Numeral.ofNat n ++ rest) := by
  have blank : isBareKeyChar ' ' = false := by decide
  have point : isBareKeyChar '.' = false := by decide
  have last : key? 78 (assigned key n rest) = some ([key], '=' :: ' ' :: (Numeral.ofNat n ++ rest)) :=
    key?_bare hk (by simp [blank]) rfl (by decide) 77
  have first : keyPart? (name ++ '.' :: assigned key n rest) =
      some (name, '.' :: assigned key n rest) := keyPart?_bare hn (by simp [point])
  have onPoint : skipSpaces ('.' :: assigned key n rest) = '.' :: assigned key n rest := rfl
  have keys : key? nestingLimit (name ++ '.' :: assigned key n rest) =
      some ([name, key], '=' :: ' ' :: (Numeral.ofNat n ++ rest)) := by
    rw [nestingLimit, key?, hn.skipSpaces, first]
    simp only [onPoint, last, Option.map_some]
  have skipped : skipSpaces (' ' :: (Numeral.ofNat n ++ rest)) = Numeral.ofNat n ++ rest :=
    (isKey_ofNat n).skipSpaces _
  rw [assignment?, keys]
  simp only [skipped]

theorem value?_inBraces (hk : IsKey key) (n fuel depth : Nat) (rest : Text) :
    value? (fuel + 3) (depth + 1) ('\x7b' :: ' ' :: assigned key n (' ' :: '\x7d' :: rest)) =
      if n < twoTo 63 then some (.table [(key, .integer n)], rest) else none := by
  have number : value? (fuel + 1) depth (Numeral.ofNat n ++ ' ' :: '\x7d' :: rest) =
      if n < twoTo 63 then some (.integer n, ' ' :: '\x7d' :: rest) else none :=
    value?_numeral (.inl rfl) n fuel depth
  have pairs : pairs? (fuel + 2) depth [] (assigned key n (' ' :: '\x7d' :: rest)) =
      if n < twoTo 63 then some ([(key, .value (.integer n))], rest) else none := by
    rw [pairs?, assignment?_assigned hk, Option.bind_some]
    simp only [number]
    split <;> rfl
  have skipped : skipSpaces (' ' :: assigned key n (' ' :: '\x7d' :: rest)) =
      assigned key n (' ' :: '\x7d' :: rest) := hk.skipSpaces _
  have notClosed : (assigned key n (' ' :: '\x7d' :: rest)).head? ≠ some '\x7d' :=
    hk.head?_ne (by decide) _
  rw [value?, if_neg (by omega), skipped]
  split
  · next e => exact absurd (congrArg List.head? e) notClosed
  · rw [Nat.add_sub_cancel, pairs]
    split <;> rfl

theorem ends_number {d d' : Document} {line : Text} (nonempty : line ≠ [])
    (start : ∀ rest, skipBlanks? false (line ++ '\n' :: rest) = some (line ++ '\n' :: rest))
    (read : ∀ rest, d.line? (line ++ '\n' :: rest) =
      if n < twoTo 63 then some (d', '\n' :: rest) else none) :
    d.Ends (line ++ ['\n']) (if n < twoTo 63 then .ok d' else .error (line ++ ['\n'])) := by
  by_cases fits : n < twoTo 63
  · simp only [fits, if_true] at read ⊢
    have leads := leads_line nonempty start read
    have ends := leads [] _ (ends_nil d')
    rwa [List.append_nil] at ends
  · simp only [fits, if_false] at read ⊢
    exact ends_fault nonempty start (read [])

theorem ends_underHeader (hk : IsKey key) (name : Text) (n : Nat) :
    Ends ⟨[(name, .table .declared [])], [name]⟩ (assigned key n ['\n'])
      (if n < twoTo 63 then
        .ok ⟨[(name, .table .declared [(key, .value (.integer n))])], [name]⟩
      else .error (assigned key n ['\n'])) := by
  have line (rest : Text) : assigned key n [] ++ '\n' :: rest = assigned key n ('\n' :: rest) :=
    assigned_append key n [] _
  have inside : Table.within (insertAt [key] (.integer n)) [name] [(name, .table .declared [])] =
      some [(name, .table .declared [(key, .value (.integer n))])] := by
    have fresh : List.lookup name ([] : Table) = none := rfl
    have place := lens_section fresh (insertAt [key] (.integer n)) []
    rwa [insertAt_fresh rfl] at place
  rw [← line]
  apply ends_number
  · simp [assigned, hk.ne_nil]
  · intro rest
    rw [line]
    exact hk.skipBlanks? _
  · intro rest
    have noBracket : (assigned key n ('\n' :: rest)).head? ≠ some '[' := hk.head?_ne (by decide) _
    rw [line, line?_of_assignment noBracket (assignment?_assigned hk n _),
      value?_numeral (.inr rfl)]
    split
    · simp only [Option.bind_some, inside, Option.map_some]
    · rfl

theorem ends_dotted (hn : IsKey name) (hk : IsKey key) (n : Nat) :
    Ends ⟨[], []⟩ (name ++ '.' :: assigned key n ['\n'])
      (if n < twoTo 63 then .ok ⟨[(name, .table .dotted [(key, .value (.integer n))])], []⟩
      else .error (name ++ '.' :: assigned key n ['\n'])) := by
  have line (rest : Text) : name ++ '.' :: assigned key n [] ++ '\n' :: rest =
      name ++ '.' :: assigned key n ('\n' :: rest) := by
    simp [assigned]
  rw [← line]
  apply ends_number
  · simp
  · intro rest
    rw [line]
    exact hn.skipBlanks? _
  · intro rest
    have noBracket : (name ++ '.' :: assigned key n ('\n' :: rest)).head? ≠ some '[' :=
      hn.head?_ne (by decide) _
    rw [line, line?_of_assignment noBracket (assignment?_dotted hn hk n _),
      value?_numeral (.inr rfl)]
    split <;> rfl

theorem ends_inBraces (hn : IsKey name) (hk : IsKey key) (n : Nat) :
    Ends ⟨[], []⟩ (name ++ (" = ".toList ++ ('\x7b' :: ' ' :: assigned key n " \x7d\n".toList)))
      (if n < twoTo 63 then .ok ⟨[(name, .value (.table [(key, .integer n)]))], []⟩
      else .error
        (name ++ (" = ".toList ++ ('\x7b' :: ' ' :: assigned key n " \x7d\n".toList)))) := by
  have line (rest : Text) :
      name ++ (" = ".toList ++ ('\x7b' :: ' ' :: assigned key n " \x7d".toList)) ++ '\n' :: rest =
        name ++ (" = ".toList ++ ('\x7b' :: ' ' :: assigned key n (' ' :: '\x7d' :: '\n' :: rest))) := by
    simp [assigned]
  have whole : name ++ (" = ".toList ++ ('\x7b' :: ' ' :: assigned key n " \x7d\n".toList)) =
      name ++ (" = ".toList ++ ('\x7b' :: ' ' :: assigned key n " \x7d".toList)) ++ ['\n'] :=
    (line []).symm
  rw [whole]
  apply ends_number
  · simp
  · intro rest
    rw [line]
    exact hn.skipBlanks? _
  · intro rest
    have noBracket : (name ++ (" = ".toList ++ ('\x7b' :: ' ' ::
        assigned key n (' ' :: '\x7d' :: '\n' :: rest)))).head? ≠ some '[' :=
      hn.head?_ne (by decide) _
    obtain ⟨fuel, enough⟩ : ∃ fuel,
        ('\x7b' :: ' ' :: assigned key n (' ' :: '\x7d' :: '\n' :: rest)).length + 1 = fuel + 3 :=
      ⟨_, rfl⟩
    rw [line, line?_of_assignment noBracket (assignment?_bare hn rfl), enough, nestingLimit,
      value?_inBraces hk]
    split <;> rfl

theorem read_numberText (hn : IsKey name) (hk : IsKey key) (n : Nat) (layout : Layout) :
    (read (numberText name key n layout)).toOption =
      if n < twoTo 63 then some [(name, .table [(key, .integer n)])] else none := by
  have marked : isBareKeyChar '\uFEFF' = false := by decide
  cases layout with
  | underHeader =>
    have ends := leads_section hn (t := []) rfl [] _ _ (ends_underHeader hk name n)
    rw [numberText, read_of_ends ends (by simp)]
    split <;> rfl
  | dotted =>
    rw [numberText, read_of_ends (ends_dotted hn hk n) (hn.head?_ne marked _)]
    split <;> rfl
  | inBraces =>
    rw [numberText, read_of_ends (ends_inBraces hn hk n) (hn.head?_ne marked _)]
    split <;> rfl

end

end PlatformLauncher.Toml
