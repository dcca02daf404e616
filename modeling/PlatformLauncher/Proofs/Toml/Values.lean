import PlatformLauncher.Proofs.Toml.Strings
import PlatformLauncher.Toml.Reader

/-!
Strings, lists of strings and whole numbers read back as values, whatever follows them on the line.
Main statements: `value?_string`, `value?_strings` and `value?_numeral`.
-/
namespace PlatformLauncher.Toml
open Printer

theorem string_cons (s : Text) : ∃ quote r, Printer.string s = quote :: r ∧
    (quote = '"' ∨ quote = '\'') := by
  unfold Printer.string
  split
  · exact ⟨'"', _, rfl, .inl rfl⟩
  · exact ⟨'\'', _, rfl, .inr rfl⟩
  · exact ⟨'"', _, rfl, .inl rfl⟩
  · exact ⟨'\'', _, rfl, .inr rfl⟩

theorem value?_cons {c : Char} (list : c ≠ '[') (table : c ≠ '\x7b') (notTrue : c ≠ 't')
    (notFalse : c ≠ 'f') (r : Text) (fuel depth : Nat) :
    value? (fuel + 1) depth (c :: r) =
      if c = '"' || c = '\'' then (string? (c :: r)).map fun (s, rest) => (.text s, rest)
      else
        match Moment.read? (c :: r) with
        | some (m, rest) => some (.moment m, rest)
        | none => number? (c :: r) := by
  unfold value?
  split
  · next e => cases e
  · next e => exact absurd (List.cons.inj e).1 list
  · next e => exact absurd (List.cons.inj e).1 table
  · next e => exact absurd (List.cons.inj e).1 notTrue
  · next e => exact absurd (List.cons.inj e).1 notFalse
  · next e =>
    cases e
    rfl

theorem value?_string {s rest : Text} (double : rest.head? ≠ some '"')
    (single : rest.head? ≠ some '\'') (fuel depth : Nat) :
    value? (fuel + 1) depth (Printer.string s ++ rest) = some (.text s, rest) := by
  have read := string?_string (s := s) double single
  obtain ⟨quote, r, written, isQuote⟩ := string_cons s
  rw [written, List.cons_append] at read ⊢
  rcases isQuote with rfl | rfl
  · rw [value?_cons (by decide) (by decide) (by decide) (by decide), if_pos (by decide), read]
    rfl
  · rw [value?_cons (by decide) (by decide) (by decide) (by decide), if_pos (by decide), read]
    rfl

section Lists

theorem skipBlanks?_string (s rest : Text) :
    skipBlanks? false (Printer.string s ++ rest) = some (Printer.string s ++ rest) := by
  obtain ⟨quote, r, written, rfl | rfl⟩ := string_cons s
  · rw [written]
    rfl
  · rw [written]
    rfl

def itemLines (items : List Text) : Text :=
  items.flatMap (fun item => List.replicate 4 ' ' ++ Printer.string item ++ ",\n".toList) ++ [']']

theorem itemLines_cons (item : Text) (items : List Text) (rest : Text) :
    itemLines (item :: items) ++ rest =
      List.replicate 4 ' ' ++ (Printer.string item ++ (',' :: '\n' :: (itemLines items ++ rest))) := by
  simp [itemLines]

theorem items?_cons {s rest : Text} {v : Value} {fuel depth : Nat} (unclosed : s.head? ≠ some ']')
    (read : value? fuel depth s = some (v, rest)) :
    items? (fuel + 1) depth s = (skipBlanks? false rest).bind fun r =>
      match r with
      | ',' :: r =>
        (skipBlanks? false r).bind fun r =>
          (items? fuel depth r).map fun (more, rest) => (v :: more, rest)
      | ']' :: rest => some ([v], rest)
      | _ => none := by
  rw [items?, read]
  · rfl
  · rintro r rfl
    exact unclosed rfl

theorem head?_string (s rest : Text) : (Printer.string s ++ rest).head? ≠ some ']' := by
  obtain ⟨quote, b, written, rfl | rfl⟩ := string_cons s
  · simp [written]
  · simp [written]

theorem items?_comma (item rest : Text) (fuel depth : Nat) :
    items? (fuel + 2) depth (Printer.string item ++ ',' :: rest) =
      (skipBlanks? false rest).bind fun r =>
        (items? (fuel + 1) depth r).map fun (more, rest) => (.text item :: more, rest) := by
  rw [items?_cons (head?_string item _) (value?_string (by simp) (by simp) fuel depth)]
  rfl

theorem items?_last (item rest : Text) (fuel depth : Nat) :
    items? (fuel + 2) depth (Printer.string item ++ ']' :: rest) = some ([.text item], rest) := by
  rw [items?_cons (head?_string item _) (value?_string (by simp) (by simp) fuel depth)]
  rfl

theorem items?_itemLines (items : List Text) (rest : Text) {fuel : Nat}
    (enough : items.length + 2 ≤ fuel) (depth : Nat) :
    (skipBlanks? false (itemLines items ++ rest)).bind (items? fuel depth ·) =
      some (items.map .text, rest) := by
  induction items generalizing fuel with
  | nil =>
    obtain ⟨fuel, rfl⟩ : ∃ n, fuel = n + 1 := ⟨fuel - 1, by simp at enough; omega⟩
    rfl
  | cons item items ih =>
    rw [List.length_cons] at enough
    obtain ⟨fuel, rfl⟩ : ∃ n, fuel = n + 2 := ⟨fuel - 2, by omega⟩
    rw [itemLines_cons]
    have blanks : skipBlanks? false
        (List.replicate 4 ' ' ++ (Printer.string item ++ (',' :: '\n' :: (itemLines items ++ rest)))) =
        some (Printer.string item ++ (',' :: '\n' :: (itemLines items ++ rest))) :=
      skipBlanks?_string item _
    have feed : skipBlanks? false ('\n' :: (itemLines items ++ rest)) =
        skipBlanks? false (itemLines items ++ rest) := rfl
    have more := ih (by omega : items.length + 2 ≤ fuel + 1)
    obtain ⟨r, hr, more⟩ := Option.bind_eq_some_iff.1 more
    rw [blanks, Option.bind_some, items?_comma]
    simp only [feed, hr, Option.bind_some, more, Option.map_some, List.map_cons]

theorem value?_list {r r' : Text} (blanks : skipBlanks? false r = some r') (fuel depth : Nat) :
    value? (fuel + 1) (depth + 1) ('[' :: r) =
      (items? fuel depth r').map fun (items, rest) => (.list items, rest) := by
  rw [value?, if_neg (by omega), blanks]
  rfl

theorem value?_strings (items : List Text) (rest : Text) {fuel : Nat}
    (enough : items.length + 3 ≤ fuel) (depth : Nat) :
    value? fuel (depth + 1) (strings items ++ rest) = some (.list (items.map .text), rest) := by
  obtain ⟨fuel, rfl⟩ : ∃ n, fuel = n + 3 := ⟨fuel - 3, by omega⟩
  unfold strings
  split
  · rfl
  · next item =>
    have blanks := skipBlanks?_string item (']' :: rest)
    rw [List.cons_append, List.cons_append, List.append_assoc, List.singleton_append,
      value?_list blanks, items?_last]
    rfl
  · have lines := items?_itemLines items rest (by omega : items.length + 2 ≤ fuel + 2) depth
    obtain ⟨r, hr, read⟩ := Option.bind_eq_some_iff.1 lines
    have blanks : skipBlanks? false ('\n' :: (itemLines items ++ rest)) = some r := hr
    have written : "[\n".toList ++ items.flatMap (fun item => List.replicate 4 ' ' ++
        Printer.string item ++ ",\n".toList) ++ [']'] ++ rest =
        '[' :: '\n' :: (itemLines items ++ rest) := by
      simp [itemLines]
    rw [written, value?_list blanks, read]
    rfl

end Lists

section Numbers

variable {ds rest : Text} {stop : Char}

theorem head?_ofNat {n : Nat} (h : 0 < n) : (Numeral.ofNat n).head? ≠ some '0' := by
  induction n using Nat.strongRecOn with
  | ind n ih =>
    by_cases small : n < 10
    · rw [Numeral.ofNat, Nat.toDigits_of_lt_base small]
      revert h small
      have : ∀ n < 10, 0 < n → [n.digitChar].head? ≠ some '0' := by decide
      exact fun h small => this n small h
    · have smaller := ih (n / 10) (by omega) (by omega)
      obtain ⟨d, ds, written⟩ : ∃ d ds, Nat.toDigits 10 (n / 10) = d :: ds :=
        List.exists_cons_of_ne_nil Nat.toDigits_ne_nil
      rw [Numeral.ofNat, written] at smaller
      rw [Numeral.ofNat, Nat.toDigits_of_base_le (by decide) (by omega), written]
      exact smaller

theorem ne_of_isDigit {d c : Char} (h : d.isDigit = true) (other : c.isDigit = false) : d ≠ c := by
  rintro rfl
  rw [h] at other
  cases other

def EndsNumber (c : Char) : Prop := c = ' ' ∨ c = '\n'

theorem EndsNumber.not_isDigit (h : EndsNumber stop) : stop.isDigit = false := by
  rcases h with rfl | rfl <;> decide

theorem digits?_digits (ends : EndsNumber stop) (all : ∀ c ∈ ds, c.isDigit = true) {k v : Nat}
    {s : Text} (h : Moment.digits? k (ds ++ stop :: rest) = some (v, s)) :
    ∃ more, s = more ++ stop :: rest ∧ ∀ c ∈ more, c.isDigit = true := by
  simp only [Moment.digits?] at h
  split at h
  · next fits =>
    simp only [Bool.and_eq_true, decide_eq_true_eq] at fits
    cases h
    have enough : k ≤ ds.length := by
      rcases Nat.lt_or_ge ds.length k with beyond | enough
      · have stops : stop ∈ (ds ++ stop :: rest).take k := by
          rw [List.take_append, List.mem_append]
          right
          obtain ⟨extra, he⟩ : ∃ extra, k - ds.length = extra + 1 := ⟨k - ds.length - 1, by omega⟩
          simp [he]
        exact absurd (List.all_eq_true.1 fits.2 _ stops) (by simp [ends.not_isDigit])
      · exact enough
    exact ⟨ds.drop k, List.drop_append_of_le_length enough,
      fun c hc => all c (List.mem_of_mem_drop hc)⟩
  · cases h

theorem expect?_digits (all : ∀ c ∈ ds, c.isDigit = true) {mark : Char} (h : mark.isDigit = false)
    (other : stop ≠ mark) : Moment.expect? mark (ds ++ stop :: rest) = none := by
  cases ds with
  | nil => simp [Moment.expect?, other]
  | cons d ds =>
    have other : d ≠ mark := ne_of_isDigit (all d (by simp)) h
    simp [Moment.expect?, other]

theorem read?_digits (ends : EndsNumber stop) (all : ∀ c ∈ ds, c.isDigit = true) :
    Moment.read? (ds ++ stop :: rest) = none := by
  have noHyphen : stop ≠ '-' := by rcases ends with rfl | rfl <;> decide
  have noColon : stop ≠ ':' := by rcases ends with rfl | rfl <;> decide
  have noDate : Moment.date? (ds ++ stop :: rest) = none := by
    rw [Moment.date?]
    cases h : Moment.digits? 4 (ds ++ stop :: rest) with
    | none => rfl
    | some year =>
      obtain ⟨more, same, all⟩ := digits?_digits ends all h
      have stops : Moment.expect? '-' (more ++ stop :: rest) = none :=
        expect?_digits all (by decide) noHyphen
      simp [same, stops]
  have noTime : Moment.time? (ds ++ stop :: rest) = none := by
    rw [Moment.time?]
    cases h : Moment.digits? 2 (ds ++ stop :: rest) with
    | none => rfl
    | some hour =>
      obtain ⟨more, same, all⟩ := digits?_digits ends all h
      have stops : Moment.expect? ':' (more ++ stop :: rest) = none :=
        expect?_digits all (by decide) noColon
      simp [same, stops]
  rw [Moment.read?, noDate, noTime]
  rfl

theorem moreDigits?_digits (ends : EndsNumber stop) (all : ∀ c ∈ ds, c.isDigit = true) :
    moreDigits? Char.isDigit (ds ++ stop :: rest) = some (ds, stop :: rest) := by
  induction ds with
  | nil => rcases ends with rfl | rfl <;> rfl
  | cons d ds ih =>
    have isDigit : d.isDigit = true := all d (by simp)
    rw [List.cons_append, moreDigits?, if_pos isDigit, ih fun c hc => all c (by simp [hc])]
    · rfl
    · exact fun _ _ e => absurd e (ne_of_isDigit isDigit (by decide))

theorem number?_digits (ends : EndsNumber stop) {d : Char} (zero : d ≠ '0')
    (all : ∀ c ∈ d :: ds, c.isDigit = true) :
    number? (d :: ds ++ stop :: rest) = (integer? false (d :: ds)).map (·, stop :: rest) := by
  have isDigit : d.isDigit = true := all d (by simp)
  have start {c : Char} {r : Text} (h : c.isDigit = false) : d :: ds ++ stop :: rest ≠ c :: r :=
    fun e => ne_of_isDigit isDigit h (List.cons.inj e).1
  have sign : Binary64.splitSign (d :: ds ++ stop :: rest) = (false, d :: ds ++ stop :: rest) := by
    rw [Binary64.splitSign]
    · exact fun _ => start (by decide)
    · exact fun _ => start (by decide)
  have whole : wholePart? (d :: ds ++ stop :: rest) = some (d :: ds, stop :: rest) := by
    rw [wholePart?]
    · rw [List.cons_append, digits?, if_pos isDigit, ← List.cons_append, moreDigits?_digits ends all]
    · exact fun _ e => zero (List.cons.inj e).1
  have decimal : decimal? false (d :: ds ++ stop :: rest) =
      (integer? false (d :: ds)).map (·, stop :: rest) := by
    rw [decimal?, whole]
    rcases ends with rfl | rfl <;> rfl
  rw [number?, sign]
  dsimp only
  split
  · next e => exact absurd e (start (by decide))
  · next e => exact absurd e (start (by decide))
  · split
    · next e => exact absurd (List.cons.inj e).1 zero
    · next e => exact absurd (List.cons.inj e).1 zero
    · next e => exact absurd (List.cons.inj e).1 zero
    · exact decimal

theorem value?_numeral (ends : EndsNumber stop) (n fuel depth : Nat) :
    value? (fuel + 1) depth (Numeral.ofNat n ++ stop :: rest) =
      if n < twoTo 63 then some (.integer n, stop :: rest) else none := by
  have all : ∀ c ∈ Numeral.ofNat n, c.isDigit = true := fun c => Numeral.isDigit_of_mem_ofNat
  have noMoment : Moment.read? (Numeral.ofNat n ++ stop :: rest) = none := read?_digits ends all
  obtain ⟨d, ds, written⟩ : ∃ d ds, Numeral.ofNat n = d :: ds :=
    List.exists_cons_of_ne_nil Nat.toDigits_ne_nil
  have number : number? (Numeral.ofNat n ++ stop :: rest) =
      if n < twoTo 63 then some (.integer n, stop :: rest) else none := by
    rcases Nat.eq_zero_or_pos n with rfl | positive
    · rcases ends with rfl | rfl <;> rfl
    · have zero : d ≠ '0' := by
        rintro rfl
        exact head?_ofNat positive (by rw [written]; rfl)
      rw [written] at all ⊢
      rw [number?_digits ends zero all, ← written, integer?, Numeral.value_ofNat, if_neg (by decide)]
      split <;> rfl
  have isDigit : d.isDigit = true := all d (by simp [written])
  have other {c : Char} (h : c.isDigit = false) : d ≠ c := ne_of_isDigit isDigit h
  have quotes : ¬ (d = '"' || d = '\'') = true := by
    simp only [Bool.or_eq_true, decide_eq_true_eq, not_or]
    exact ⟨other (by decide), other (by decide)⟩
  rw [written, List.cons_append] at noMoment number ⊢
  rw [value?_cons (other (by decide)) (other (by decide)) (other (by decide)) (other (by decide)),
    if_neg quotes, noMoment]
  exact number

end Numbers

end PlatformLauncher.Toml
