import PlatformLauncher.Toml.Printer
import PlatformLauncher.Toml.Strings

/-!
Strings read back as they were written, whichever quotes they took. Main statement:
`string?_string`.
-/
namespace PlatformLauncher.Toml
open Printer

def leading (mark : Char) (s : Text) : Nat := (s.takeWhile (· == mark)).length

theorem leading_cons_self (mark : Char) (s : Text) : leading mark (mark :: s) = leading mark s + 1 := by
  simp [leading]

theorem leading_cons_of_ne {mark c : Char} (h : c ≠ mark) (s : Text) : leading mark (c :: s) = 0 := by
  simp [leading, h]

theorem leading_of_all {mark : Char} {s : Text} (all : ∀ c ∈ s, c = mark) :
    leading mark s = s.length := by
  induction s with
  | nil => rfl
  | cons c s ih =>
    cases all c (by simp)
    rw [leading_cons_self, ih fun c hc => all c (by simp [hc]), List.length_cons]

section Closing

variable {quote : Char} {b rest : Text}

theorem closing?_of_all (all : ∀ c ∈ b, c = quote) (short : b.length ≤ 2)
    (apart : rest.head? ≠ some quote) :
    closing? quote (b ++ (quote :: quote :: quote :: rest)) = some (b, rest) := by
  have stop : rest.takeWhile (· == quote) = [] := by
    cases rest with
    | nil => rfl
    | cons c rest =>
      have : c ≠ quote := by simpa using apart
      simp [this]
  have run : (b ++ (quote :: quote :: quote :: rest)).takeWhile (· == quote) =
      b ++ [quote, quote, quote] := by
    rw [List.takeWhile_append_of_pos (by simpa using all)]
    simp [stop]
  have b_eq : b = List.replicate b.length quote := List.eq_replicate_iff.2 ⟨rfl, all⟩
  have length : (b ++ [quote, quote, quote]).length = b.length + 3 := by simp
  have own : min (b.length + 3 - 3) 2 = b.length := by omega
  simp only [closing?, run, length, own]
  rw [if_neg (by omega), ← b_eq, List.drop_append]
  simp [List.drop_eq_nil_of_le]

theorem closing?_of_short (other : ∃ c ∈ b, c ≠ quote) (short : leading quote b ≤ 2) (rest : Text) :
    closing? quote (b ++ rest) = none := by
  have run : ((b ++ rest).takeWhile (· == quote)) = b.takeWhile (· == quote) := by
    rw [List.takeWhile_append, if_neg]
    intro whole
    have same : b.takeWhile (· == quote) = b := (List.takeWhile_prefix _).eq_of_length whole
    obtain ⟨c, hc, differs⟩ := other
    rw [← same] at hc
    exact differs (by simpa using List.all_eq_true.1 List.all_takeWhile c hc)
  have : (b.takeWhile (· == quote)).length < 3 := Nat.lt_succ_of_le short
  simp only [closing?, run, if_pos this]

end Closing

theorem escaped?_escaped {c : Char} (h : c.toNat < 0x80) :
    ∃ x tail, escaped c = '\\' :: x :: tail ∧ isSpace x = false ∧ x ≠ '\n' ∧ x ≠ '\r' ∧
      ∀ rest, escaped? (x :: tail ++ rest) = some (c, tail.length + 1) := by
  unfold escaped
  split
  case h_8 =>
    have known : ∀ n < 0x80, scalar? (hex4 n) = some (Char.ofNat n) := by decide +kernel
    refine ⟨'u', hex4 c.toNat, rfl, by decide, by decide, by decide, fun rest => ?_⟩
    have length : (hex4 c.toNat).length = 4 := by simp [hex4]
    have taken : (hex4 c.toNat ++ rest).take 4 = hex4 c.toNat := by
      rw [← length, List.take_left]
    have enough : 4 ≤ (hex4 c.toNat ++ rest).length := by
      rw [List.length_append, length]
      omega
    rw [List.cons_append, escaped?, if_pos enough, taken, known _ h, Char.ofNat_toNat, length]
    rfl
  all_goals exact ⟨_, [], rfl, by decide, by decide, by decide, fun rest => rfl⟩

theorem toNat_lt_of_odd {c : Char}
    (odd : (c.toNat < 0x20 || c.toNat = 0x7F || c = '\\') = true) : c.toNat < 0x80 := by
  simp only [Bool.or_eq_true, decide_eq_true_eq] at odd
  rcases odd with (low | del) | rfl
  · omega
  · omega
  · decide

theorem isPlain_of_not_odd {c : Char}
    (plain : ¬ (c.toNat < 0x20 || c.toNat = 0x7F || c = '\\') = true) :
    isPlain c = true ∧ c ≠ '\\' := by
  simp only [Bool.or_eq_true, decide_eq_true_eq, not_or] at plain
  refine ⟨?_, plain.2⟩
  simp only [isPlain, Bool.or_eq_true, Bool.and_eq_true, decide_eq_true_eq]
  omega

theorem ne_feed_of_isPlain {c : Char} (plain : isPlain c = true) : c ≠ '\n' := by
  rintro rfl
  exact absurd plain (by decide)

theorem ne_return_of_isPlain {c : Char} (plain : isPlain c = true) : c ≠ '\r' := by
  rintro rfl
  exact absurd plain (by decide)

section OneLine

theorem basic_skip (held rest : Text) : basic held.length (held ++ rest) = basic 0 rest := by
  induction held with
  | nil => rfl
  | cons c held ih => exact ih

theorem basic_escaped {c : Char} (h : c.toNat < 0x80) (rest : Text) :
    basic 0 (escaped c ++ rest) = (basic 0 rest).map (putFront c) := by
  obtain ⟨x, tail, written, -, -, -, read⟩ := escaped?_escaped h
  have skip := basic_skip (x :: tail) rest
  rw [written, List.cons_append, basic, if_neg (by decide), if_pos rfl, read rest]
  exact congrArg (Option.map (putFront c)) skip

theorem basic_basicBody (s : Text) (run : Nat) (rest : Text) :
    basic 0 (basicBody false run s ++ '"' :: rest) = some (s, rest) := by
  induction s generalizing run with
  | nil => rfl
  | cons c s ih =>
    rw [basicBody]
    by_cases quote : c = '"'
    · subst quote
      rw [if_pos rfl, Bool.false_and, if_neg (by decide), List.append_assoc,
        basic_escaped (by decide), ih]
      rfl
    · rw [if_neg quote, Bool.and_false, if_neg (by decide)]
      split
      · next odd =>
        rw [List.append_assoc, basic_escaped (toNat_lt_of_odd odd), ih]
        rfl
      · next plain =>
        obtain ⟨isPlain, back⟩ := isPlain_of_not_odd plain
        rw [List.cons_append, basic, if_neg quote, if_neg back, if_pos isPlain, ih]
        rfl

theorem literal_append {s : Text} (plain : ∀ c ∈ s, isPlain c = true ∧ c ≠ '\'') (rest : Text) :
    literal (s ++ '\'' :: rest) = some (s, rest) := by
  induction s with
  | nil => rfl
  | cons c s ih =>
    obtain ⟨isPlain, other⟩ := plain c (by simp)
    rw [List.cons_append, literal, if_neg other, if_pos isPlain,
      ih fun c hc => plain c (by simp [hc])]
    rfl

end OneLine

section SeveralLines

theorem basicLines_skip (held rest : Text) :
    basicLines (.held held.length) (held ++ rest) = basicLines (.held 0) rest := by
  induction held with
  | nil => rfl
  | cons c held ih => exact ih

/-- One step of the reader outside escapes. What it does at a carriage return is left open, as none is
written. -/
theorem basicLines_cons (c : Char) (rest : Text) : ∃ atReturn, basicLines (.held 0) (c :: rest) =
    if c = '\n' then (basicLines (.held 0) rest).map (putFront '\n')
    else if c = '\r' then atReturn
    else if c = '"' then
      match closing? '"' (c :: rest) with
      | some end_ => some end_
      | none => (basicLines (.held 0) rest).map (putFront c)
    else if c = '\\' then
      if startsFeed (rest.dropWhile isSpace) then basicLines .joining rest
      else
        match escaped? rest with
        | some (x, width) => (basicLines (.held width) rest).map (putFront x)
        | none => none
    else if isPlain c then (basicLines (.held 0) rest).map (putFront c)
    else none :=
  ⟨_, rfl⟩

theorem basicLines_feed (rest : Text) :
    basicLines (.held 0) ('\n' :: rest) = (basicLines (.held 0) rest).map (putFront '\n') := rfl

theorem basicLines_quote (rest : Text) :
    basicLines (.held 0) ('"' :: rest) =
      match closing? '"' ('"' :: rest) with
      | some end_ => some end_
      | none => (basicLines (.held 0) rest).map (putFront '"') := by
  obtain ⟨_, step⟩ := basicLines_cons '"' rest
  rw [step, if_neg (by decide), if_neg (by decide), if_pos rfl]

theorem basicLines_plain {c : Char} (plain : isPlain c = true) (quote : c ≠ '"') (back : c ≠ '\\')
    (rest : Text) :
    basicLines (.held 0) (c :: rest) = (basicLines (.held 0) rest).map (putFront c) := by
  obtain ⟨_, step⟩ := basicLines_cons c rest
  rw [step, if_neg (ne_feed_of_isPlain plain), if_neg (ne_return_of_isPlain plain), if_neg quote,
    if_neg back, if_pos plain]

theorem basicLines_escaped {c : Char} (h : c.toNat < 0x80) (rest : Text) :
    basicLines (.held 0) (escaped c ++ rest) = (basicLines (.held 0) rest).map (putFront c) := by
  obtain ⟨x, tail, written, space, feed, carriage, read⟩ := escaped?_escaped h
  have skip := basicLines_skip (x :: tail) rest
  have stays : startsFeed ((x :: tail ++ rest).dropWhile isSpace) = false := by
    rw [List.cons_append, List.dropWhile_cons_of_neg (by simp [space])]
    unfold startsFeed
    split
    · next h => exact absurd (List.cons.inj h).1 feed
    · next h => exact absurd (List.cons.inj h).1 carriage
    · rfl
  obtain ⟨_, step⟩ := basicLines_cons '\\' (x :: tail ++ rest)
  rw [written, List.cons_append, step, if_neg (by decide), if_neg (by decide),
    if_neg (by decide), if_pos rfl, if_neg (ne_true_of_eq_false stays), read rest]
  exact congrArg (Option.map (putFront c)) skip

/-- The counter of the writer keeps its runs of quotes below three. -/
theorem leading_basicBody (s : Text) (run : Nat) : leading '"' (basicBody true run s) ≤ 2 - run := by
  induction s generalizing run with
  | nil => simp [basicBody, leading]
  | cons c s ih =>
    have other : leading '"' (escaped c ++ basicBody true 0 s) = 0 := by
      unfold escaped
      split <;> exact leading_cons_of_ne (by decide) _
    rw [basicBody]
    split
    · next quote =>
      subst quote
      split
      · next few =>
        have := ih (run + 1)
        simp only [Bool.true_and, decide_eq_true_eq] at few
        rw [leading_cons_self]
        omega
      · omega
    · next quote =>
      split
      · rw [leading_cons_of_ne quote]
        omega
      · split
        · omega
        · rw [leading_cons_of_ne quote]
          omega

theorem basicBody_of_all (s : Text) (run : Nat) (all : ∀ c ∈ basicBody true run s, c = '"') :
    basicBody true run s = s := by
  induction s generalizing run with
  | nil => rfl
  | cons c s ih =>
    have other : ¬ ∀ d ∈ escaped c ++ basicBody true 0 s, d = '"' := by
      unfold escaped
      split <;> exact fun all => absurd (all '\\' (by simp)) (by decide)
    rw [basicBody] at all ⊢
    split at all
    · next quote =>
      rw [if_pos quote]
      split at all
      · next few =>
        rw [if_pos few, ih (run + 1) fun d hd => all d (by simp [hd])]
      · exact absurd all other
    · next quote =>
      split at all
      · exact absurd (all c (by simp)) quote
      · split at all
        · exact absurd all other
        · exact absurd (all c (by simp)) quote

theorem basicLines_basicBody (s : Text) (run : Nat) {rest : Text} (apart : rest.head? ≠ some '"') :
    basicLines (.held 0) (basicBody true run s ++ ('"' :: '"' :: '"' :: rest)) = some (s, rest) := by
  induction s generalizing run with
  | nil =>
    have closes : closing? '"' ('"' :: '"' :: '"' :: rest) = some ([], rest) :=
      closing?_of_all (b := []) (by simp) (by simp) apart
    rw [basicBody, List.nil_append, basicLines_quote, closes]
  | cons c s ih =>
    rw [basicBody]
    split
    · next quote =>
      subst quote
      split
      · next few =>
        simp only [Bool.true_and, decide_eq_true_eq] at few
        have runs := leading_basicBody s (run + 1)
        have short : leading '"' ('"' :: basicBody true (run + 1) s) ≤ 2 := by
          rw [leading_cons_self]
          omega
        rw [List.cons_append, basicLines_quote, ← List.cons_append]
        by_cases all : ∀ d ∈ '"' :: basicBody true (run + 1) s, d = '"'
        · have same := basicBody_of_all s (run + 1) fun d hd => all d (by simp [hd])
          rw [closing?_of_all all (leading_of_all all ▸ short) apart, same]
        · simp only [Classical.not_forall] at all
          obtain ⟨d, hd, differs⟩ := all
          rw [closing?_of_short ⟨d, hd, differs⟩ short, ih]
          rfl
      · rw [List.append_assoc, basicLines_escaped (by decide), ih]
        rfl
    · next quote =>
      split
      · next feed =>
        simp only [Bool.and_true, decide_eq_true_eq] at feed
        subst feed
        rw [List.cons_append, basicLines_feed, ih]
        rfl
      · next feed =>
        simp only [Bool.and_true, decide_eq_true_eq] at feed
        split
        · next odd =>
          rw [List.append_assoc, basicLines_escaped (toNat_lt_of_odd odd), ih]
          rfl
        · next plain =>
          obtain ⟨isPlain, back⟩ := isPlain_of_not_odd plain
          rw [List.cons_append, basicLines_plain isPlain quote back, ih]
          rfl

theorem le_longestRun (mark : Char) (s : Text) (run longest : Nat) :
    run + leading mark s ≤ longestRun mark run longest s ∧
      longest ≤ longestRun mark run longest s := by
  induction s generalizing run longest with
  | nil =>
    simp only [longestRun, leading, List.takeWhile_nil, List.length_nil]
    omega
  | cons c s ih =>
    rw [longestRun]
    split
    · next same =>
      subst same
      have := ih (run + 1) longest
      rw [leading_cons_self]
      omega
    · next other =>
      have := ih 0 (max run longest)
      rw [leading_cons_of_ne other]
      omega

theorem leading_le_longestRun {mark : Char} {s t : Text} (h : t <:+ s) (run longest : Nat) :
    leading mark t ≤ longestRun mark run longest s := by
  induction s generalizing run longest with
  | nil =>
    cases List.suffix_nil.1 h
    exact Nat.zero_le _
  | cons c s ih =>
    rcases List.suffix_cons_iff.1 h with rfl | h
    · have := (le_longestRun mark (c :: s) run longest).1
      omega
    · rw [longestRun]
      split
      · exact ih h _ _
      · exact ih h _ _

theorem literalLines_append {s rest : Text} (plain : ∀ c ∈ s, isPlain c = true ∨ c = '\n')
    (short : ∀ t, t <:+ s → leading '\'' t ≤ 2) (apart : rest.head? ≠ some '\'') :
    literalLines (s ++ ('\'' :: '\'' :: '\'' :: rest)) = some (s, rest) := by
  induction s with
  | nil =>
    have closes : closing? '\'' ('\'' :: '\'' :: '\'' :: rest) = some ([], rest) :=
      closing?_of_all (b := []) (by simp) (by simp) apart
    rw [List.nil_append, literalLines, if_neg (by decide), if_neg (by decide), if_pos rfl, closes]
  | cons c s ih =>
    have rest_read := ih (fun c hc => plain c (by simp [hc]))
      fun t ht => short t (ht.trans (List.suffix_cons c s))
    rw [List.cons_append, literalLines]
    by_cases feed : c = '\n'
    · subst feed
      rw [if_pos rfl, rest_read]
      rfl
    · have isPlain : isPlain c = true := (plain c (by simp)).resolve_right feed
      rw [if_neg feed, if_neg (ne_return_of_isPlain isPlain)]
      split
      · next quote =>
        subst quote
        have run := short _ (List.suffix_refl _)
        rw [← List.cons_append]
        by_cases all : ∀ d ∈ '\'' :: s, d = '\''
        · rw [closing?_of_all all (leading_of_all all ▸ run) apart]
        · simp only [Classical.not_forall] at all
          obtain ⟨d, hd, differs⟩ := all
          rw [closing?_of_short ⟨d, hd, differs⟩ run, rest_read]
          rfl
      · rw [rest_read]
        rfl

end SeveralLines

theorem plain_of_any {s : Text} (h : s.any needsEscape = false) :
    ∀ c ∈ s, isPlain c = true ∨ c = '\n' := by
  intro c hc
  have := List.any_eq_false.1 h c hc
  by_cases feed : c = '\n'
  · exact .inr feed
  · left
    by_cases tab : c = '\t'
    · simp [isPlain, tab]
    · simp [needsEscape, feed, tab] at this
      simp [isPlain, tab, this]

theorem ne_of_leading {mark : Char} {s : Text} (none : ∀ t, t <:+ s → leading mark t = 0) :
    ∀ c ∈ s, c ≠ mark := by
  rintro c hc rfl
  obtain ⟨before, after, rfl⟩ := List.append_of_mem hc
  have := none (c :: after) (List.suffix_append before _)
  rw [leading_cons_self] at this
  omega

theorem dropFeed_opened {s body : Text} (start : '\n' ∉ s → body.head? ≠ some '\n' ∧
    body.head? ≠ some '\r') : dropFeed (opened s ++ body) = body := by
  unfold opened
  split
  · rfl
  · next none =>
    obtain ⟨feed, carriage⟩ := start (by simpa using none)
    rw [List.nil_append]
    unfold dropFeed
    split
    · simp at feed
    · simp at carriage
    · rfl

theorem literal_of_quotesFor {s : Text} (h : quotesFor s = .literal) :
    s.any needsEscape = false ∧ '\n' ∉ s ∧ longestRun '\'' 0 0 s = 0 := by
  simp only [quotesFor] at h
  split at h
  · cases h
  split at h
  · next fits => simpa [and_assoc] using fits
  split at h
  · cases h
  split at h
  · cases h
  split at h
  · cases h
  · cases h

theorem literalLines_of_quotesFor {s : Text} (h : quotesFor s = .literalLines) :
    s.any needsEscape = false ∧ longestRun '\'' 0 0 s ≤ 2 := by
  simp only [quotesFor] at h
  split at h
  · cases h
  split at h
  · cases h
  split at h
  · cases h
  split at h
  · next fits => simpa using fits
  split at h
  · cases h
  · cases h

theorem head?_basicBody_false (s : Text) (run : Nat) :
    (basicBody false run s).head? ≠ some '"' := by
  cases s with
  | nil => simp [basicBody]
  | cons c s =>
    have other (t : Text) : (escaped c ++ t).head? ≠ some '"' := by
      unfold escaped
      split <;> simp
    rw [basicBody]
    split
    · exact other _
    · next quote =>
      split
      · simpa using quote
      · split
        · exact other _
        · simpa using quote

theorem head?_basicBody_true {s : Text} (none : '\n' ∉ s) (run : Nat) (rest : Text) :
    (basicBody true run s ++ '"' :: rest).head? ≠ some '\n' ∧
      (basicBody true run s ++ '"' :: rest).head? ≠ some '\r' := by
  cases s with
  | nil => simp [basicBody]
  | cons c s =>
    have other (t : Text) : (escaped c ++ t).head? = some '\\' := by
      unfold escaped
      split <;> rfl
    rw [basicBody]
    split
    · next quote =>
      subst quote
      split <;> simp [other]
    · split
      · next feed => simp_all
      · split
        · simp [other]
        · next plain =>
          have isPlain := (isPlain_of_not_odd plain).1
          exact ⟨fun e => ne_feed_of_isPlain isPlain (Option.some.inj e),
            fun e => ne_return_of_isPlain isPlain (Option.some.inj e)⟩

theorem string?_oneLine_basic {r : Text} (h : ∀ r', r ≠ '"' :: '"' :: r') :
    string? ('"' :: r) = basic 0 r := by
  unfold string?
  split
  · next r' e => exact absurd (List.cons.inj e).2 (h r')
  · next e => rw [(List.cons.inj e).2]
  · next e => exact absurd (List.cons.inj e).1 (by decide)
  · next e => exact absurd (List.cons.inj e).1 (by decide)
  · next e _ _ => exact absurd rfl (e r)

theorem string?_oneLine_literal {r : Text} (h : ∀ r', r ≠ '\'' :: '\'' :: r') :
    string? ('\'' :: r) = literal r := by
  unfold string?
  split
  · next e => exact absurd (List.cons.inj e).1 (by decide)
  · next e => exact absurd (List.cons.inj e).1 (by decide)
  · next r' e => exact absurd (List.cons.inj e).2 (h r')
  · next e => rw [(List.cons.inj e).2]
  · next e => exact absurd rfl (e r)

section Kinds

variable {s rest : Text}

theorem string?_basic (apart : rest.head? ≠ some '"') :
    string? ('"' :: (basicBody false 0 s ++ '"' :: rest)) = some (s, rest) := by
  have single : ∀ r, basicBody false 0 s ++ '"' :: rest ≠ '"' :: '"' :: r := by
    intro r e
    cases hb : basicBody false 0 s with
    | nil =>
      rw [hb, List.nil_append] at e
      rw [(List.cons.inj e).2] at apart
      exact apart rfl
    | cons c b =>
      have first := head?_basicBody_false s 0
      rw [hb] at e first
      rw [(List.cons.inj e).1] at first
      exact first rfl
  rw [string?_oneLine_basic single, basic_basicBody]

theorem string?_literal (quotes : quotesFor s = .literal) :
    string? ('\'' :: (s ++ '\'' :: rest)) = some (s, rest) := by
  obtain ⟨controls, feed, none⟩ := literal_of_quotesFor quotes
  have others : ∀ c ∈ s, c ≠ '\'' :=
    ne_of_leading fun t ht => Nat.le_zero.1 (none ▸ leading_le_longestRun ht 0 0)
  have plain : ∀ c ∈ s, isPlain c = true ∧ c ≠ '\'' := fun c hc =>
    ⟨(plain_of_any controls c hc).resolve_right fun e => feed (e ▸ hc), others c hc⟩
  have single : ∀ r, s ++ '\'' :: rest ≠ '\'' :: '\'' :: r := by
    intro r e
    cases s with
    | nil => exact absurd quotes (by decide)
    | cons c s => exact others c (by simp) (List.cons.inj e).1
  rw [string?_oneLine_literal single, literal_append plain]

theorem string?_basicLines (apart : rest.head? ≠ some '"') :
    string? ("\"\"\"".toList ++ (opened s ++ (basicBody true 0 s ++ ("\"\"\"".toList ++ rest)))) =
      some (s, rest) := by
  have kept : dropFeed (opened s ++ (basicBody true 0 s ++ '"' :: '"' :: '"' :: rest)) =
      basicBody true 0 s ++ '"' :: '"' :: '"' :: rest :=
    dropFeed_opened fun none => head?_basicBody_true none 0 _
  calc
    _ = basicLines (.held 0)
          (dropFeed (opened s ++ (basicBody true 0 s ++ '"' :: '"' :: '"' :: rest))) := rfl
    _ = some (s, rest) := by rw [kept, basicLines_basicBody s 0 apart]

theorem string?_literalLines (quotes : quotesFor s = .literalLines)
    (apart : rest.head? ≠ some '\'') :
    string? ("'''".toList ++ (opened s ++ (s ++ ("'''".toList ++ rest)))) = some (s, rest) := by
  obtain ⟨controls, few⟩ := literalLines_of_quotesFor quotes
  have plain := plain_of_any controls
  have short : ∀ t, t <:+ s → leading '\'' t ≤ 2 := fun t ht =>
    Nat.le_trans (leading_le_longestRun ht 0 0) few
  have kept : dropFeed (opened s ++ (s ++ '\'' :: '\'' :: '\'' :: rest)) =
      s ++ '\'' :: '\'' :: '\'' :: rest := by
    refine dropFeed_opened fun none => ?_
    cases s with
    | nil => simp
    | cons c s =>
      have isPlain := (plain c (by simp)).resolve_right fun e => none (e ▸ List.mem_cons_self)
      exact ⟨fun e => ne_feed_of_isPlain isPlain (Option.some.inj e),
        fun e => ne_return_of_isPlain isPlain (Option.some.inj e)⟩
  calc
    _ = literalLines (dropFeed (opened s ++ (s ++ '\'' :: '\'' :: '\'' :: rest))) := rfl
    _ = some (s, rest) := by rw [kept, literalLines_append plain short apart]

end Kinds

theorem string?_string {s rest : Text} (double : rest.head? ≠ some '"')
    (single : rest.head? ≠ some '\'') : string? (Printer.string s ++ rest) = some (s, rest) := by
  unfold Printer.string
  split
  · rw [List.cons_append, List.cons_append, List.append_assoc, List.singleton_append,
      string?_basic double]
  · next quotes =>
    rw [List.cons_append, List.cons_append, List.append_assoc, List.singleton_append,
      string?_literal quotes]
  · have read := string?_basicLines (s := s) double
    simpa only [List.append_assoc] using read
  · next quotes =>
    have read := string?_literalLines quotes single
    simpa only [List.append_assoc] using read

end PlatformLauncher.Toml
