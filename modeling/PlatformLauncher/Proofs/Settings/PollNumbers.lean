import PlatformLauncher.Proofs.Number.Rounding
import PlatformLauncher.Proofs.Settings.SingleLeaf
import PlatformLauncher.Proofs.Toml.Layouts

/-!
The numbers that bound the polling, from the digits in a file or a variable to the settings. A document
with a number of 64 bits or more is refused; a variable takes such a number for a float, which is
rounded. Main statement: `loadFrom_pollNumber`, where nothing is rounded the settings have the number
that is written or do not load.
-/
namespace PlatformLauncher

namespace Environment

variable {digits : Text}

/-- The number that the digits of a variable are taken for: with 64 bits or more, the nearest float. -/
def taken (digits : Text) : Nat :=
  if Numeral.value digits < twoTo 63 then Numeral.value digits
  else (Binary64.ofDecimal false digits 0).toNatWithin (twoTo 64 - 1)

theorem twoTo_le_taken (large : twoTo 63 ≤ Numeral.value digits) : twoTo 63 ≤ taken digits := by
  rw [taken, if_neg (Nat.not_lt.2 large)]
  exact Binary64.twoTo_le_ofDecimal (by decide) large (by decide)

theorem taken_lt (digits : Text) : taken digits < twoTo 64 := by
  unfold taken
  split
  · next small => exact Nat.lt_trans small (by decide)
  · exact Nat.lt_of_le_of_lt (Binary64.toNatWithin_le _ _) (by decide)

theorem decodeNat_numeral (h : Numeral.IsNumeral digits) (o : Option Text) :
    Layered.decodeNat (.scalar o (scalar digits)) = .ok (taken digits) := by
  have notTrue : Text.lower digits ≠ "true".toList := h.lower_ne rfl (by decide)
  have notFalse : Text.lower digits ≠ "false".toList := h.lower_ne rfl (by decide)
  by_cases small : Numeral.value digits < twoTo 63
  · simp only [scalar, if_neg notTrue, if_neg notFalse, Numeral.readInt?_numeral h, if_pos small,
      taken]
    exact Layered.decodeNat_integer (Int.natCast_nonneg _) o
  · simp only [scalar, if_neg notTrue, if_neg notFalse, Numeral.readInt?_numeral h, if_neg small,
      Binary64.read?_numeral h, taken]
    rfl

end Environment

namespace Settings
open Layered

inductive PollField where
  | attempts
  | intervalMs
deriving DecidableEq, Repr

namespace PollField

def leaf : PollField → Leaf
  | attempts => .attempts
  | intervalMs => .intervalMs

def name : PollField → Text
  | attempts => "attempts".toList
  | intervalMs => "interval_ms".toList

def number : (f : PollField) → f.leaf.kind.Value → Nat
  | attempts, (x : UInt32) => x.toNat
  | intervalMs, (x : UInt64) => x.toNat

def of (f : PollField) (s : Settings) : Nat := f.number (s.get f.leaf)

def Holds : PollField → Nat → Prop
  | attempts, n => 0 < n ∧ n < twoTo 32
  | intervalMs, n => n < twoTo 64

/-- The numbers that can be set: the attempts have 32 bits and are not zero, and no number that is
written has more than 63 bits. -/
def Admits : PollField → Nat → Prop
  | attempts, n => 0 < n ∧ n < twoTo 32
  | intervalMs, n => n < twoTo 63

theorem admits_iff {f : PollField} {n : Nat} : f.Admits n ↔ f.Holds n ∧ n < twoTo 63 := by
  have more : twoTo 32 ≤ twoTo 63 := by decide
  have most : twoTo 63 ≤ twoTo 64 := by decide
  cases f <;> simp only [Admits, Holds] <;> omega

theorem path_leaf (f : PollField) : f.leaf.path = ["poll".toList, f.name] := by
  cases f <;> rfl

theorem isKey_name (f : PollField) : Toml.IsKey f.name := by
  cases f <;> decide

variable {f : PollField} {w : Layered} {e : Text × Layered} {s : Settings} {m : Nat}

theorem decoded_of_decode {root : Layered} (h : root.decode = .ok s)
    (hw : root.at? f.leaf.path = some w) : f.leaf.kind.decode w = .ok (s.get f.leaf) := by
  rw [path_leaf, Layered.at?] at hw
  obtain ⟨part, hp, hw⟩ := Option.bind_eq_some_iff.1 hw
  rw [at?_single] at hw
  have poll := decode_poll h hp
  cases f with
  | attempts => exact decodePoll_attempts poll hw
  | intervalMs => exact decodePoll_intervalMs poll hw

theorem ofLayers_iff (h : SetsOnly f.leaf w e) (replaces : w.replaces = true) :
    ofLayers [] [e] = .ok s ↔
      ∃ x, f.leaf.kind.decode w = .ok x ∧ f.leaf.Sound x ∧ s = standardWith f.leaf x := by
  constructor
  · intro loads
    have stands : (merged [] [e]).at? f.leaf.path = some w := h.at? replaces _
    cases hd : (merged [] [e]).decode with
    | error fault =>
      rw [ofLayers, hd] at loads
      cases loads
    | ok s' =>
      have decoded := decoded_of_decode hd stands
      rw [h.ofLayers replaces decoded] at loads
      exact ⟨_, decoded, checked_standardWith.1 loads⟩
  · rintro ⟨x, decoded, passes⟩
    rw [h.ofLayers replaces decoded]
    exact checked_standardWith.2 passes

theorem decode_iff (counts : decodeNat w = .ok m) (few : m < twoTo 64) {x : f.leaf.kind.Value} :
    f.leaf.kind.decode w = .ok x ∧ f.leaf.Sound x ↔ f.Holds m ∧ f.number x = m := by
  cases f with
  | attempts =>
    change UInt32 at x
    have decoded : decodeUInt32 w = .ok x ↔ m < twoTo 32 ∧ x.toNat = m := by
      simp only [decodeUInt32, counts]
      split
      · next room =>
        rw [Except.ok.injEq]
        constructor
        · rintro rfl
          exact ⟨room, UInt32.toNat_ofNat_of_lt' room⟩
        · rintro ⟨-, rfl⟩
          exact UInt32.ofNat_toNat
      · next large => simp [large]
    have passes : x ≠ 0 ↔ 0 < x.toNat := by
      rw [Nat.pos_iff_ne_zero, Ne, Ne, ← UInt32.toNat_inj]
      rfl
    change decodeUInt32 w = .ok x ∧ x ≠ 0 ↔ (0 < m ∧ m < twoTo 32) ∧ x.toNat = m
    rw [decoded, passes]
    constructor
    · rintro ⟨⟨room, rfl⟩, positive⟩
      exact ⟨⟨positive, room⟩, rfl⟩
    · rintro ⟨⟨positive, room⟩, rfl⟩
      exact ⟨⟨room, rfl⟩, positive⟩
  | intervalMs =>
    change UInt64 at x
    change decodeUInt64 w = .ok x ∧ True ↔ m < twoTo 64 ∧ x.toNat = m
    simp only [decodeUInt64, counts, Except.map, Except.ok.injEq, and_true]
    constructor
    · rintro rfl
      exact ⟨few, UInt64.toNat_ofNat_of_lt' few⟩
    · rintro ⟨-, rfl⟩
      exact UInt64.ofNat_toNat

theorem ofLayers_number (h : SetsOnly f.leaf w e) (replaces : w.replaces = true)
    (counts : decodeNat w = .ok m) (few : m < twoTo 64) :
    ofLayers [] [e] = .ok s ↔
      f.Holds m ∧ f.of s = m ∧ ∀ l, l ≠ f.leaf → s.get l = standard.get l := by
  rw [ofLayers_iff h replaces]
  constructor
  · rintro ⟨x, decoded, sound, rfl⟩
    obtain ⟨holds, number⟩ := (decode_iff counts few).1 ⟨decoded, sound⟩
    refine ⟨holds, ?_, fun l => get_standardWith_of_ne⟩
    rw [of, get_standardWith, number]
  · rintro ⟨holds, number, others⟩
    obtain ⟨decoded, sound⟩ := (decode_iff counts few).2 ⟨holds, number⟩
    exact ⟨_, decoded, sound, eq_standardWith rfl others⟩

theorem exists_of_holds {n : Nat} (h : f.Holds n) :
    ∃ s, f.of s = n ∧ ∀ l, l ≠ f.leaf → s.get l = standard.get l := by
  obtain ⟨x, number⟩ : ∃ x, f.number x = n := by
    cases f with
    | attempts => exact ⟨UInt32.ofNat n, UInt32.toNat_ofNat_of_lt' h.2⟩
    | intervalMs => exact ⟨UInt64.ofNat n, UInt64.toNat_ofNat_of_lt' h⟩
  refine ⟨standardWith f.leaf x, ?_, fun l => get_standardWith_of_ne⟩
  rw [of, get_standardWith, number]

end PollField

/-- A document with the number and nothing else: in one of the layouts, or in any other way that is
read as the number. -/
inductive Written (f : PollField) (n : Nat) : Text → Prop where
  | inLayout (layout : Toml.Layout) : Written f n (Toml.numberText "poll".toList f.name n layout)
  | document {text : Text} (few : n < twoTo 63)
    (read : Toml.read text = .ok [("poll".toList, .table [(f.name, .integer n)])]) : Written f n text

def Foreign (environment : List (Text × Text)) : Prop :=
  ∀ e ∈ environment, Text.startsWith (Text.lower e.1) Environment.namePrefix = false

/-- The ways to set the number in a file, or in a variable, and nothing else. -/
inductive SetsNumber (t : Tree) (here : Location) (f : PollField) (n : Nat) :
    Option SettingsFile → List (Text × Text) → Prop where
  | inFile {file : SettingsFile} {text origin : Text} {environment : List (Text × Text)}
    (there : file.required = true → t.exists_ here file.path = true)
    (holds : fileText t here file.path = .ok (text, origin)) (written : Written f n text)
    (foreign : Foreign environment) : SetsNumber t here f n (some file) environment
  | inVariable {name digits : Text} {before after : List (Text × Text)}
    (named : Text.lower name = f.leaf.variable) (numeral : Numeral.IsNumeral digits)
    (value : Numeral.value digits = n) (foreign : Foreign (before ++ after)) :
    SetsNumber t here f n none (before ++ (name, digits) :: after)

variable {t : Tree} {here : Location} {f : PollField} {n : Nat} {s : Settings}

theorem Written.read {text : Text} (h : Written f n text) :
    (Toml.read text).toOption =
      if n < twoTo 63 then some [("poll".toList, .table [(f.name, .integer n)])] else none := by
  cases h with
  | inLayout layout => exact Toml.read_numberText (by decide) f.isKey_name n layout
  | document few read => rw [read, if_pos few, Except.toOption]

theorem Foreign.layer {environment : List (Text × Text)} (h : Foreign environment) :
    Environment.layer environment = [] := by
  rw [Environment.layer, List.filterMap_eq_nil_iff]
  rintro ⟨name, value⟩ he
  simp only [key?_of_foreign (h _ he), Option.map_none]

theorem layer_amid {name : Text} {l : Leaf} (named : Text.lower name = l.variable) (value : Text)
    {before after : List (Text × Text)} (foreign : Foreign (before ++ after)) :
    Environment.layer (before ++ (name, value) :: after) =
      [(l.key, .scalar (some Environment.origin) (Environment.scalar value))] := by
  have silent := foreign.layer
  rw [Environment.layer, List.filterMap_append, List.append_eq_nil_iff] at silent
  have one := layer_variable named value
  rw [Environment.layer] at one ⊢
  rw [← List.singleton_append, List.filterMap_append, List.filterMap_append, silent.1, silent.2, one]
  rfl

theorem ofLayers_swap (e : Text × Layered) : ofLayers [e] [] = ofLayers [] [e] := by
  have same : merged [e] [] = merged [] [e] := by
    simp only [merged, overlayAll, List.foldl_cons, List.foldl_nil]
  rw [ofLayers, ofLayers, same]

theorem loadFrom_inVariable {name digits : Text} {before after : List (Text × Text)}
    (named : Text.lower name = f.leaf.variable) (numeral : Numeral.IsNumeral digits)
    (foreign : Foreign (before ++ after)) :
    loadFrom t here none (before ++ (name, digits) :: after) = .ok s ↔
      f.Holds (Environment.taken digits) ∧ f.of s = Environment.taken digits ∧
        ∀ l, l ≠ f.leaf → s.get l = standard.get l := by
  have counts := Environment.decodeNat_numeral numeral (some Environment.origin)
  rw [loadFrom, layer_amid named digits foreign]
  exact PollField.ofLayers_number (.byKey f.path_leaf) rfl counts (Environment.taken_lt digits)

theorem loadFrom_inFile {file : SettingsFile} {text origin : Text}
    {environment : List (Text × Text)}
    (there : file.required = true → t.exists_ here file.path = true)
    (holds : fileText t here file.path = .ok (text, origin)) (written : Written f n text)
    (foreign : Foreign environment) :
    loadFrom t here (some file) environment = .ok s ↔
      f.Admits n ∧ f.of s = n ∧ ∀ l, l ≠ f.leaf → s.get l = standard.get l := by
  have present : (file.required && !t.exists_ here file.path) = false := by
    cases h : file.required with
    | false => rfl
    | true => simp [there h]
  have read := written.read
  simp only [loadFrom, present, Bool.false_eq_true, if_false, fileLayer, holds, foreign.layer]
  by_cases few : n < twoTo 63
  · have counts : decodeNat (.scalar (some origin) (.integer n)) = .ok n :=
      decodeNat_integer (Int.natCast_nonneg n) _
    have room : n < twoTo 64 := Nat.lt_trans few (by decide)
    have entry : SetsOnly f.leaf (.scalar (some origin) (.integer n))
        ("poll".toList, table (some origin) [(f.name, .scalar (some origin) (.integer n))]) :=
      .inTable f.path_leaf
    rw [if_pos few] at read
    simp only [eq_ok_of_toOption read, ofTomlEntries, ofToml, ofLayers_swap]
    rw [PollField.admits_iff, and_iff_left few]
    exact PollField.ofLayers_number entry rfl counts room
  · have refused : ¬ f.Admits n := fun admits => few (PollField.admits_iff.1 admits).2
    rw [if_neg few] at read
    cases hr : Toml.read text with
    | ok entries => simp [hr, Except.toOption] at read
    | error line => simp [refused]

theorem holds_taken_iff {digits : Text}
    (unrounded : f = .intervalMs → Numeral.value digits < twoTo 63) {P : Prop} :
    (f.Holds (Environment.taken digits) ∧ f.of s = Environment.taken digits ∧ P) ↔
      f.Admits (Numeral.value digits) ∧ f.of s = Numeral.value digits ∧ P := by
  rcases Nat.lt_or_ge (Numeral.value digits) (twoTo 63) with few | large
  · rw [Environment.taken, if_pos few, PollField.admits_iff, and_iff_left few]
  · have taken := Environment.twoTo_le_taken large
    cases f with
    | attempts =>
      have more : twoTo 32 ≤ twoTo 63 := by decide
      constructor
      · rintro ⟨⟨-, room⟩, -⟩
        exact absurd room (Nat.not_lt.2 (Nat.le_trans more taken))
      · rintro ⟨admits, -⟩
        exact absurd (PollField.admits_iff.1 admits).2 (Nat.not_lt.2 large)
    | intervalMs => exact absurd (unrounded rfl) (Nat.not_lt.2 large)

theorem loadFrom_number_iff {file : Option SettingsFile} {environment : List (Text × Text)}
    (sets : SetsNumber t here f n file environment)
    (unrounded : f = .intervalMs → file = none → n < twoTo 63) :
    loadFrom t here file environment = .ok s ↔
      f.Admits n ∧ f.of s = n ∧ ∀ l, l ≠ f.leaf → s.get l = standard.get l := by
  cases sets with
  | inFile there holds written foreign => exact loadFrom_inFile there holds written foreign
  | inVariable named numeral value foreign =>
    subst value
    rw [loadFrom_inVariable named numeral foreign]
    exact holds_taken_iff fun interval => unrounded interval rfl

/-- A load that succeeds has the number that is written, with everything else standard, and it
succeeds just for the numbers that are admitted. An interval of 64 bits or more in a variable is left
out: it is rounded. -/
theorem loadFrom_pollNumber {file : Option SettingsFile} {environment : List (Text × Text)}
    (sets : SetsNumber t here f n file environment)
    (unrounded : f = .intervalMs → file = none → n < twoTo 63) :
    (∀ s, loadFrom t here file environment = .ok s →
      f.of s = n ∧ ∀ l, l ≠ f.leaf → s.get l = standard.get l) ∧
      ((∃ s, loadFrom t here file environment = .ok s) ↔ f.Admits n) := by
  refine ⟨fun s loads => ((loadFrom_number_iff sets unrounded).1 loads).2, ?_⟩
  constructor
  · rintro ⟨s, loads⟩
    exact ((loadFrom_number_iff sets unrounded).1 loads).1
  · intro admits
    obtain ⟨s, holds⟩ := PollField.exists_of_holds (PollField.admits_iff.1 admits).1
    exact ⟨s, (loadFrom_number_iff sets unrounded).2 ⟨admits, holds⟩⟩

def patient : Tree where
  entries :=
    [(["w".toList], .directory),
      (["c.toml".toList, "w".toList], .file (Octets.encode
        (Toml.numberText "poll".toList "interval_ms".toList 9223372036854775807 .inBraces)))]
  sealed_ := []

theorem loadFrom_patient :
    ∃ s, loadFrom patient ["w".toList] (some ⟨"c.toml".toList, true⟩)
        [("HOME".toList, "/root".toList)] = .ok s ∧
      s.poll.intervalMs.toNat = 9223372036854775807 ∧ s.poll.attempts = 30 := by
  have holds : fileText patient ["w".toList] "c.toml".toList =
      .ok (Toml.numberText "poll".toList "interval_ms".toList 9223372036854775807 .inBraces,
        "c.toml".toList) := eq_ok_of_toOption (by decide +kernel)
  have foreign : Foreign [("HOME".toList, "/root".toList)] := by
    intro e he
    obtain rfl := List.mem_singleton.1 he
    decide
  have sets : SetsNumber patient ["w".toList] .intervalMs 9223372036854775807
      (some ⟨"c.toml".toList, true⟩) [("HOME".toList, "/root".toList)] :=
    .inFile (fun _ => by decide +kernel) holds (.inLayout .inBraces) foreign
  obtain ⟨same, loads⟩ := loadFrom_pollNumber sets fun _ _ => by decide
  have admitted : (9223372036854775807 : Nat) < twoTo 63 := by decide
  obtain ⟨s, hs⟩ := loads.2 admitted
  obtain ⟨interval, others⟩ := same s hs
  have attempts : s.poll.attempts = 30 := others .attempts (by decide)
  exact ⟨s, hs, interval, attempts⟩

/-- The first interval of 64 bits that no float stands for becomes another number. -/
theorem loadFrom_oddInterval :
    SetsNumber ⟨[], []⟩ [] .intervalMs 9223372036854775809 none
        [("VOLTTRON_BOOTSTRAP__POLL__INTERVAL_MS".toList, "9223372036854775809".toList)] ∧
      (loadFrom ⟨[], []⟩ [] none
          [("VOLTTRON_BOOTSTRAP__POLL__INTERVAL_MS".toList,
            "9223372036854775809".toList)]).toOption =
        some { standard with poll := ⟨30, 9223372036854775808⟩ } := by
  have written : "9223372036854775809".toList = Numeral.ofNat 9223372036854775809 := by
    decide +kernel
  refine ⟨?_, by decide +kernel⟩
  rw [written]
  change SetsNumber ⟨[], []⟩ [] .intervalMs _ none ([] ++ (_, _) :: [])
  exact .inVariable (by decide) (Numeral.isNumeral_ofNat _)
    (Numeral.value_ofNat _) (by simp [Foreign])

end Settings

end PlatformLauncher
