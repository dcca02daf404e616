import PlatformLauncher.Proofs.Number.Numerals
import PlatformLauncher.Proofs.Settings.Sources

/-!
The leaves that the variables of an environment give. A whole number is never taken for a word, and a
variable of someone else for none of ours. Main statement: `EnvironmentGives.layer`.
-/
namespace PlatformLauncher

namespace Numeral

theorem getLast?_of_read {most : Nat} {s : Text} {n : Nat} (h : read most s = .ok n) :
    ∃ c, s.getLast? = some c ∧ c.isDigit = true := by
  obtain ⟨nonempty, digits, -, -⟩ := read_eq_ok_iff.1 h
  exact ⟨s.getLast nonempty, List.getLast?_eq_some_getLast nonempty,
    digits _ (List.getLast_mem nonempty)⟩

theorem getLast?_of_readInt? {s : Text} {n : Int} (h : readInt? s = some n) :
    ∃ c, s.getLast? = some c ∧ c.isDigit = true := by
  have behind (most : Nat) {s : Text} (hs : (read most s).toOption ≠ none) (before : Text) :
      ∃ c, (before ++ s).getLast? = some c ∧ c.isDigit = true := by
    cases hr : read most s with
    | error problem => simp [hr, Except.toOption] at hs
    | ok k =>
      obtain ⟨c, last, digit⟩ := getLast?_of_read hr
      exact ⟨c, by simp [last], digit⟩
  unfold readInt? at h
  split at h
  · exact behind (twoTo 63) (fun none => by simp [none] at h) ['-']
  · unfold readSigned at h
    split at h
    · exact behind (twoTo 63 - 1) (fun none => by simp [none] at h) ['+']
    · exact behind (twoTo 63 - 1) (fun none => by simp [none] at h) []

theorem not_literal_of_readInt? {s word : Text} {n : Int} (h : readInt? s = some n)
    (ends : word.getLast? = some 'e') : Text.lower s ≠ word := by
  rintro rfl
  obtain ⟨c, last, digit⟩ := getLast?_of_readInt? h
  rw [Text.lower, List.getLast?_map, last, Option.map_some, Text.lowerChar_of_isDigit digit] at ends
  cases ends
  exact absurd digit (by decide)

end Numeral

namespace Environment

theorem scalar_of_readInt? {value : Text} {n : Int} (h : Numeral.readInt? value = some n) :
    scalar value = .integer n := by
  rw [scalar, if_neg (Numeral.not_literal_of_readInt? h rfl),
    if_neg (Numeral.not_literal_of_readInt? h rfl), h]

end Environment

namespace Settings
open Layered

def isLiteral (s : Text) : Bool :=
  Text.lower s = "true".toList || Text.lower s = "false".toList || (Numeral.readInt? s).isSome ||
    (Binary64.read? s).isSome

def Kind.ofVariable? : (k : Kind) → Text → Option k.Value
  | text, s => if isLiteral s then none else some s
  | word32, s => (Numeral.readInt? s).bind word32Of?
  | word64, s => (Numeral.readInt? s).bind word64Of?
  | packages, _ | texts, _ => none

def Leaf.variable (l : Leaf) : Text := Environment.namePrefix ++ Text.joinWith "__".toList l.path

/-- Variables for the leaves of `E`, in any case of the letters, among variables of others. -/
structure EnvironmentGives (environment : List (Text × Text)) (E : Overrides) : Prop where
  each : ∀ e ∈ environment, Text.startsWith (Text.lower e.1) Environment.namePrefix = false ∨
    ∃ l x, Text.lower e.1 = l.variable ∧ E l = some x ∧ l.kind.ofVariable? e.2 = some x
  all : ∀ l, (E l).isSome → ∃ e ∈ environment, Text.lower e.1 = l.variable

theorem Leaf.variable_injective {l m : Leaf} (h : l.variable = m.variable) : l = m := by
  revert h
  cases l <;> cases m <;> decide

theorem Leaf.startsWith_variable (l : Leaf) :
    Text.startsWith l.variable Environment.namePrefix = true :=
  Text.startsWith_iff.2 ⟨_, rfl⟩

theorem key?_of_variable {name : Text} {l : Leaf} (h : Text.lower name = l.variable) :
    Environment.key? name = some l.key := by
  rw [Environment.key?, h]
  cases l <;> decide

theorem key?_of_foreign {name : Text}
    (h : Text.startsWith (Text.lower name) Environment.namePrefix = false) :
    Environment.key? name = none := by
  rw [Text.startsWith, Option.isSome_eq_false_iff, Option.isNone_iff_eq_none] at h
  rw [Environment.key?, h, Option.map_none]

theorem scalar_of_not_isLiteral {s : Text} (h : isLiteral s = false) :
    Environment.scalar s = .text s := by
  simp only [isLiteral, Bool.or_eq_false_iff, decide_eq_false_iff_not, Option.isSome_eq_false_iff,
    Option.isNone_iff_eq_none] at h
  obtain ⟨⟨⟨notTrue, notFalse⟩, noInteger⟩, noFloat⟩ := h
  rw [Environment.scalar, if_neg notTrue, if_neg notFalse, noInteger, noFloat]

theorem decode_ofVariable {k : Kind} {value : Text} {x : k.Value} (h : k.ofVariable? value = some x)
    (o : Option Text) : k.decode (.scalar o (Environment.scalar value)) = .ok x := by
  cases k with
  | packages => cases h
  | texts => cases h
  | text =>
    simp only [Kind.ofVariable?] at h
    split at h
    · cases h
    · next plain =>
      cases h
      rw [scalar_of_not_isLiteral (Bool.eq_false_iff.2 plain)]
      rfl
  | word32 =>
    obtain ⟨n, hn, hx⟩ := Option.bind_eq_some_iff.1 h
    rw [Environment.scalar_of_readInt? hn]
    exact decodeUInt32_of_word32Of? hx o
  | word64 =>
    obtain ⟨n, hn, hx⟩ := Option.bind_eq_some_iff.1 h
    rw [Environment.scalar_of_readInt? hn]
    exact decodeUInt64_of_word64Of? hx o

theorem path_of_ofVariable? {l : Leaf} {value : Text} {x : l.kind.Value}
    (h : l.kind.ofVariable? value = some x) : ∃ key field, l.path = [key, field] := by
  rcases l.path_cases with rfl | within
  · cases h
  · exact within

theorem mem_layer {environment : List (Text × Text)} {key : Text} {v : Layered} :
    (key, v) ∈ Environment.layer environment ↔
      ∃ name value, (name, value) ∈ environment ∧ Environment.key? name = some key ∧
        v = .scalar (some Environment.origin) (Environment.scalar value) := by
  simp only [Environment.layer, List.mem_filterMap, Option.map_eq_some_iff, Prod.exists,
    Prod.mk.injEq]
  constructor
  · rintro ⟨name, value, mem, key', hkey, rfl, rfl⟩
    exact ⟨name, value, mem, hkey, rfl⟩
  · rintro ⟨name, value, mem, hkey, rfl⟩
    exact ⟨name, value, mem, key, hkey, rfl, rfl⟩

theorem EnvironmentGives.layer {environment : List (Text × Text)} {E : Overrides}
    (h : EnvironmentGives environment E) : Gives (Environment.layer environment) E where
  agrees := by
    rintro ⟨key, v⟩ he
    obtain ⟨name, value, mem, hkey, rfl⟩ := mem_layer.1 he
    rcases h.each _ mem with foreign | ⟨l, x, hname, hx, spelled⟩
    · simp [key?_of_foreign foreign] at hkey
    · cases hkey.symm.trans (key?_of_variable hname)
      obtain ⟨_, _, hl⟩ := path_of_ofVariable? spelled
      exact agrees_key hl hx rfl (decode_ofVariable spelled _)
  sets l x hx := by
    obtain ⟨⟨name, value⟩, mem, hname⟩ := h.all l (by simp [hx])
    rcases h.each _ mem with foreign | ⟨l', x', hname', hx', spelled⟩
    · simp [hname, l.startsWith_variable] at foreign
    · cases Leaf.variable_injective (hname'.symm.trans hname)
      cases hx'.symm.trans hx
      obtain ⟨_, _, hl⟩ := path_of_ofVariable? spelled
      exact ⟨_, mem_layer.2 ⟨name, value, mem, key?_of_variable hname, rfl⟩,
        sets_key hl rfl (decode_ofVariable spelled _)⟩

end Settings

end PlatformLauncher
