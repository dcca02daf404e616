import PlatformLauncher.Proofs.Settings.Layers
import PlatformLauncher.Settings.Load

/-!
The leaves that settings and documents give when they are laid over other values. Settings give every
leaf, a document the well-typed values under its keys. Main statements: `gives_ofSettings` and
`DocumentGives.layer`.
-/
namespace PlatformLauncher

namespace Layered

theorem decodeItems_map {α : Type} {decode : Decoder α} (write : α → Layered)
    (h : ∀ x, decode (write x) = .ok x) (i : Nat) (xs : List α) :
    decodeItems decode i (xs.map write) = .ok xs := by
  induction xs generalizing i with
  | nil => rfl
  | cons x xs ih => simp [decodeItems, h, ih, Except.map]

theorem decodeItems_ofTomlItems {α : Type} {decode : Decoder α} {origin : Text}
    {read? : Toml.Value → Option α}
    (h : ∀ v x, read? v = some x → decode (ofToml origin v) = .ok x) {vs : List Toml.Value}
    {xs : List α} (hxs : vs.mapM read? = some xs) (i : Nat) :
    decodeItems decode i (ofTomlItems origin vs) = .ok xs := by
  induction vs generalizing xs i with
  | nil =>
    cases hxs
    rfl
  | cons v vs ih =>
    rw [List.mapM_cons] at hxs
    obtain ⟨x, hx, rest⟩ := Option.bind_eq_some_iff.1 hxs
    obtain ⟨xs', hxs', same⟩ := Option.bind_eq_some_iff.1 rest
    cases same
    simp [ofTomlItems, decodeItems, h v x hx, ih hxs', Except.map]

theorem decodeNat_integer {n : Int} (h : 0 ≤ n) (o : Option Text) :
    decodeNat (scalar o (.integer n)) = .ok n.toNat := by
  rw [decodeNat, if_pos h]

theorem decodeUInt32_integer {n : Int} (h : 0 ≤ n) (bound : n < twoTo 32) (o : Option Text) :
    decodeUInt32 (scalar o (.integer n)) = .ok (UInt32.ofNat n.toNat) := by
  have small : n.toNat < twoTo 32 := by omega
  simp [decodeUInt32, decodeNat_integer h, small]

theorem decodeUInt64_integer {n : Int} (h : 0 ≤ n) (o : Option Text) :
    decodeUInt64 (scalar o (.integer n)) = .ok (UInt64.ofNat n.toNat) := by
  simp [decodeUInt64, decodeNat_integer h, Except.map]

theorem lookup_ofTomlEntries (origin key : Text) (es : List (Text × Toml.Value)) :
    (ofTomlEntries origin es).lookup key = (es.lookup key).map (ofToml origin) := by
  induction es with
  | nil => rfl
  | cons e es ih =>
    obtain ⟨k, v⟩ := e
    rw [ofTomlEntries, List.lookup_cons, List.lookup_cons, ih]
    cases key == k <;> rfl

theorem mem_ofTomlEntries {origin : Text} {es : List (Text × Toml.Value)} {e : Text × Layered} :
    e ∈ ofTomlEntries origin es ↔ ∃ v, (e.1, v) ∈ es ∧ e.2 = ofToml origin v := by
  obtain ⟨key, w⟩ := e
  induction es with
  | nil => simp [ofTomlEntries]
  | cons e' es ih =>
    obtain ⟨k, v⟩ := e'
    simp only [ofTomlEntries, List.mem_cons, Prod.mk.injEq, ih]
    constructor
    · rintro (⟨rfl, rfl⟩ | ⟨v', hv', rfl⟩)
      · exact ⟨v, .inl ⟨rfl, rfl⟩, rfl⟩
      · exact ⟨v', .inr hv', rfl⟩
    · rintro ⟨v', ⟨rfl, rfl⟩ | hv', rfl⟩
      · exact .inl ⟨rfl, rfl⟩
      · exact .inr ⟨v', hv', rfl⟩

theorem decodePackage_ofPackage (p : PackageEntry) : decodePackage (ofPackage p) = .ok p := by
  obtain ⟨name, dir⟩ := p
  cases dir <;> rfl

end Layered

namespace Settings
open Layered

def packageOf? : Toml.Value → Option PackageEntry
  | .table es =>
    match es.lookup "name".toList, es.lookup "local_dir".toList with
    | some (.text name), none => some ⟨name, none⟩
    | some (.text name), some (.text dir) => some ⟨name, some dir⟩
    | _, _ => none
  | _ => none

def textOf? : Toml.Value → Option Text
  | .text s => some s
  | _ => none

def word32Of? (n : Int) : Option UInt32 :=
  if 0 ≤ n ∧ n < twoTo 32 then some (UInt32.ofNat n.toNat) else none

def word64Of? (n : Int) : Option UInt64 :=
  if 0 ≤ n ∧ n < twoTo 64 then some (UInt64.ofNat n.toNat) else none

namespace Kind

def ofToml? : (k : Kind) → Toml.Value → Option k.Value
  | packages, .list vs => vs.mapM packageOf?
  | text, .text s => some s
  | texts, .list vs => vs.mapM textOf?
  | word32, .integer n => word32Of? n
  | word64, .integer n => word64Of? n
  | _, _ => none

end Kind

theorem decodePackage_ofToml {origin : Text} {v : Toml.Value} {p : PackageEntry}
    (h : packageOf? v = some p) : decodePackage (ofToml origin v) = .ok p := by
  cases v with
  | table es =>
    have name := lookup_ofTomlEntries origin "name".toList es
    have dir := lookup_ofTomlEntries origin "local_dir".toList es
    simp only [packageOf?] at h
    split at h
    · next hn hd =>
      cases h
      rw [hn] at name
      rw [hd] at dir
      simp only [decodePackage, ofToml, Fields.of, Fields.read, name, dir, Option.map, decodeText,
        Except.mapError, Except.map, Fields.need, bind, Except.bind, pure, Except.pure,
        Option.getD_none]
    · next hn hd =>
      cases h
      rw [hn] at name
      rw [hd] at dir
      simp only [decodePackage, ofToml, Fields.of, Fields.read, name, dir, Option.map, decodeText,
        decodeOption, Except.mapError, Except.map, Fields.need, bind, Except.bind, pure, Except.pure,
        Option.getD_some]
    · cases h
  | _ => cases h

theorem decodeText_ofToml {origin : Text} {v : Toml.Value} {s : Text} (h : textOf? v = some s) :
    decodeText (ofToml origin v) = .ok s := by
  cases v with
  | text s' =>
    cases h
    rfl
  | _ => cases h

theorem word32Of?_toNat (x : UInt32) : word32Of? x.toNat = some x := by
  have bounds : (0 : Int) ≤ x.toNat ∧ (x.toNat : Int) < twoTo 32 :=
    ⟨Int.natCast_nonneg _, Int.ofNat_lt.2 x.toNat_lt⟩
  rw [word32Of?, if_pos bounds, Int.toNat_natCast, UInt32.ofNat_toNat]

theorem word64Of?_toNat (x : UInt64) : word64Of? x.toNat = some x := by
  have bounds : (0 : Int) ≤ x.toNat ∧ (x.toNat : Int) < twoTo 64 :=
    ⟨Int.natCast_nonneg _, Int.ofNat_lt.2 x.toNat_lt⟩
  rw [word64Of?, if_pos bounds, Int.toNat_natCast, UInt64.ofNat_toNat]

theorem decodeUInt32_of_word32Of? {n : Int} {x : UInt32} (h : word32Of? n = some x)
    (o : Option Text) : decodeUInt32 (scalar o (.integer n)) = .ok x := by
  unfold word32Of? at h
  split at h
  · next bounds =>
    cases h
    exact decodeUInt32_integer bounds.1 bounds.2 o
  · cases h

theorem decodeUInt64_of_word64Of? {n : Int} {x : UInt64} (h : word64Of? n = some x)
    (o : Option Text) : decodeUInt64 (scalar o (.integer n)) = .ok x := by
  unfold word64Of? at h
  split at h
  · next bounds =>
    cases h
    exact decodeUInt64_integer bounds.1 o
  · cases h

theorem decode_ofToml {k : Kind} {v : Toml.Value} {x : k.Value} (h : k.ofToml? v = some x)
    (origin : Text) : (ofToml origin v).replaces = true ∧ k.decode (ofToml origin v) = .ok x := by
  cases k with
  | packages =>
    cases v with
    | list vs => exact ⟨rfl, decodeItems_ofTomlItems (fun v p => decodePackage_ofToml) h 0⟩
    | _ => cases h
  | text =>
    cases v with
    | text s =>
      cases h
      exact ⟨rfl, rfl⟩
    | _ => cases h
  | texts =>
    cases v with
    | list vs => exact ⟨rfl, decodeItems_ofTomlItems (fun v s => decodeText_ofToml) h 0⟩
    | _ => cases h
  | word32 =>
    cases v with
    | integer n => exact ⟨rfl, decodeUInt32_of_word32Of? h _⟩
    | _ => cases h
  | word64 =>
    cases v with
    | integer n => exact ⟨rfl, decodeUInt64_of_word64Of? h _⟩
    | _ => cases h

theorem decodeList_ofArgs (args : List Text) : decodeList decodeText (ofArgs args) = .ok args := by
  exact decodeItems_map Layered.text (fun _ => rfl) 0 args

theorem gives_ofSettings (s : Settings) : Gives (ofSettings s) fun l => some (s.get l) := by
  apply gives_of_entries
  · intro e he
    simp only [ofSettings, List.mem_cons, List.not_mem_nil, or_false] at he
    rcases he with rfl | rfl | rfl | rfl | rfl | rfl | rfl
    · exact .packages rfl rfl (decodeItems_map ofPackage decodePackage_ofPackage 0 s.packages)
    · refine .fields .installerProgram rfl ?_
      exact .cons .installerProgram rfl rfl rfl rfl
        (.cons .installerArgs rfl rfl rfl (decodeList_ofArgs _) .nil)
    · refine .fields .envFile rfl ?_
      exact .cons .defaultDirName rfl rfl rfl rfl (.cons .envFile rfl rfl rfl rfl .nil)
    · refine .fields .daemonProgram rfl ?_
      exact .cons .daemonProgram rfl rfl rfl rfl
        (.cons .daemonArgs rfl rfl rfl (decodeList_ofArgs _)
          (.cons .logFile rfl rfl rfl rfl .nil))
    · refine .fields .probeProgram rfl ?_
      exact .cons .probeProgram rfl rfl rfl rfl
        (.cons .probeArgs rfl rfl rfl (decodeList_ofArgs _) .nil)
    · refine .fields .shutdownProgram rfl ?_
      exact .cons .shutdownProgram rfl rfl rfl rfl
        (.cons .shutdownArgs rfl rfl rfl (decodeList_ofArgs _) .nil)
    · refine .fields .attempts rfl ?_
      exact .cons .attempts rfl rfl rfl (decodeUInt32_of_word32Of? (word32Of?_toNat _) none)
        (.cons .intervalMs rfl rfl rfl (decodeUInt64_of_word64Of? (word64Of?_toNat _) none) .nil)
  · intro l _
    cases l <;> rfl

def valueAt? : List Text → List (Text × Toml.Value) → Option Toml.Value
  | [], _ => none
  | [key], entries => entries.lookup key
  | key :: rest, entries =>
    match entries.lookup key with
    | some (.table fields) => valueAt? rest fields
    | _ => none

def DocumentFields (S : Overrides) (key : Text) (fields : List (Text × Toml.Value)) : Prop :=
  ∀ f ∈ fields, ∃ l x, l.path = [key, f.1] ∧ S l = some x ∧ l.kind.ofToml? f.2 = some x

theorem DocumentFields.nil {S : Overrides} {key : Text} : DocumentFields S key [] := by
  intro f hf
  simp at hf

theorem DocumentFields.cons {S : Overrides} {key field : Text} {v : Toml.Value}
    {fields : List (Text × Toml.Value)} (l : Leaf) {x : l.kind.Value} (hl : l.path = [key, field])
    (hx : S l = some x) (written : l.kind.ofToml? v = some x) (rest : DocumentFields S key fields) :
    DocumentFields S key ((field, v) :: fields) :=
  List.forall_mem_cons.2 ⟨⟨l, x, hl, hx, written⟩, rest⟩

/-- An entry of a document with nothing but well-typed values for leaves, those of `S`. -/
inductive DocumentEntry (S : Overrides) : Text × Toml.Value → Prop where
  | packages {v : Toml.Value} {ps : List PackageEntry} (given : S .packages = some ps)
    (written : Kind.packages.ofToml? v = some ps) : DocumentEntry S ("packages".toList, v)
  | fields (l : Leaf) {key field : Text} {fields : List (Text × Toml.Value)}
    (isSection : l.path = [key, field]) (each : DocumentFields S key fields) :
    DocumentEntry S (key, .table fields)

structure DocumentGives (entries : List (Text × Toml.Value)) (S : Overrides) : Prop where
  each : ∀ e ∈ entries, DocumentEntry S e
  all : ∀ l, (S l).isSome → (valueAt? l.path entries).isSome

theorem at?_ofTomlEntries {l : Leaf} {origin : Text} {es : List (Text × Toml.Value)}
    (h : (valueAt? l.path es).isSome) :
    ((table none (ofTomlEntries origin es)).at? l.path).isSome := by
  have lowered := l.lower_path
  rcases l.path_cases with rfl | ⟨key, field, hl⟩
  · have top : Text.lower "packages".toList = "packages".toList := by decide
    rw [Leaf.path, valueAt?] at h
    rw [Leaf.path, at?_single, get?, top, entries, lookup_ofTomlEntries, Option.isSome_map]
    exact h
  · rw [hl] at h lowered ⊢
    rw [at?_pair, get?, get?, lowered key (by simp), lowered field (by simp), entries,
      lookup_ofTomlEntries]
    simp only [valueAt?] at h
    split at h
    · next fields found =>
      simp only [found, Option.map_some, Option.getD_some, ofToml, entries, lookup_ofTomlEntries,
        Option.isSome_map]
      exact h
    · cases h

theorem DocumentEntry.layer {S : Overrides} {key : Text} {v : Toml.Value}
    (h : DocumentEntry S (key, v)) (origin : Text) : EntryGives S (key, ofToml origin v) := by
  cases h with
  | packages given written =>
    obtain ⟨replaces, decoded⟩ := decode_ofToml written origin
    exact .packages given replaces decoded
  | fields l isSection each =>
    rw [ofToml]
    refine .fields l isSection fun e he => ?_
    obtain ⟨v, hv, he⟩ := mem_ofTomlEntries.1 he
    obtain ⟨l', x, hl', hx, written⟩ := each _ hv
    obtain ⟨replaces, decoded⟩ := decode_ofToml written origin
    rw [← he] at replaces decoded
    exact ⟨l', x, hl', hx, replaces, decoded⟩

theorem DocumentGives.layer {entries : List (Text × Toml.Value)} {S : Overrides}
    (h : DocumentGives entries S) (origin : Text) : Gives (ofTomlEntries origin entries) S := by
  apply gives_of_entries
  · rintro ⟨key, w⟩ he
    obtain ⟨v, hv, rfl⟩ := mem_ofTomlEntries.1 he
    exact (h.each _ hv).layer origin
  · intro l hl
    exact at?_ofTomlEntries (h.all l hl)

end Settings

end PlatformLauncher
