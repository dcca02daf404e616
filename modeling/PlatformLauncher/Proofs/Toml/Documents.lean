import PlatformLauncher.Proofs.Toml.Values

/-!
Documents read line by line. A stretch of text leads from one state of the reader to another when it
does so whatever follows; stretches compose. Main statements: `leads_fields`, the lines under a header
add their fields to the table of the header, and `Steps.read` for blocks with empty lines between.
-/
namespace PlatformLauncher.Toml
open Printer

namespace Document

/-- Every number of steps that covers the lines reads them, with this result. -/
def Ends (d : Document) (s : Text) (result : Except Text Document) : Prop :=
  ∀ fuel, s.length < fuel → readFrom fuel d s = result

def Leads (d : Document) (s : Text) (d' : Document) : Prop :=
  ∀ rest result, d'.Ends rest result → d.Ends (s ++ rest) result

variable {d d₁ d₂ final : Document} {s a b rest : Text}

theorem ends_nil (d : Document) : d.Ends [] (.ok d) := by
  intro fuel enough
  obtain ⟨fuel, rfl⟩ : ∃ n, fuel = n + 1 := ⟨fuel - 1, by omega⟩
  rfl

theorem Leads.append (first : d.Leads a d₁) (second : d₁.Leads b d₂) : d.Leads (a ++ b) d₂ := by
  intro rest result ends
  rw [List.append_assoc]
  exact first _ result (second rest result ends)

theorem ends_blank (h : d.Ends s (.ok final)) : d.Ends ('\n' :: s) (.ok final) := by
  intro fuel enough
  rw [List.length_cons] at enough
  have read := h fuel (by omega)
  obtain ⟨fuel, rfl⟩ : ∃ n, fuel = n + 1 := ⟨fuel - 1, by omega⟩
  have blank : skipBlanks? false ('\n' :: s) = skipBlanks? false s := rfl
  rw [readFrom] at read ⊢
  rw [blank]
  cases skipped : skipBlanks? false s with
  | none => simp [skipped] at read
  | some r =>
    rw [skipped] at read
    cases r with
    | nil => exact read
    | cons c r =>
      simp only at read ⊢
      split at read
      · cases read
      · simp [read]

section Lines

variable {line : Text} (nonempty : line ≠ [])
  (start : ∀ rest, skipBlanks? false (line ++ '\n' :: rest) = some (line ++ '\n' :: rest))

include nonempty start

theorem leads_line (read : ∀ rest, d.line? (line ++ '\n' :: rest) = some (d₁, '\n' :: rest)) :
    d.Leads (line ++ ['\n']) d₁ := by
  intro rest result ends fuel enough
  rw [List.append_assoc, List.singleton_append] at enough ⊢
  rw [List.length_append, List.length_cons] at enough
  obtain ⟨fuel, rfl⟩ : ∃ n, fuel = n + 1 := ⟨fuel - 1, by omega⟩
  obtain ⟨c, more, written⟩ := List.exists_cons_of_ne_nil nonempty
  have lineEnd : lineEnd? false ('\n' :: rest) = some rest := rfl
  have started := start rest
  have taken := read rest
  rw [written, List.cons_append] at started taken ⊢
  rw [readFrom, started]
  simp only [taken, Option.bind_some, lineEnd, Option.map_some]
  exact ends fuel (by omega)

theorem ends_fault (fault : d.line? (line ++ ['\n']) = none) :
    d.Ends (line ++ ['\n']) (.error (line ++ ['\n'])) := by
  intro fuel enough
  obtain ⟨fuel, rfl⟩ : ∃ n, fuel = n + 1 := ⟨fuel - 1, by omega⟩
  obtain ⟨c, more, written⟩ := List.exists_cons_of_ne_nil nonempty
  have started := start []
  rw [written, List.cons_append] at started fault ⊢
  rw [readFrom, started]
  simp only [fault, Option.bind_none]

end Lines

theorem read_of_ends {result : Except Text Document} (h : Ends ⟨[], []⟩ s result)
    (noMark : s.head? ≠ some '\uFEFF') :
    read s = (result.map fun d => entriesToValues d.root).mapError fun rest =>
      s.count '\n' - rest.count '\n' + 1 := by
  have unmarked : dropOrderMark s = s := by
    unfold dropOrderMark
    split
    · simp at noMark
    · rfl
  rw [Toml.read, unmarked]
  simp only [h (s.length + 1) (by omega)]
  cases result <;> rfl

end Document

section Keys

variable {name next r : Text} {c : Char}

def IsKey (name : Text) : Prop := (!name.isEmpty && name.all isBareKeyChar) = true

instance (name : Text) : Decidable (IsKey name) := inferInstanceAs (Decidable (_ = true))

theorem IsKey.ne_nil (h : IsKey name) : name ≠ [] := by
  rintro rfl
  cases h

theorem IsKey.bare (h : IsKey name) : ∀ c ∈ name, isBareKeyChar c = true :=
  List.all_eq_true.1 (Bool.and_eq_true_iff.1 h).2

theorem ne_of_bare {d : Char} (h : isBareKeyChar c = true) (other : isBareKeyChar d = false) :
    c ≠ d := by
  rintro rfl
  rw [h] at other
  cases other

theorem isSpace_of_bare (h : isBareKeyChar c = true) : isSpace c = false := by
  have blank : c ≠ ' ' := ne_of_bare h (by decide)
  have tab : c ≠ '\t' := ne_of_bare h (by decide)
  simp [isSpace, blank, tab]

theorem IsKey.head?_ne (h : IsKey name) (other : isBareKeyChar c = false) (next : Text) :
    (name ++ next).head? ≠ some c := by
  obtain ⟨c', more, rfl⟩ := List.exists_cons_of_ne_nil h.ne_nil
  intro e
  exact ne_of_bare (h.bare c' (by simp)) other (Option.some.inj e)

theorem IsKey.skipSpaces (h : IsKey name) (next : Text) :
    skipSpaces (name ++ next) = name ++ next := by
  obtain ⟨c, more, rfl⟩ := List.exists_cons_of_ne_nil h.ne_nil
  have noSpace : isSpace c ≠ true := ne_true_of_eq_false (isSpace_of_bare (h.bare c (by simp)))
  rw [Toml.skipSpaces, List.cons_append, List.dropWhile_cons_of_neg noSpace]

theorem IsKey.skipBlanks? (h : IsKey name) (next : Text) :
    skipBlanks? false (name ++ next) = some (name ++ next) := by
  obtain ⟨c, more, rfl⟩ := List.exists_cons_of_ne_nil h.ne_nil
  have bare : isBareKeyChar c = true := h.bare c (by simp)
  have space : ¬ isSpace c = true := ne_true_of_eq_false (isSpace_of_bare bare)
  rw [List.cons_append, Toml.skipBlanks?, if_neg (ne_of_bare bare (by decide)),
    if_neg (ne_of_bare bare (by decide)), if_neg (by decide), if_neg (ne_of_bare bare (by decide)),
    if_neg space]

theorem isKey_ofNat (n : Nat) : IsKey (Numeral.ofNat n) := by
  have bare : (Numeral.ofNat n).all isBareKeyChar = true := List.all_eq_true.2 fun c hc => by
    simp [isBareKeyChar, Char.isAlphanum, Numeral.isDigit_of_mem_ofNat hc]
  have nonempty : Numeral.ofNat n ≠ [] := Nat.toDigits_ne_nil
  simp [IsKey, nonempty, bare]

theorem keyPart?_bare (h : IsKey name) (stop : ∀ c ∈ next.head?, isBareKeyChar c = false) :
    keyPart? (name ++ next) = some (name, next) := by
  have ends : next.takeWhile isBareKeyChar = [] ∧ next.dropWhile isBareKeyChar = next := by
    cases next with
    | nil => simp
    | cons c next => simp [stop c (by simp)]
  have double := h.head?_ne (c := '"') (by decide) next
  have single := h.head?_ne (c := '\'') (by decide) next
  unfold keyPart?
  split
  · next e => simp [e] at double
  · next e => simp [e] at single
  · rw [List.takeWhile_append_of_pos h.bare, List.dropWhile_append_of_pos h.bare, ends.1, ends.2,
      List.append_nil, if_neg (by simpa using h.ne_nil)]

theorem key?_bare (h : IsKey name) (stop : ∀ c ∈ next.head?, isBareKeyChar c = false)
    (skipped : skipSpaces next = c :: r) (noPoint : c ≠ '.') (parts : Nat) :
    key? (parts + 1) (name ++ next) = some ([name], c :: r) := by
  rw [key?, h.skipSpaces, keyPart?_bare h stop]
  simp only [skipped]
  split
  · next e => exact absurd (List.cons.inj e).1 noPoint
  · rfl

theorem header?_bare (h : IsKey name) (rest : Text) :
    Document.header? (name ++ ']' :: rest) = some ([name], rest) := by
  have stop : isBareKeyChar ']' = false := by decide
  have keys : key? nestingLimit (name ++ ']' :: rest) = some ([name], ']' :: rest) :=
    key?_bare h (by simp [stop]) rfl (by decide) 78
  rw [Document.header?, keys]
  rfl

structure Scans (written : Text) (v : Value) : Prop where
  start : ∀ rest, skipSpaces (written ++ '\n' :: rest) = written ++ '\n' :: rest
  read : ∀ rest, value? ((written ++ '\n' :: rest).length + 1) nestingLimit
    (written ++ '\n' :: rest) = some (v, '\n' :: rest)

theorem assignment?_bare (h : IsKey name) (start : skipSpaces next = next) :
    assignment? (name ++ (" = ".toList ++ next)) = some ([name], next) := by
  have stop : isBareKeyChar ' ' = false := by decide
  have keys : key? nestingLimit (name ++ (" = ".toList ++ next)) =
      some ([name], '=' :: ' ' :: next) :=
    key?_bare h (by simp [stop]) rfl (by decide) 78
  have skipped : skipSpaces (' ' :: next) = next := start
  rw [assignment?, keys]
  simp only [skipped]

theorem scans_string (s : Text) : Scans (Printer.string s) (.text s) where
  start rest := by
    obtain ⟨quote, r, written, rfl | rfl⟩ := string_cons s
    · rw [written]
      rfl
    · rw [written]
      rfl
  read rest := value?_string (by simp) (by simp) _ _

theorem length_itemLines (items : List Text) : items.length + 1 ≤ (itemLines items).length := by
  induction items with
  | nil => exact Nat.le_refl 1
  | cons item items ih =>
    have line := itemLines_cons item items []
    simp only [List.append_nil] at line
    rw [line, List.length_append, List.length_append, List.length_cons, List.length_cons,
      List.length_replicate, List.length_cons]
    omega

theorem length_strings (items : List Text) : items.length + 2 ≤ (strings items).length := by
  unfold strings
  split
  · exact Nat.le_refl 2
  · next item =>
    obtain ⟨quote, r, written, -⟩ := string_cons item
    simp [written]
  · have lines := length_itemLines items
    have text : "[\n".toList ++ items.flatMap (fun item => List.replicate 4 ' ' ++
        Printer.string item ++ ",\n".toList) ++ [']'] = '[' :: '\n' :: itemLines items := by
      simp [itemLines]
    rw [text, List.length_cons, List.length_cons]
    omega

theorem scans_strings (items : List Text) : Scans (strings items) (.list (items.map .text)) where
  start rest := by
    unfold strings
    split <;> rfl
  read rest := by
    have enough : items.length + 3 ≤ (strings items ++ '\n' :: rest).length + 1 := by
      have := length_strings items
      rw [List.length_append, List.length_cons]
      omega
    exact value?_strings items _ enough 78

theorem scans_ofNat {n : Nat} (h : n < twoTo 63) : Scans (Numeral.ofNat n) (.integer n) where
  start _ := (isKey_ofNat n).skipSpaces _
  read _ := (value?_numeral (.inr rfl) n _ _).trans (if_pos h)

end Keys

section Tables

variable {key other : Text} {t : Table}

theorem set_append (h : t.lookup key = none) (node : Node) (rest : Table) :
    Table.set key node (t ++ rest) = t ++ Table.set key node rest := by
  induction t with
  | nil => rfl
  | cons e t ih =>
    obtain ⟨k, n⟩ := e
    rw [List.lookup_cons] at h
    split at h
    · cases h
    · next different =>
      have differs : k ≠ key := by
        rintro rfl
        simp at different
      rw [List.cons_append, Table.set, if_neg differs, ih h, List.cons_append]

theorem set_of_lookup (h : t.lookup key = none) (node : Node) :
    Table.set key node t = t ++ [(key, node)] := by
  have := set_append h node []
  rwa [List.append_nil] at this

theorem set_last (h : t.lookup key = none) (old node : Node) :
    Table.set key node (t ++ [(key, old)]) = t ++ [(key, node)] := by
  rw [set_append h, Table.set, if_pos rfl]

theorem lookup_append_of_ne (h : t.lookup other = none) (differs : other ≠ key) (node : Node) :
    List.lookup other (t ++ [(key, node)]) = none := by
  rw [List.lookup_append, h, Option.none_or, List.lookup_cons, beq_eq_false_iff_ne.2 differs]
  rfl

theorem lookup_last (h : t.lookup key = none) (node : Node) :
    List.lookup key (t ++ [(key, node)]) = some node := by
  rw [List.lookup_append, h, Option.none_or]
  simp

/-- The place that the lines under a header change. -/
def Lens (header : List Text) (root : Table → Table) : Prop :=
  ∀ change sub, Table.within change header (root sub) = (change sub).map root

theorem lens_root : Lens [] id := by
  intro change sub
  simp [Table.within]

theorem lens_section {name : Text} (h : t.lookup name = none) :
    Lens [name] fun sub => t ++ [(name, .table .declared sub)] := by
  intro change sub
  rw [Table.within, lookup_last h]
  simp only [Table.within]
  cases change sub with
  | none => rfl
  | some sub' => simp [set_last h]

theorem lens_item {name : Text} (h : t.lookup name = none) (items : List Table) :
    Lens [name] fun sub => t ++ [(name, .tables (items ++ [sub]))] := by
  intro change sub
  rw [Table.within, lookup_last h]
  simp only [List.getLast?_append, List.getLast?_singleton, Option.some_or, Table.within,
    List.dropLast_concat]
  cases change sub with
  | none => rfl
  | some sub' => simp [set_last h]

end Tables

structure Field where
  key : Text
  written : Text
  value : Value

namespace Field

def text (f : Field) : Text := entry f.key f.written

def node (f : Field) : Text × Node := (f.key, .value f.value)

end Field

def textField (key s : Text) : Field := ⟨key, Printer.string s, .text s⟩

def textsField (key : Text) (items : List Text) : Field :=
  ⟨key, Printer.strings items, .list (items.map .text)⟩

def numberField (key : Text) (n : Nat) : Field := ⟨key, Numeral.ofNat n, .integer n⟩

structure WellFormed (fields : List Field) : Prop where
  keys : ∀ key ∈ fields.map Field.key, IsKey key
  distinct : (fields.map Field.key).Nodup
  scans : ∀ f ∈ fields, Scans f.written f.value

namespace WellFormed

variable {f : Field} {fields : List Field}

theorem head (h : WellFormed (f :: fields)) : IsKey f.key ∧ Scans f.written f.value :=
  ⟨h.keys _ (by simp), h.scans _ (by simp)⟩

theorem tail (h : WellFormed (f :: fields)) : WellFormed fields where
  keys _ hk := h.keys _ (List.mem_cons_of_mem _ hk)
  distinct := (List.nodup_cons.1 h.distinct).2
  scans _ hg := h.scans _ (List.mem_cons_of_mem _ hg)

theorem key_ne (h : WellFormed (f :: fields)) {g : Field} (hg : g ∈ fields) : g.key ≠ f.key := by
  intro same
  exact (List.nodup_cons.1 h.distinct).1 (same ▸ List.mem_map_of_mem hg)

end WellFormed

namespace Document

variable {header : List Text} {root : Table → Table} {sub : Table}

theorem insertAt_fresh {key : Text} (fresh : sub.lookup key = none) (v : Value) :
    insertAt [key] v sub = some (sub ++ [(key, .value v)]) := by
  have inserted : Table.insert v key [] sub = some (sub ++ [(key, .value v)]) := by
    rw [Table.insert, fresh, set_of_lookup fresh]
    rfl
  exact inserted

theorem line?_of_assignment {d : Document} {s r : Text} {keys : List Text}
    (noBracket : s.head? ≠ some '[') (assigned : assignment? s = some (keys, r)) :
    d.line? s = (value? (r.length + 1) nestingLimit r).bind fun (v, rest) =>
      (Table.within (insertAt keys v) d.header d.root).map (⟨·, d.header⟩, rest) := by
  unfold line?
  split
  · simp at noBracket
  · simp at noBracket
  · rw [assigned, Option.bind_some]

theorem leads_field (lens : Lens header root) {f : Field} (isKey : IsKey f.key)
    (scans : Scans f.written f.value) (fresh : sub.lookup f.key = none) :
    Leads ⟨root sub, header⟩ f.text ⟨root (sub ++ [f.node]), header⟩ := by
  have text : f.text = (f.key ++ (" = ".toList ++ f.written)) ++ ['\n'] := by
    simp [Field.text, entry]
  rw [text]
  apply leads_line
  · simp [isKey.ne_nil]
  · intro rest
    rw [List.append_assoc]
    exact isKey.skipBlanks? _
  · intro rest
    have assigned : assignment? (f.key ++ (" = ".toList ++ f.written) ++ '\n' :: rest) =
        some ([f.key], f.written ++ '\n' :: rest) := by
      rw [List.append_assoc, List.append_assoc]
      exact assignment?_bare isKey (scans.start rest)
    have inside : Table.within (insertAt [f.key] f.value) header (root sub) =
        some (root (sub ++ [f.node])) := by
      rw [lens, insertAt_fresh fresh]
      rfl
    have noBracket : (f.key ++ (" = ".toList ++ f.written) ++ '\n' :: rest).head? ≠ some '[' := by
      rw [List.append_assoc]
      exact isKey.head?_ne (by decide) _
    rw [line?_of_assignment noBracket assigned, scans.read rest]
    simp only [Option.bind_some, inside, Option.map_some]

theorem leads_fields (lens : Lens header root) {fields : List Field}
    (wellFormed : WellFormed fields) (fresh : ∀ f ∈ fields, sub.lookup f.key = none) :
    Leads ⟨root sub, header⟩ (fields.flatMap Field.text)
      ⟨root (sub ++ fields.map Field.node), header⟩ := by
  induction fields generalizing sub with
  | nil =>
    intro rest result ends
    simpa using ends
  | cons f fields ih =>
    obtain ⟨isKey, scans⟩ := wellFormed.head
    have first := leads_field lens isKey scans (fresh f (by simp))
    have others : ∀ g ∈ fields, (sub ++ [f.node]).lookup g.key = none := fun g hg =>
      lookup_append_of_ne (fresh g (by simp [hg])) (wellFormed.key_ne hg) _
    have rest := ih wellFormed.tail others
    rw [List.flatMap_cons, List.map_cons]
    have all := first.append rest
    rwa [List.append_assoc, List.singleton_append] at all

theorem leads_section {t : Table} {name : Text} (isKey : IsKey name) (fresh : t.lookup name = none)
    (above : List Text) :
    Leads ⟨t, above⟩ ('[' :: name ++ "]\n".toList) ⟨t ++ [(name, .table .declared [])], [name]⟩ := by
  have text : '[' :: name ++ "]\n".toList = ('[' :: name ++ [']']) ++ ['\n'] := by simp
  rw [text]
  apply leads_line
  · simp
  · intro rest
    rfl
  · intro rest
    have header := header?_bare isKey ('\n' :: rest)
    have opened : opened ⟨t, above⟩ [name] Table.declare =
        some ⟨t ++ [(name, .table .declared [])], [name]⟩ := by
      have declared : Table.declare name t = some (t ++ [(name, .table .declared [])]) := by
        rw [Table.declare, fresh]
        simp [set_of_lookup fresh]
      exact congrArg (Option.map _) declared
    have noBracket := isKey.head?_ne (c := '[') (by decide) (']' :: '\n' :: rest)
    have text : '[' :: name ++ [']'] ++ '\n' :: rest = '[' :: (name ++ ']' :: '\n' :: rest) := by
      simp
    rw [text]
    unfold line?
    split
    · next e => exact absurd (congrArg List.head? (List.cons.inj e).2) noBracket
    · next e =>
      rw [← (List.cons.inj e).2, header, Option.bind_some]
      simp only [opened, Option.map_some]
    · next e => exact absurd rfl (e _)

theorem leads_item {t t' : Table} {name : Text} (isKey : IsKey name) (above : List Text)
    (extended : Table.extend name t = some t') :
    Leads ⟨t, above⟩ ("[[".toList ++ name ++ "]]\n".toList) ⟨t', [name]⟩ := by
  have text : "[[".toList ++ name ++ "]]\n".toList =
      ('[' :: '[' :: name ++ "]]".toList) ++ ['\n'] := by simp
  rw [text]
  apply leads_line
  · simp
  · intro rest
    rfl
  · intro rest
    have header := header?_bare isKey (']' :: '\n' :: rest)
    have opened : opened ⟨t, above⟩ [name] Table.extend = some ⟨t', [name]⟩ :=
      congrArg (Option.map _) extended
    have text : '[' :: '[' :: name ++ "]]".toList ++ '\n' :: rest =
        '[' :: '[' :: (name ++ ']' :: ']' :: '\n' :: rest) := by
      simp
    rw [text, line?, header]
    simp only [opened, Option.map_some]

def sectionText (name : Text) (fields : List Field) : Text :=
  '[' :: name ++ "]\n".toList ++ fields.flatMap Field.text

theorem leads_sectionText {t : Table} {name : Text} {fields : List Field} (isKey : IsKey name)
    (fresh : t.lookup name = none) (wellFormed : WellFormed fields) (above : List Text) :
    Leads ⟨t, above⟩ (sectionText name fields)
      ⟨t ++ [(name, .table .declared (fields.map Field.node))], [name]⟩ := by
  have opens := leads_section isKey fresh above
  have empty : ∀ f ∈ fields, List.lookup f.key ([] : Table) = none := fun _ _ => rfl
  have fills := leads_fields (lens_section fresh) wellFormed empty
  rw [List.nil_append] at fills
  exact opens.append fills

def itemText (name : Text) (fields : List Field) : Text :=
  "[[".toList ++ name ++ "]]\n".toList ++ fields.flatMap Field.text

def withItems (t : Table) (name : Text) : List Table → Table
  | [] => t
  | items => t ++ [(name, .tables items)]

theorem leads_itemText {t : Table} {name : Text} {fields : List Field} (isKey : IsKey name)
    (fresh : t.lookup name = none) (wellFormed : WellFormed fields) (items : List Table)
    (above : List Text) :
    Leads ⟨withItems t name items, above⟩ (itemText name fields)
      ⟨withItems t name (items ++ [fields.map Field.node]), [name]⟩ := by
  have whole (last : Table) : withItems t name (items ++ [last]) =
      t ++ [(name, .tables (items ++ [last]))] := by
    unfold withItems
    split
    · next e => simp at e
    · rfl
  have extended : Table.extend name (withItems t name items) =
      some (t ++ [(name, .tables (items ++ [[]]))]) := by
    cases items with
    | nil =>
      rw [withItems, Table.extend, fresh]
      simp [set_of_lookup fresh]
    | cons item items =>
      rw [withItems, Table.extend, lookup_last fresh]
      · simp [set_last fresh]
      · simp
  have opens := leads_item isKey above extended
  have empty : ∀ f ∈ fields, List.lookup f.key ([] : Table) = none := fun _ _ => rfl
  have fills := leads_fields (lens_item fresh items) wellFormed empty
  rw [List.nil_append] at fills
  rw [whole]
  exact opens.append fills

inductive Steps : Document → List Text → Document → Prop where
  | nil (d : Document) : Steps d [] d
  | cons {d d₁ d₂ : Document} {block : Text} {blocks : List Text} (first : d.Leads block d₁)
    (rest : Steps d₁ blocks d₂) : Steps d (block :: blocks) d₂

theorem Steps.append {d d₁ d₂ : Document} {blocks more : List Text} (first : Steps d blocks d₁)
    (rest : Steps d₁ more d₂) : Steps d (blocks ++ more) d₂ := by
  induction first with
  | nil => exact rest
  | cons lead _ ih => exact .cons lead (ih rest)

theorem Steps.ends {d d' : Document} {blocks : List Text} (h : Steps d blocks d') :
    d.Ends (document blocks) (.ok d') := by
  induction h with
  | nil d => exact ends_nil d
  | @cons d d₁ d₂ block blocks first rest ih =>
    cases blocks with
    | nil =>
      cases rest
      have ends := first [] _ (ends_nil _)
      rwa [List.append_nil] at ends
    | cons next blocks =>
      have ends := first _ _ (ends_blank ih)
      have text : document (block :: next :: blocks) =
          block ++ '\n' :: document (next :: blocks) := by
        simp [document, Text.joinWith]
      rwa [text]

theorem head?_document {block : Text} {c : Char} (h : block.head? = some c) (blocks : List Text) :
    (document (block :: blocks)).head? = some c := by
  cases blocks with
  | nil => exact h
  | cons next blocks => simp [document, Text.joinWith, h]

theorem Steps.read {blocks : List Text} {d : Document} (h : Steps ⟨[], []⟩ blocks d)
    (start : (document blocks).head? ≠ some '\uFEFF') :
    read (document blocks) = .ok (entriesToValues d.root) :=
  read_of_ends h.ends start

def sectionNode (part : Text × List Field) : Text × Node :=
  (part.1, .table .declared (part.2.map Field.node))

theorem steps_sections {t : Table} {parts : List (Text × List Field)}
    (isKey : ∀ part ∈ parts, IsKey part.1) (wellFormed : ∀ part ∈ parts, WellFormed part.2)
    (distinct : (parts.map Prod.fst).Nodup) (fresh : ∀ part ∈ parts, t.lookup part.1 = none)
    (above : List Text) :
    ∃ header, Steps ⟨t, above⟩ (parts.map fun part => sectionText part.1 part.2)
      ⟨t ++ parts.map sectionNode, header⟩ := by
  induction parts generalizing t above with
  | nil => exact ⟨above, by simpa using Steps.nil _⟩
  | cons part parts ih =>
    rw [List.map_cons, List.nodup_cons] at distinct
    have first := leads_sectionText (isKey part (by simp)) (fresh part (by simp))
      (wellFormed part (by simp)) above
    have others : ∀ other ∈ parts, (t ++ [sectionNode part]).lookup other.1 = none := by
      intro other ho
      have differs : other.1 ≠ part.1 := fun e => distinct.1 (e ▸ List.mem_map_of_mem ho)
      exact lookup_append_of_ne (fresh other (by simp [ho])) differs _
    obtain ⟨header, rest⟩ := ih (fun other ho => isKey other (by simp [ho]))
      (fun other ho => wellFormed other (by simp [ho])) distinct.2 others [part.1]
    refine ⟨header, ?_⟩
    rw [List.append_assoc, List.singleton_append] at rest
    exact .cons first rest

theorem steps_items {t : Table} {name : Text} (isKey : IsKey name) (fresh : t.lookup name = none)
    {groups : List (List Field)} (wellFormed : ∀ fields ∈ groups, WellFormed fields)
    (before : List Table) (above : List Text) :
    ∃ header, Steps ⟨withItems t name before, above⟩ (groups.map (itemText name))
      ⟨withItems t name (before ++ groups.map (List.map Field.node)), header⟩ := by
  induction groups generalizing before above with
  | nil => exact ⟨above, by simpa using Steps.nil _⟩
  | cons fields groups ih =>
    have first := leads_itemText isKey fresh (wellFormed fields (by simp)) before above
    obtain ⟨header, rest⟩ := ih (fun other ho => wellFormed other (by simp [ho]))
      (before ++ [fields.map Field.node]) [name]
    refine ⟨header, ?_⟩
    rw [List.append_assoc, List.singleton_append] at rest
    exact .cons first rest

def tableOf (fields : List Field) : Value := .table (fields.map fun f => (f.key, f.value))

theorem entriesToValues_append (t t' : Table) :
    entriesToValues (t ++ t') = entriesToValues t ++ entriesToValues t' := by
  induction t with
  | nil => rfl
  | cons e t ih =>
    obtain ⟨key, node⟩ := e
    rw [List.cons_append, entriesToValues, entriesToValues, ih, List.cons_append]

theorem entriesToValues_nodes (fields : List Field) :
    entriesToValues (fields.map Field.node) = fields.map fun f => (f.key, f.value) := by
  induction fields with
  | nil => rfl
  | cons f fields ih =>
    rw [List.map_cons, List.map_cons, Field.node, entriesToValues, ih, Node.toValue]

theorem entriesToValues_sections (parts : List (Text × List Field)) :
    entriesToValues (parts.map sectionNode) = parts.map fun part => (part.1, tableOf part.2) := by
  induction parts with
  | nil => rfl
  | cons part parts ih =>
    rw [List.map_cons, List.map_cons, sectionNode, entriesToValues, ih, Node.toValue,
      entriesToValues_nodes, tableOf]

theorem itemsToValues_nodes (groups : List (List Field)) :
    itemsToValues (groups.map (List.map Field.node)) = groups.map tableOf := by
  induction groups with
  | nil => rfl
  | cons fields groups ih =>
    rw [List.map_cons, List.map_cons, itemsToValues, ih, entriesToValues_nodes, tableOf]

end Document

end PlatformLauncher.Toml
