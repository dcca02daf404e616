import PlatformLauncher.Proofs.Settings.Leaf
import PlatformLauncher.Settings.KeyPath

/-!
What laying a layer over layered values does to the leaves. A change either spares a leaf or sets it,
and the last change that sets it decides. Main statements: `sets_section` and `spares_section` for a
table of fields, `Gives.holds` for a whole layer.
-/
namespace PlatformLauncher

namespace Layered

def replaces : Layered → Bool
  | table .. => false
  | _ => true

theorem assign_of_replaces {v : Layered} (h : v.replaces = true) (t : Layered) (key : Text) :
    assign t key v = t.put key v := by
  cases v with
  | table o es => simp [replaces] at h
  | scalar o s => simp [assign]
  | list o xs => simp [assign]

theorem get?_assignAll {es : List (Text × Layered)} {field : Text}
    (plain : ∀ e ∈ es, e.2.replaces = true ∧ Text.lower e.1 = e.1)
    (lowered : Text.lower field = field) (t : Layered) :
    ((∀ e ∈ es, e.1 ≠ field) ∧ (assignAll t es).get? field = t.get? field) ∨
      ∃ w, (field, w) ∈ es ∧ (assignAll t es).get? field = some w := by
  induction es generalizing t with
  | nil => exact .inl ⟨by simp, by simp [assignAll]⟩
  | cons e es ih =>
    obtain ⟨key, v⟩ := e
    have head := plain (key, v) (by simp)
    have first : (assign t key v).get? field = if field = key then some v else t.get? field := by
      rw [assign_of_replaces head.1, get?_put, lowered, head.2]
    rw [assignAll]
    rcases ih (fun e he => plain e (by simp [he])) (assign t key v) with ⟨others, kept⟩ | ⟨w, hw, set⟩
    · rw [first] at kept
      by_cases h : field = key
      · subst h
        exact .inr ⟨v, by simp, by simpa using kept⟩
      · refine .inl ⟨?_, by simpa [h] using kept⟩
        intro e he
        rcases List.mem_cons.1 he with rfl | he
        · exact Ne.symm h
        · exact others e he
    · exact .inr ⟨w, by simp [hw], set⟩

end Layered

namespace Settings
open Layered

abbrev Overrides := (l : Leaf) → Option l.kind.Value

def Spares (change : Layered → Layered) (l : Leaf) : Prop :=
  ∀ root, (change root).at? l.path = root.at? l.path

def Sets (change : Layered → Layered) (l : Leaf) (x : l.kind.Value) : Prop :=
  ∀ root, Holds (change root) l x

def Agrees (O : Overrides) (change : Layered → Layered) : Prop :=
  ∀ l, Spares change l ∨ ∃ x, O l = some x ∧ Sets change l x

theorem Spares.holds {change : Layered → Layered} {l : Leaf} (h : Spares change l) {root : Layered}
    {x : l.kind.Value} : Holds (change root) l x ↔ Holds root l x := by
  rw [Holds, Holds, Reads, Reads, h root]

section
variable {O : Overrides} {first next : Layered → Layered} {l : Leaf} {x : l.kind.Value}

theorem Sets.andThen (h : Sets first l x) (hx : O l = some x) (agrees : Agrees O next) :
    Sets (fun root => next (first root)) l x := by
  intro root
  rcases agrees l with spares | ⟨y, hy, sets⟩
  · exact spares.holds.2 (h root)
  · cases hx.symm.trans hy
    exact sets (first root)

theorem Agrees.andThen (h : Agrees O first) (agrees : Agrees O next) :
    Agrees O fun root => next (first root) := by
  intro l
  rcases h l with spares | ⟨x, hx, sets⟩
  · rcases agrees l with spares' | ⟨y, hy, sets'⟩
    · exact .inl fun root => (spares' (first root)).trans (spares root)
    · exact .inr ⟨y, hy, fun root => sets' (first root)⟩
  · exact .inr ⟨x, hx, sets.andThen hx agrees⟩

end

/-- A layer that gives the leaves the values of `O`, each by at least one entry. -/
structure Gives (layer : List (Text × Layered)) (O : Overrides) : Prop where
  agrees : ∀ e ∈ layer, Agrees O (overlay · e)
  sets : ∀ l x, O l = some x → ∃ e ∈ layer, Sets (overlay · e) l x

theorem agrees_overlayAll {O : Overrides} {layer : List (Text × Layered)}
    (h : ∀ e ∈ layer, Agrees O (overlay · e)) : Agrees O (overlayAll · layer) := by
  induction layer with
  | nil => exact fun l => .inl fun root => rfl
  | cons e layer ih =>
    have head : Agrees O (overlay · e) := h e (by simp)
    have tail : Agrees O (overlayAll · layer) := ih fun e he => h e (by simp [he])
    exact head.andThen tail

theorem sets_overlayAll {O : Overrides} {layer : List (Text × Layered)} {l : Leaf} {x : l.kind.Value}
    (h : ∀ e ∈ layer, Agrees O (overlay · e)) (hx : O l = some x) {e : Text × Layered}
    (he : e ∈ layer) (sets : Sets (overlay · e) l x) : Sets (overlayAll · layer) l x := by
  induction layer with
  | nil => simp at he
  | cons e' layer ih =>
    have tail : ∀ e ∈ layer, Agrees O (overlay · e) := fun e he => h e (by simp [he])
    rcases List.mem_cons.1 he with rfl | he
    · exact sets.andThen hx (agrees_overlayAll tail)
    · exact fun root => ih tail he (root.overlay e')

theorem Gives.holds_given {layer : List (Text × Layered)} {O : Overrides} (h : Gives layer O)
    (root : Layered) {l : Leaf} {x : l.kind.Value} (hx : O l = some x) :
    Holds (root.overlayAll layer) l x := by
  obtain ⟨e, he, sets⟩ := h.sets l x hx
  exact sets_overlayAll h.agrees hx he sets root

theorem Gives.holds {layer : List (Text × Layered)} {O : Overrides} (h : Gives layer O)
    {root : Layered} {value : (l : Leaf) → l.kind.Value} (before : ∀ l, Holds root l (value l))
    (l : Leaf) : Holds (root.overlayAll layer) l ((O l).getD (value l)) := by
  cases hx : O l with
  | none =>
    rcases agrees_overlayAll h.agrees l with spares | ⟨y, hy, -⟩
    · exact spares.holds.2 (before l)
    · simp [hx] at hy
  | some x => exact h.holds_given root hx

theorem at?_put_elsewhere {m : Leaf} {key : Text} (lowered : Text.lower key = key)
    (h : m.top ≠ key) (root v : Layered) : (root.put key v).at? m.path = root.at? m.path := by
  cases hm : m.path with
  | nil => cases m <;> simp [Leaf.path] at hm
  | cons k rest =>
    have top : m.top = k := by simp [Leaf.top, hm]
    have other : Text.lower k ≠ Text.lower key := by
      rw [m.lower_path k (by simp [hm]), lowered, ← top]
      exact h
    rw [at?_put, if_neg other]

section
variable {O : Overrides} {key field : Text} {o : Option Text} {es : List (Text × Layered)}
  {l m : Leaf}

def FieldsGive (O : Overrides) (key : Text) (es : List (Text × Layered)) : Prop :=
  ∀ e ∈ es, ∃ l x, l.path = [key, e.1] ∧ O l = some x ∧ e.2.replaces = true ∧
    l.kind.decode e.2 = .ok x

theorem FieldsGive.nil : FieldsGive O key [] := by
  intro e he
  simp at he

theorem FieldsGive.cons (l : Leaf) {w : Layered} {x : l.kind.Value} (hl : l.path = [key, field])
    (hx : O l = some x) (replaces : w.replaces = true) (decoded : l.kind.decode w = .ok x)
    (rest : FieldsGive O key es) : FieldsGive O key ((field, w) :: es) :=
  List.forall_mem_cons.2 ⟨⟨l, x, hl, hx, replaces, decoded⟩, rest⟩

theorem FieldsGive.plain (h : FieldsGive O key es) :
    ∀ e ∈ es, e.2.replaces = true ∧ Text.lower e.1 = e.1 := by
  intro e he
  obtain ⟨l, x, hl, hx, replaces, decoded⟩ := h e he
  exact ⟨replaces, l.lower_path e.1 (by simp [hl])⟩

theorem overlay_section (hl : l.path = [key, field]) (root : Layered) :
    root.overlay (key, table o es) =
      root.put key (assignAll ((root.get? key).getD (table none [])) es) := by
  have parsed : KeyPath.parse? key = some [.child key] := by
    cases l <;> simp only [Leaf.path, List.cons.injEq, reduceCtorEq, and_true, and_false] at hl
    all_goals obtain ⟨rfl, -⟩ := hl; decide
  simp [overlay, parsed, place, assign]

theorem at?_overlay_section (hm : m.path = [key, field]) (root : Layered) :
    (root.overlay (key, table o es)).at? m.path =
      (assignAll ((root.get? key).getD (table none [])) es).get? field := by
  rw [overlay_section hm, hm, at?_put, if_pos rfl, at?_single]

theorem sets_section (h : FieldsGive O key es) (hm : m.path = [key, field]) {x : m.kind.Value}
    (hx : O m = some x) {w : Layered} (hw : (field, w) ∈ es) :
    Sets (overlay · (key, table o es)) m x := by
  intro root
  have lowered : Text.lower field = field := m.lower_path field (by simp [hm])
  rcases get?_assignAll h.plain lowered ((root.get? key).getD (table none [])) with
    ⟨others, -⟩ | ⟨w', hw', found⟩
  · exact absurd rfl (others (field, w) hw)
  · obtain ⟨l, x', hl, hx', -, decoded⟩ := h _ hw'
    cases Leaf.path_injective (hl.trans hm.symm)
    cases hx'.symm.trans hx
    exact ⟨w', (at?_overlay_section hm root).trans found, decoded⟩

theorem spares_section (h : FieldsGive O key es) (hl : l.path = [key, field])
    (hm : ∀ e ∈ es, m.path ≠ [key, e.1]) : Spares (overlay · (key, table o es)) m := by
  intro root
  have lowered : Text.lower key = key := l.lower_path key (by simp [hl])
  by_cases top : m.top = key
  · obtain ⟨field', hm'⟩ := Leaf.path_of_top hl top
    have lowered' : Text.lower field' = field' := m.lower_path field' (by simp [hm'])
    rcases get?_assignAll h.plain lowered' ((root.get? key).getD (table none [])) with
      ⟨-, kept⟩ | ⟨w, hw, -⟩
    · exact (at?_overlay_section hm' root).trans (by rw [kept, hm', at?_pair])
    · exact absurd hm' (hm _ hw)
  · simp only [overlay_section hl, at?_put_elsewhere lowered top]

theorem agrees_section (h : FieldsGive O key es) (hl : l.path = [key, field]) :
    Agrees O (overlay · (key, table o es)) := by
  intro m
  by_cases hm : ∃ e ∈ es, m.path = [key, e.1]
  · obtain ⟨e, he, hm⟩ := hm
    obtain ⟨l', x, hl', hx, -, -⟩ := h e he
    cases Leaf.path_injective (hl'.trans hm.symm)
    exact .inr ⟨x, hx, sets_section h hm hx he⟩
  · exact .inl (spares_section h hl fun e he hm' => hm ⟨e, he, hm'⟩)

end

section
variable {O : Overrides} {key field : Text} {v : Layered} {l m : Leaf}

theorem overlay_packages (replaces : v.replaces = true) (root : Layered) :
    root.overlay ("packages".toList, v) = root.put "packages".toList v := by
  have parsed : KeyPath.parse? "packages".toList = some [.child "packages".toList] := by decide
  simp only [overlay, parsed, place, assign_of_replaces replaces]

theorem sets_packages {ps : List PackageEntry} (replaces : v.replaces = true)
    (decoded : decodeList decodePackage v = .ok ps) :
    Sets (overlay · ("packages".toList, v)) .packages ps := by
  intro root
  refine ⟨v, ?_, decoded⟩
  simp only [overlay_packages replaces, Leaf.path, at?_put, if_true, at?]

theorem agrees_packages {ps : List PackageEntry} (hx : O .packages = some ps)
    (replaces : v.replaces = true) (decoded : decodeList decodePackage v = .ok ps) :
    Agrees O (overlay · ("packages".toList, v)) := by
  intro m
  by_cases same : m = .packages
  · subst same
    exact .inr ⟨ps, hx, sets_packages replaces decoded⟩
  · left
    intro root
    have top : m.top ≠ "packages".toList := fun h => same (Leaf.eq_packages_of_top h)
    have lowered : Text.lower "packages".toList = "packages".toList := by decide
    simp only [overlay_packages replaces, at?_put_elsewhere lowered top]

theorem overlay_key (hl : l.path = [key, field]) (replaces : v.replaces = true) (root : Layered) :
    root.overlay (l.key, v) = root.put key (((root.get? key).getD nothing).put field v) := by
  have parsed : KeyPath.parse? l.key = some [.child key, .child field] := by
    cases l <;> simp only [Leaf.path, List.cons.injEq, reduceCtorEq, and_true, and_false] at hl
    all_goals obtain ⟨rfl, rfl⟩ := hl; decide
  simp [overlay, parsed, place, assign_of_replaces replaces]

theorem sets_key (hl : l.path = [key, field]) {x : l.kind.Value} (replaces : v.replaces = true)
    (decoded : l.kind.decode v = .ok x) : Sets (overlay · (l.key, v)) l x := by
  intro root
  refine ⟨v, ?_, decoded⟩
  simp only [overlay_key hl replaces, hl]
  rw [at?_put, if_pos rfl, at?_put, if_pos rfl, at?]

theorem agrees_key (hl : l.path = [key, field]) {x : l.kind.Value} (hx : O l = some x)
    (replaces : v.replaces = true) (decoded : l.kind.decode v = .ok x) :
    Agrees O (overlay · (l.key, v)) := by
  intro m
  by_cases same : m = l
  · subst same
    exact .inr ⟨x, hx, sets_key hl replaces decoded⟩
  · left
    intro root
    have lowered : Text.lower key = key := l.lower_path key (by simp [hl])
    simp only [overlay_key hl replaces]
    by_cases top : m.top = key
    · obtain ⟨field', hm⟩ := Leaf.path_of_top hl top
      have other : Text.lower field' ≠ Text.lower field := by
        rw [m.lower_path field' (by simp [hm]), l.lower_path field (by simp [hl])]
        rintro rfl
        exact same (Leaf.path_injective (hm.trans hl.symm))
      rw [hm, at?_put, if_pos rfl, at?_put, if_neg other, at?_single, at?_pair]
      cases root.get? key <;> rfl
    · rw [at?_put_elsewhere lowered top]

end

inductive EntryGives (O : Overrides) : Text × Layered → Prop where
  | packages {v : Layered} {ps : List PackageEntry} (given : O .packages = some ps)
    (replaces : v.replaces = true) (decoded : decodeList decodePackage v = .ok ps) :
    EntryGives O ("packages".toList, v)
  | fields (l : Leaf) {key field : Text} {o : Option Text} {es : List (Text × Layered)}
    (isSection : l.path = [key, field]) (each : FieldsGive O key es) :
    EntryGives O (key, table o es)

theorem EntryGives.agrees {O : Overrides} {e : Text × Layered} (h : EntryGives O e) :
    Agrees O (overlay · e) := by
  cases h with
  | packages given replaces decoded => exact agrees_packages given replaces decoded
  | fields l isSection each => exact agrees_section each isSection

theorem mem_of_lookup {key : Text} {v : Layered} {es : List (Text × Layered)}
    (h : es.lookup key = some v) : (key, v) ∈ es := by
  obtain ⟨before, after, rfl, -⟩ := List.lookup_eq_some_iff.1 h
  simp

theorem EntryGives.sets_packages {O : Overrides} {v : Layered} {x : List PackageEntry}
    (h : EntryGives O ("packages".toList, v)) (hx : O .packages = some x) :
    Sets (overlay · ("packages".toList, v)) .packages x := by
  generalize he : ("packages".toList, v) = e at h
  cases h with
  | packages given replaces decoded =>
    cases he
    cases given.symm.trans hx
    exact Settings.sets_packages replaces decoded
  | fields l isSection each =>
    cases he
    have top : l.top = "packages".toList := by rw [Leaf.top, isSection]; rfl
    cases Leaf.eq_packages_of_top top
    cases isSection

theorem EntryGives.sets_field {O : Overrides} {part w : Layered} {l : Leaf} {key field : Text}
    {x : l.kind.Value} (h : EntryGives O (key, part)) (hl : l.path = [key, field])
    (hx : O l = some x) (hw : part.get? field = some w) : Sets (overlay · (key, part)) l x := by
  generalize he : (key, part) = e at h
  cases h with
  | packages given replaces decoded =>
    cases he
    have top : l.top = "packages".toList := by rw [Leaf.top, hl]; rfl
    cases Leaf.eq_packages_of_top top
    cases hl
  | fields _ isSection each =>
    cases he
    have lowered : Text.lower field = field := l.lower_path field (by simp [hl])
    rw [get?, lowered] at hw
    exact sets_section each hl hx (mem_of_lookup hw)

theorem gives_of_entries {layer : List (Text × Layered)} {O : Overrides}
    (each : ∀ e ∈ layer, EntryGives O e)
    (all : ∀ l, (O l).isSome → ((table none layer).at? l.path).isSome) : Gives layer O where
  agrees e he := (each e he).agrees
  sets l x hx := by
    obtain ⟨w, hw⟩ := Option.isSome_iff_exists.1 (all l (by simp [hx]))
    rcases l.path_cases with rfl | ⟨key, field, hl⟩
    · rw [Leaf.path, at?_single] at hw
      have inLayer : ("packages".toList, w) ∈ layer := mem_of_lookup hw
      exact ⟨_, inLayer, (each _ inLayer).sets_packages hx⟩
    · rw [hl, at?] at hw
      obtain ⟨part, hp, hw⟩ := Option.bind_eq_some_iff.1 hw
      rw [at?_single] at hw
      have lowered : Text.lower key = key := l.lower_path key (by simp [hl])
      rw [get?, lowered] at hp
      have inLayer : (key, part) ∈ layer := mem_of_lookup hp
      exact ⟨_, inLayer, (each _ inLayer).sets_field hl hx hw⟩

end Settings

end PlatformLauncher
