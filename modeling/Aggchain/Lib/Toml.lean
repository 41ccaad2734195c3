import Mathlib.Data.Int.Notation
import Mathlib.Data.List.Forall2
import Mathlib.Data.List.Nodup
import Mathlib.Data.List.Perm.Basic

/-!
# TOML values, as serde reads and writes them

A document is a tree.  What is printed and read again is the same tree up to the order of the keys
in its tables (`Same`), so a round trip is stated for every such tree: `Reads decode t a`.

The readers are the visitors that serde derives: a struct is read from a table, key by key, or from
an array, element by element; a unit variant from its name; a newtype variant from a table with one
key.
-/

/-- `i64` -/
abbrev I64 := { z : ℤ // -9223372036854775808 ≤ z ∧ z < 9223372036854775808 }

/-- `toml::Value`, with the entries of a table in the order of the document. -/
inductive Toml where
  | string (text : String)
  | integer (value : I64)
  | float (bits : UInt64)
  | boolean (value : Bool)
  | datetime (text : String)
  | array (items : List Toml)
  | table (entries : List (String × Toml))

namespace Toml

/-- The same value, but for the order of the keys in its tables. -/
inductive Same : Toml → Toml → Prop where
  | refl (t : Toml) : Same t t
  | array {l l' : List Toml} (h : List.Forall₂ Same l l') : Same (.array l) (.array l')
  | table {l m l' : List (String × Toml)} (hperm : l.Perm m)
      (hkeys : m.map Prod.fst = l'.map Prod.fst)
      (hvalues : List.Forall₂ Same (m.map Prod.snd) (l'.map Prod.snd)) : Same (.table l) (.table l')

variable {α : Type}

/-- However the keys of the value are ordered, it is read as `a`. -/
def Reads (decode : Toml → Option α) (t : Toml) (a : α) : Prop :=
  ∀ t', t.Same t' → decode t' = some a

/-! ## Readers -/

/-- The entries that a visitor of maps is handed: a date is a map with a private key. -/
def entries : Toml → Option (List (String × Toml))
  | .table entries => some entries
  | .datetime text => some [("$__toml_private_datetime", .string text)]
  | _ => none

/-- The values under one of the names. -/
def valuesAt (names : List String) (entries : List (String × Toml)) : List Toml :=
  (entries.filter (fun e => e.1 ∈ names)).map Prod.snd

/-- The values that a derived visitor finds for the field with these names at this position. -/
def field (names : List String) (position : ℕ) (t : Toml) : Option (List Toml) :=
  match t with
  | .array items => some (items[position]?).toList
  | t => t.entries.map (valuesAt names)

/-- A field with a default.  A second value, under any of its names, is an error. -/
def readField (names : List String) (position : ℕ) (decode : Toml → Option α) (default : Option α)
    (t : Toml) : Option α :=
  match t.field names position with
  | some [] => default
  | some [v] => decode v
  | _ => none

/-- The name of a unit variant: a string, or the only key of a table with an empty value. -/
def unitVariant : Toml → Option String
  | .string name => some name
  | .table [(name, .table [])] => some name
  | .table [(name, .array [])] => some name
  | _ => none

/-- The name and the content of a newtype variant. -/
def newtypeVariant : Toml → Option (String × Toml)
  | .table [(name, content)] => some (name, content)
  | _ => none

/-! ## Writers -/

/-- The entry of a field, if it is not skipped. -/
def fieldEntry (f : String × Option Toml) : Option (String × Toml) := f.2.map (fun v => (f.1, v))

/-- A struct: one entry for each field that is not skipped. -/
def struct (fields : List (String × Option Toml)) : Toml := .table (fields.filterMap fieldEntry)

/-- `skip_serializing_if` -/
def skipIf (skip : Prop) [Decidable skip] (value : Option Toml) : Option (Option Toml) :=
  if skip then some none else value.map some

theorem exists_skipIf {skip : Prop} [Decidable skip] {value : Option Toml} {w : Toml}
    (h : value = some w) : ∃ v, skipIf skip value = some v := by
  by_cases hs : skip
  · exact ⟨none, if_pos hs⟩
  · exact ⟨some w, by rw [skipIf, if_neg hs, h]; rfl⟩

/-! ## What is read back -/

section Same

variable {t' : Toml}

theorem same_string {text : String} (h : Same (.string text) t') : t' = .string text := by
  cases h
  rfl

theorem same_integer {value : I64} (h : Same (.integer value) t') : t' = .integer value := by
  cases h
  rfl

theorem same_array {l : List Toml} (h : Same (.array l) t') :
    ∃ l', t' = .array l' ∧ List.Forall₂ Same l l' := by
  cases h with
  | refl => exact ⟨l, rfl, List.forall₂_same.mpr fun t _ => .refl t⟩
  | array h => exact ⟨_, rfl, h⟩

/-- The same key, with a value that is the same. -/
def SameEntry (e e' : String × Toml) : Prop := e.1 = e'.1 ∧ Same e.2 e'.2

theorem forall₂_sameEntry : ∀ {l l' : List (String × Toml)}, l.map Prod.fst = l'.map Prod.fst →
    List.Forall₂ Same (l.map Prod.snd) (l'.map Prod.snd) → List.Forall₂ SameEntry l l'
  | [], [], _, _ => .nil
  | [], _ :: _, hkeys, _ | _ :: _, [], hkeys, _ => by simp at hkeys
  | e :: l, e' :: l', hkeys, hvalues => by
    rw [List.map_cons, List.map_cons] at hkeys hvalues
    obtain ⟨hkey, hkeys⟩ := List.cons.inj hkeys
    obtain ⟨hvalue, hvalues⟩ := List.forall₂_cons.mp hvalues
    exact .cons ⟨hkey, hvalue⟩ (forall₂_sameEntry hkeys hvalues)

/-- Entry by entry, after a permutation. -/
theorem same_table {l : List (String × Toml)} (h : Same (.table l) t') :
    ∃ m l', t' = .table l' ∧ l.Perm m ∧ List.Forall₂ SameEntry m l' := by
  cases h with
  | refl => exact ⟨l, l, rfl, .refl l, List.forall₂_same.mpr fun e _ => ⟨rfl, .refl e.2⟩⟩
  | table hperm hkeys hvalues => exact ⟨_, _, rfl, hperm, forall₂_sameEntry hkeys hvalues⟩

/-- The entries under some names. -/
theorem same_filter {l : List (String × Toml)} (h : Same (.table l) t') (names : List String) :
    ∃ m l', t' = .table l' ∧ (l.filter (fun e => e.1 ∈ names)).Perm m ∧
      List.Forall₂ SameEntry m (l'.filter (fun e => e.1 ∈ names)) := by
  obtain ⟨m, l', rfl, hperm, hentries⟩ := same_table h
  refine ⟨m.filter (fun e => e.1 ∈ names), l', rfl, hperm.filter _, ?_⟩
  refine List.rel_filter ?_ hentries
  intro e e' he
  simp only [he.1]

/-- A table without the field. -/
theorem field_of_absent {names : List String} {l : List (String × Toml)}
    (h : l.filter (fun e => e.1 ∈ names) = []) (position : ℕ) (hsame : Same (.table l) t') :
    t'.field names position = some [] := by
  obtain ⟨m, l', rfl, hperm, hentries⟩ := same_filter hsame names
  rw [h] at hperm
  obtain rfl := List.nil_perm.mp hperm
  simp only [field, entries, Option.map_some, valuesAt, List.forall₂_nil_left_iff.mp hentries,
    List.map_nil]

/-- A table with one value for the field. -/
theorem field_of_present {names : List String} {l : List (String × Toml)} {e : String × Toml}
    (h : l.filter (fun e => e.1 ∈ names) = [e]) (position : ℕ) (hsame : Same (.table l) t') :
    ∃ v, t'.field names position = some [v] ∧ Same e.2 v := by
  obtain ⟨m, l', rfl, hperm, hentries⟩ := same_filter hsame names
  rw [h] at hperm
  obtain rfl := List.singleton_perm.mp hperm
  obtain ⟨e', rest, he', hrest, hl'⟩ := List.forall₂_cons_left_iff.mp hentries
  obtain rfl := List.forall₂_nil_left_iff.mp hrest
  refine ⟨e'.2, ?_, he'.2⟩
  simp only [field, entries, Option.map_some, valuesAt, hl', List.map_cons, List.map_nil]

end Same

/-! ### Structs -/

section Struct

variable {fields : List (String × Option Toml)} {names : List String} {name : String}
  {decode : Toml → Option α} {default : Option α} {a : α} {t' : Toml}

/-- The name of a field, and none of its aliases, is a key of the struct. -/
structure FieldOf (fields : List (String × Option Toml)) (names : List String)
    (field : String × Option Toml) : Prop where
  nodup : (fields.map Prod.fst).Nodup
  mem : field ∈ fields
  name : field.1 ∈ names
  only : ∀ f ∈ fields, f.1 ∈ names → f.1 = field.1

theorem fieldEntry_eq_some {f : String × Option Toml} {e : String × Toml} (h : fieldEntry f = some e) :
    e.1 = f.1 := by
  obtain ⟨v, -, rfl⟩ := Option.map_eq_some_iff.mp h
  rfl

/-- Other fields have no entry under the names. -/
theorem filter_fieldEntry_eq_nil (h : ∀ f ∈ fields, f.1 ∉ names) :
    (fields.filterMap fieldEntry).filter (fun e => e.1 ∈ names) = [] := by
  refine List.filter_eq_nil_iff.mpr ?_
  intro e he
  obtain ⟨f, hf, hentry⟩ := List.mem_filterMap.mp he
  rw [decide_eq_true_iff, fieldEntry_eq_some hentry]
  exact h f hf

/-- The entries under the names are the one of the field, unless it is skipped. -/
theorem FieldOf.filter_eq {v : Option Toml} (h : FieldOf fields names (name, v)) :
    (fields.filterMap fieldEntry).filter (fun e => e.1 ∈ names) =
      (fieldEntry (name, v)).toList := by
  obtain ⟨l, l', rfl⟩ := List.append_of_mem h.mem
  have hnodup := h.nodup
  rw [List.map_append, List.map_cons, List.nodup_middle, List.nodup_cons] at hnodup
  have hother : ∀ f ∈ l ++ l', f.1 ∉ names := by
    intro f hf hmem
    have heq : f.1 = name := h.only f (by
      rcases List.mem_append.mp hf with hf | hf
      · exact List.mem_append_left _ hf
      · exact List.mem_append_right _ (List.mem_cons_of_mem _ hf)) hmem
    refine hnodup.1 ?_
    rw [← List.map_append]
    exact List.mem_map.mpr ⟨f, hf, heq⟩
  rw [List.forall_mem_append] at hother
  rw [List.filterMap_append, List.filter_append, List.filterMap_cons,
    filter_fieldEntry_eq_nil hother.1, List.nil_append]
  cases v with
  | none => exact filter_fieldEntry_eq_nil hother.2
  | some v =>
    have hname : decide (name ∈ names) = true := decide_eq_true h.name
    simp only [fieldEntry, Option.map_some, List.filter_cons, hname, if_true]
    rw [filter_fieldEntry_eq_nil hother.2]
    rfl

/-- A field without aliases. -/
theorem FieldOf.plain {v : Option Toml} (hnodup : (fields.map Prod.fst).Nodup)
    (hmem : (name, v) ∈ fields) : FieldOf fields [name] (name, v) :=
  ⟨hnodup, hmem, List.mem_singleton_self name, fun _ _ h => List.mem_singleton.mp h⟩

/-- A field with an alias, which is written under its name. -/
theorem FieldOf.aliased {v : Option Toml} {other : String} (hnodup : (fields.map Prod.fst).Nodup)
    (hother : other ∉ fields.map Prod.fst) (hmem : (name, v) ∈ fields) :
    FieldOf fields [name, other] (name, v) := by
  refine ⟨hnodup, hmem, List.mem_cons_self, ?_⟩
  intro f hf hname
  rw [List.mem_cons, List.mem_singleton] at hname
  rcases hname with hname | hname
  · exact hname
  · exact absurd (hname ▸ List.mem_map_of_mem hf) hother

/-- A field that was written is read back, and one that was skipped gets its default. -/
theorem readField_struct {v : Option Toml} {position : ℕ} (hsame : (struct fields).Same t')
    (h : FieldOf fields names (name, v)) (hwritten : ∀ w, v = some w → Reads decode w a)
    (hskipped : v = none → default = some a) :
    t'.readField names position decode default = some a := by
  cases v with
  | none => rw [readField, field_of_absent h.filter_eq position hsame, hskipped rfl]
  | some w =>
    obtain ⟨w', hfield, hw'⟩ := field_of_present h.filter_eq position hsame
    rw [readField, hfield]
    exact hwritten w rfl w' hw'

/-- A field that is always written. -/
theorem readField_written {w : Toml} {position : ℕ} (hsame : (struct fields).Same t')
    (h : FieldOf fields names (name, some w)) (hw : Reads decode w a) :
    t'.readField names position decode default = some a := by
  refine readField_struct hsame h ?_ ?_
  · intro w' hw'
    obtain rfl := Option.some.inj hw'
    exact hw
  · intro hnone
    cases hnone

/-- Whatever is read for such a field was decoded from what was written. -/
theorem decode_of_readField {w : Toml} {position : ℕ} (hsame : (struct fields).Same t')
    (h : FieldOf fields names (name, some w))
    (hread : t'.readField names position decode default = some a) :
    ∃ w', w.Same w' ∧ decode w' = some a := by
  obtain ⟨w', hfield, hw'⟩ := field_of_present h.filter_eq position hsame
  rw [readField, hfield] at hread
  exact ⟨w', hw', hread⟩

/-- A field that is skipped where the default is as good. -/
theorem readField_skipIf {skip : Prop} [Decidable skip] {value : Option Toml} {v : Option Toml}
    {position : ℕ} (hv : skipIf skip value = some v) (hsame : (struct fields).Same t')
    (h : FieldOf fields names (name, v)) (hskip : skip → default = some a)
    (hvalue : ∀ w, value = some w → Reads decode w a) :
    t'.readField names position decode default = some a := by
  unfold skipIf at hv
  split_ifs at hv with hs
  · obtain rfl := Option.some.inj hv
    refine readField_struct hsame h ?_ (fun _ => hskip hs)
    intro w hw
    cases hw
  · obtain ⟨w, hw, rfl⟩ := Option.map_eq_some_iff.mp hv
    exact readField_written hsame h (hvalue w hw)

end Struct

/-- What is read for a field is its default or was decoded from its value. -/
theorem readField_cases {names : List String} {position : ℕ} {decode : Toml → Option α}
    {default : Option α} {t : Toml} {a : α}
    (h : t.readField names position decode default = some a) :
    (t.field names position = some [] ∧ default = some a) ∨
      ∃ v, t.field names position = some [v] ∧ decode v = some a := by
  unfold readField at h
  split at h
  · exact Or.inl ⟨‹_›, h⟩
  · exact Or.inr ⟨_, ‹_›, h⟩
  · cases h

/-! ### Variants -/

theorem reads_unitVariant {name : String} {decode : String → Option α} {a : α}
    (h : decode name = some a) : Reads (fun t => t.unitVariant.bind decode) (.string name) a := by
  intro t' hsame
  obtain rfl := same_string hsame
  exact h

theorem newtypeVariant_of_same {name : String} {v t' : Toml} (h : Same (.table [(name, v)]) t') :
    ∃ v', t'.newtypeVariant = some (name, v') ∧ Same v v' := by
  obtain ⟨m, l', rfl, hperm, hentries⟩ := same_table h
  obtain rfl := List.singleton_perm.mp hperm
  obtain ⟨⟨name', v'⟩, rest, he', hrest, rfl⟩ := List.forall₂_cons_left_iff.mp hentries
  obtain rfl := List.forall₂_nil_left_iff.mp hrest
  obtain ⟨rfl, hv'⟩ := he'
  exact ⟨v', rfl, hv'⟩

/-- A newtype variant is read from what its content is read from. -/
theorem reads_newtypeVariant {β : Type} {name : String} {decode : Toml → Option α}
    {deserialize : Toml → Option β} {f : α → β} {w : Toml} {a : α}
    (h : ∀ t content, t.newtypeVariant = some (name, content) →
      deserialize t = (decode content).map f)
    (hw : Reads decode w a) : Reads deserialize (.table [(name, w)]) (f a) := by
  intro t' hsame
  obtain ⟨content, hvariant, hcontent⟩ := newtypeVariant_of_same hsame
  rw [h t' content hvariant, hw content hcontent, Option.map_some]

end Toml
