import BlocklistSync.Proofs.Toml.Keys
import BlocklistSync.Settings.Document
import Mathlib.Data.Nat.Notation

/-! Sections of settings. A section is read field by field, in the order of the document if it is a
table and in its own order if it is an array, and each field changes a part of it that is its own.
So a part is told by what the document gives for its field, or stays as it was, whatever the
document gives for the others. -/
namespace BlocklistSync.Settings.Document
open BlocklistSync.Toml

variable {σ α : Type} {fields : List (Field σ)} {place : ℕ} {name : String}
  {read : Value → Option α} {get : σ → α}
  {es : List (String × Value)} {s s' : σ}

section Fields

/-- The field puts in its part what it reads, and fails where it reads nothing. -/
def Field.Tells (f : Field σ) (read : Value → Option α) (get : σ → α) : Prop :=
  ∀ v s, (f.set v s).map get = read v

def Field.Keeps (f : Field σ) (get : σ → α) : Prop := ∀ v s s', f.set v s = some s' → get s' = get s

theorem tells_field {put : α → σ → σ} (h : ∀ a s, get (put a s) = a) :
    (field name read put).Tells read get := by
  intro v s
  cases hread : read v with
  | none => simp only [field, hread, Option.map_none]
  | some a => simp only [field, hread, Option.map_some, h]

/-- The field has another name, and leaves the part alone. -/
structure Field.Apart (f : Field σ) (name : String) (get : σ → α) : Prop where
  name_ne : f.name ≠ name
  keeps : f.Keeps get

theorem apart_field {β : Type} {other : String} {readOther : Value → Option β} {put : β → σ → σ}
    (hname : other ≠ name)
    (h : ∀ b s, get (put b s) = get s) : (field other readOther put).Apart name get := by
  refine ⟨hname, fun v s s' hs => ?_⟩
  obtain ⟨b, -, rfl⟩ := Option.map_eq_some_iff.mp hs
  exact h b s

/-- Of the fields one tells the part, under this name and at this place, and the others leave it
alone. -/
def Owns (fields : List (Field σ)) (place : ℕ) (name : String) (read : Value → Option α)
    (get : σ → α) : Prop :=
  ∃ before f after, fields = before ++ f :: after ∧ before.length = place ∧ f.name = name ∧
    f.Tells read get ∧
    ∀ g ∈ before ++ after, g.Apart name get

end Fields

section Entries

theorem name_of_find? {k : String} {f : Field σ} (h : fields.find? (·.name == k) = some f) :
    f.name = k := by
  simpa using List.find?_some h

theorem Owns.find?_self (h : Owns fields place name read get) :
    ∃ f, fields.find? (·.name == name) = some f ∧ f.Tells read get := by
  obtain ⟨before, f, after, rfl, -, rfl, htells, hothers⟩ := h
  have hbefore : before.find? (·.name == f.name) = none := List.find?_eq_none.mpr fun g hg heq =>
    (hothers g (List.mem_append_left _ hg)).name_ne (eq_of_beq heq)
  refine ⟨f, ?_, htells⟩
  rw [List.find?_append, hbefore, Option.none_or, List.find?_cons_of_pos]
  exact beq_self_eq_true _

theorem Owns.keeps_of_find? (h : Owns fields place name read get) {k : String} {g : Field σ}
    (hk : k ≠ name)
    (hg : fields.find? (·.name == k) = some g) : g.Keeps get := by
  obtain ⟨before, f, after, rfl, -, rfl, -, hothers⟩ := h
  have hname : g.name = k := name_of_find? hg
  refine (hothers g ?_).keeps
  rcases List.mem_append.mp (List.mem_of_find?_eq_some hg) with hmem | hmem
  · exact List.mem_append_left _ hmem
  · rcases List.mem_cons.mp hmem with rfl | hmem
    · exact absurd hname.symm hk
    · exact List.mem_append_right _ hmem

theorem Owns.get_ofEntries_of_notMem (h : Owns fields place name read get)
    (hname : name ∉ es.map Prod.fst) (hs : ofEntries fields es s = some s') : get s' = get s := by
  induction es generalizing s with
  | nil => rw [Option.some.inj hs]
  | cons e es ih =>
    have hk : e.1 ≠ name := fun heq => hname (heq ▸ List.mem_cons_self ..)
    have hrest : name ∉ es.map Prod.fst := fun hmem => hname (List.mem_cons_of_mem _ hmem)
    rw [ofEntries] at hs
    split at hs
    · next f hf =>
      obtain ⟨next, hnext, hs⟩ := Option.bind_eq_some_iff.mp hs
      rw [ih hrest hs, h.keeps_of_find? hk hf _ _ _ hnext]
    · exact ih hrest hs

/-- The part is told by the entry of its name, or else it is what it was. -/
theorem Owns.get_ofEntries (h : Owns fields place name read get) (hkeys : (es.map Prod.fst).Nodup)
    (hs : ofEntries fields es s = some s') :
    (es.lookup name).elim (some (get s)) read = some (get s') := by
  induction es generalizing s with
  | nil =>
    rw [Option.some.inj hs]
    rfl
  | cons e es ih =>
    obtain ⟨k, v⟩ := e
    obtain ⟨hnew, hkeys⟩ := List.nodup_cons.mp hkeys
    rw [ofEntries] at hs
    by_cases hk : name = k
    · subst hk
      obtain ⟨f, hf, htells⟩ := h.find?_self
      rw [hf] at hs
      obtain ⟨next, hnext, hs⟩ := Option.bind_eq_some_iff.mp hs
      rw [List.lookup_cons_self, Option.elim_some, h.get_ofEntries_of_notMem hnew hs, ← htells v s,
        hnext, Option.map_some]
    · rw [List.lookup_cons, beq_false_of_ne hk]
      split at hs
      · next f hf =>
        obtain ⟨next, hnext, hs⟩ := Option.bind_eq_some_iff.mp hs
        rw [← h.keeps_of_find? (Ne.symm hk) hf _ _ _ hnext]
        exact ih hkeys hs
      · exact ih hkeys hs

theorem isSome_ofEntries (h : ∀ e ∈ es, ∀ f ∈ fields, f.name = e.1 → ∀ s, (f.set e.2 s).isSome) :
    (ofEntries fields es s).isSome := by
  induction es generalizing s with
  | nil => rfl
  | cons e es ih =>
    obtain ⟨he, hes⟩ := List.forall_mem_cons.mp h
    rw [ofEntries]
    split
    · next f hf =>
      obtain ⟨next, hnext⟩ := Option.isSome_iff_exists.mp
        (he f (List.mem_of_find?_eq_some hf) (name_of_find? hf) s)
      rw [hnext, Option.bind_some]
      exact ih hes
    · exact ih hes

end Entries

section Items
variable {items : List Value}

theorem get_ofItems_of_keeps (h : ∀ f ∈ fields, f.Keeps get)
    (hs : ofItems fields items s = some s') :
    get s' = get s := by
  induction fields generalizing items s with
  | nil => rw [Option.some.inj hs]
  | cons f fields ih =>
    obtain ⟨hf, hfields⟩ := List.forall_mem_cons.mp h
    cases items with
    | nil => rw [Option.some.inj hs]
    | cons v items =>
      obtain ⟨next, hnext, hs⟩ := Option.bind_eq_some_iff.mp hs
      rw [ih hfields hs, hf v s next hnext]

/-- The part is told by the item at its place, or else it is what it was. -/
theorem Owns.get_ofItems (h : Owns fields place name read get)
    (hs : ofItems fields items s = some s') :
    items[place]?.elim (some (get s)) read = some (get s') := by
  obtain ⟨before, f, after, rfl, rfl, -, htells, hothers⟩ := h
  induction before generalizing items s with
  | nil =>
    cases items with
    | nil =>
      rw [Option.some.inj hs]
      rfl
    | cons v items =>
      obtain ⟨next, hnext, hs⟩ := Option.bind_eq_some_iff.mp hs
      rw [get_ofItems_of_keeps (fun g hg => (hothers g hg).keeps) hs]
      change read v = _
      rw [← htells v s, hnext, Option.map_some]
  | cons g before ih =>
    obtain ⟨hg, hothers⟩ := List.forall_mem_cons.mp hothers
    cases items with
    | nil =>
      rw [Option.some.inj hs]
      rfl
    | cons v items =>
      obtain ⟨next, hnext, hs⟩ := Option.bind_eq_some_iff.mp hs
      rw [← hg.keeps v s next hnext]
      exact ih hs hothers

theorem isSome_ofItems (h : ∀ (place : ℕ) (f : Field σ) (v : Value), fields[place]? = some f →
    items[place]? = some v → ∀ s, (f.set v s).isSome) : (ofItems fields items s).isSome := by
  induction fields generalizing items s with
  | nil => rfl
  | cons f fields ih =>
    cases items with
    | nil => rfl
    | cons v items =>
      obtain ⟨next, hnext⟩ := Option.isSome_iff_exists.mp
        (h 0 f v List.getElem?_cons_zero List.getElem?_cons_zero s)
      rw [ofItems, hnext, Option.bind_some]
      exact ih fun place => h (place + 1)

end Items

section Sections
variable {default t : σ} {v : Value}

/-- A value that a section can be read from. From a date all its fields are missing. -/
def IsSection : Value → Prop
  | .table _ | .array _ | .dateTime _ => True
  | _ => False

/-- What a section gives for the field of this name and place. -/
def member (name : String) (place : ℕ) : Value → Option Value
  | .table entries => entries.lookup name
  | .array items => items[place]?
  | _ => none

theorem isSection_of_section? (h : section? fields default v = some t) : IsSection v := by
  cases v with
  | table _ | array _ | dateTime _ => trivial
  | _ => cases h

theorem nodup_keys {entries : List (String × Value)} (h : (Value.table entries).WellKeyed) :
    (entries.map Prod.fst).Nodup := by
  cases h with
  | scalar h => exact h.elim
  | table hkeys _ => exact hkeys

theorem Owns.get_section? (h : Owns fields place name read get) (hv : v.WellKeyed)
    (ht : section? fields default v = some t) :
    (member name place v).elim (some (get default)) read = some (get t) := by
  cases v with
  | table entries => exact h.get_ofEntries (nodup_keys hv) ht
  | array items => exact h.get_ofItems ht
  | dateTime _ =>
    rw [Option.some.inj ht]
    rfl
  | _ => cases ht

theorem lookup_of_mem {entries : List (String × Value)} (hkeys : (entries.map Prod.fst).Nodup)
    {e : String × Value} (he : e ∈ entries) : entries.lookup e.1 = some e.2 := by
  induction entries with
  | nil => cases he
  | cons x entries ih =>
    obtain ⟨hnew, hkeys⟩ := List.nodup_cons.mp hkeys
    rcases List.mem_cons.mp he with rfl | he
    · exact List.lookup_cons_self
    · have hne : e.1 ≠ x.1 := fun heq => hnew (heq ▸ List.mem_map_of_mem he)
      rw [List.lookup_cons, beq_false_of_ne hne]
      exact ih hkeys he

theorem wellKeyed_of_lookup {k : String} (h : (Value.table es).WellKeyed)
    (hv : es.lookup k = some v) :
    v.WellKeyed := by
  obtain ⟨before, after, rfl, -⟩ := List.lookup_eq_some_iff.mp hv
  cases h with
  | scalar h => exact h.elim
  | table _ h => exact h (k, v) (List.mem_append_right _ (List.mem_cons_self ..))

/-- What a document gives for a field of one of its sections. -/
def inSection (es : List (String × Value)) (key name : String) (place : ℕ) : Option Value :=
  (es.lookup key).bind (member name place)

theorem Owns.isSection {τ : Type} {inner : List (Field τ)} {initial : τ} {part : σ → τ}
    (h : Owns fields place name (section? inner initial) part) (hkeys : (es.map Prod.fst).Nodup)
    (hs : ofEntries fields es s = some s') (hv : es.lookup name = some v) : IsSection v := by
  have hread := h.get_ofEntries hkeys hs
  rw [hv] at hread
  exact isSection_of_section? hread

/-- A part of a section, where the section is itself a part of the settings. -/
theorem Owns.get_inSection {τ : Type} {inner : List (Field τ)} {initial : τ} {part : σ → τ}
    {get : τ → α} {key : String} {outerPlace : ℕ}
    (hsection : Owns fields outerPlace key (section? inner initial) part)
    (h : Owns inner place name read get) (hes : (Value.table es).WellKeyed)
    (hs : ofEntries fields es s = some s') (hinitial : part s = initial) :
    (inSection es key name place).elim (some (get initial)) read = some (get (part s')) := by
  have hpart := hsection.get_ofEntries (nodup_keys hes) hs
  rw [inSection]
  cases hv : es.lookup key with
  | none =>
    rw [hv, Option.elim_none, hinitial] at hpart
    rw [Option.bind_none, Option.elim_none, Option.some.inj hpart]
  | some v =>
    rw [hv, Option.elim_some] at hpart
    rw [Option.bind_some]
    exact h.get_section? (wellKeyed_of_lookup hes hv) hpart

theorem isSome_section? (hsection : IsSection v) (hv : v.WellKeyed)
    (h : ∀ (place : ℕ) (f : Field σ) (w : Value), fields[place]? = some f →
      member f.name place v = some w →
      ∀ s, (f.set w s).isSome) : (section? fields default v).isSome := by
  cases v with
  | table entries =>
    refine isSome_ofEntries fun e he f hf hname => ?_
    obtain ⟨place, hplace⟩ := List.mem_iff_getElem?.mp hf
    refine h place f e.2 hplace ?_
    rw [hname]
    exact lookup_of_mem (nodup_keys hv) he
  | array items => exact isSome_ofItems fun place f v hf hv => h place f v hf hv
  | dateTime _ => rfl
  | _ => exact hsection.elim

end Sections

end BlocklistSync.Settings.Document
