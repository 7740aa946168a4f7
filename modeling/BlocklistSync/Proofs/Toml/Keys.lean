import BlocklistSync.Toml.Document
import Mathlib.Data.List.Nodup
import Mathlib.Data.Option.Basic

/-! Keys of a document. Nothing is given twice: in no table of a document, however it came about and
however deep it lies, do two entries have the same key. The tables are built by changing entries at
the end of a path, so that it is enough to know what one such change does. -/
namespace BlocklistSync.Toml

def Value.IsScalar : Value → Prop
  | .array _ | .table _ => False
  | _ => True

/-- No table in the value has a key twice. -/
inductive Value.WellKeyed : Value → Prop
  | scalar {v : Value} (h : v.IsScalar) : WellKeyed v
  | array {items : List Value} (h : ∀ v ∈ items, WellKeyed v) : WellKeyed (.array items)
  | table {entries : List (String × Value)} (hkeys : (entries.map Prod.fst).Nodup)
      (h : ∀ e ∈ entries, WellKeyed e.2) : WellKeyed (.table entries)

inductive Item.WellKeyed : Item → Prop
  | value {v : Value} (h : v.WellKeyed) : WellKeyed (.value v)
  | group {implicit dotted : Bool} {es : Entries} (hkeys : (es.map Prod.fst).Nodup)
    (h : ∀ e ∈ es, WellKeyed e.2) :
      WellKeyed (.group implicit dotted es)
  | groups {elements : List Entries} (hkeys : ∀ es ∈ elements, (es.map Prod.fst).Nodup)
      (h : ∀ es ∈ elements, ∀ e ∈ es, WellKeyed e.2) : WellKeyed (.groups elements)

/-- The entries of one table, and what lies below them. -/
structure WellKeyed (es : Entries) : Prop where
  keys : (es.map Prod.fst).Nodup
  items : ∀ e ∈ es, e.2.WellKeyed

variable {es : Entries} {k : String} {i : Item}

theorem wellKeyed_nil : WellKeyed [] := ⟨List.nodup_nil, nofun⟩

theorem wellKeyed_group_iff {implicit dotted : Bool} :
    (Item.group implicit dotted es).WellKeyed ↔ WellKeyed es :=
  ⟨fun | .group hkeys h => ⟨hkeys, h⟩, fun h => .group h.keys h.items⟩

theorem wellKeyed_groups_iff {elements : List Entries} :
    (Item.groups elements).WellKeyed ↔ ∀ es ∈ elements, WellKeyed es :=
  ⟨fun | .groups hkeys h => fun es hes => ⟨hkeys es hes, h es hes⟩,
    fun h => .groups (fun es hes => (h es hes).keys) fun es hes => (h es hes).items⟩

section Entries

theorem WellKeyed.of_findItem (h : WellKeyed es) (hk : findItem k es = some i) : i.WellKeyed := by
  obtain ⟨before, after, rfl, -⟩ := List.lookup_eq_some_iff.mp hk
  exact h.items (k, i) (List.mem_append_right _ (List.mem_cons_self ..))

theorem keys_setItem (k : String) (i : Item) (es : Entries) :
    (setItem k i es).map Prod.fst = if es.any (·.1 == k) then es.map Prod.fst
      else es.map Prod.fst ++ [k] := by
  unfold setItem
  split
  · rw [List.map_map]
    refine List.map_congr_left fun e _ => ?_
    simp only [Function.comp_apply]
    split <;> rfl
  · rw [List.map_append, List.map_singleton]

theorem WellKeyed.setItem (h : WellKeyed es) (hi : i.WellKeyed) : WellKeyed (setItem k i es) := by
  constructor
  · rw [keys_setItem]
    split
    · exact h.keys
    · next hnew =>
      refine List.nodup_append.mpr ⟨h.keys, List.nodup_singleton k, fun a ha b hb => ?_⟩
      obtain ⟨e, he, rfl⟩ := List.mem_map.mp ha
      obtain rfl := List.mem_singleton.mp hb
      rintro rfl
      exact hnew (List.any_eq_true.mpr ⟨e, he, beq_self_eq_true _⟩)
  · intro e he
    unfold Toml.setItem at he
    split at he
    · obtain ⟨⟨j, x⟩, hx, rfl⟩ := List.mem_map.mp he
      dsimp only
      split
      · exact hi
      · exact h.items (j, x) hx
    · rcases List.mem_append.mp he with he | he
      · exact h.items e he
      · obtain rfl := List.mem_singleton.mp he
        exact hi

theorem WellKeyed.eraseItem (h : WellKeyed es) : WellKeyed (Building.eraseItem k es) :=
  ⟨h.keys.sublist (List.filter_sublist.map _), fun e he => h.items e (List.mem_of_mem_filter he)⟩

/-- A change at the end of a path: what it does to the entries there, it does to the whole. -/
theorem WellKeyed.within {dotted : Bool} {f : Bool → Entries → Option Entries}
    (hf : ∀ made es es', WellKeyed es → f made es = some es' → WellKeyed es') {ks : Keys}
    {made : Bool} {es' : Entries} (h : WellKeyed es)
    (hes : Toml.within dotted f ks made es = some es') : WellKeyed es' := by
  induction ks generalizing made es es' with
  | nil => exact hf made es es' h hes
  | cons k ks ih =>
    rw [Toml.within] at hes
    split at hes
    · obtain ⟨inner, hinner, hes⟩ := Option.bind_eq_some_iff.mp hes
      obtain rfl := Option.some.inj hes
      exact h.setItem (wellKeyed_group_iff.mpr (ih wellKeyed_nil hinner))
    · cases hes
    · next elements hitem =>
      have helements := wellKeyed_groups_iff.mp (h.of_findItem hitem)
      obtain ⟨last, hlast, hes⟩ := Option.bind_eq_some_iff.mp hes
      obtain ⟨inner, hinner, hes⟩ := Option.bind_eq_some_iff.mp hes
      obtain rfl := Option.some.inj hes
      have hnew := ih (helements last (List.mem_of_getLast? hlast)) hinner
      refine h.setItem (wellKeyed_groups_iff.mpr fun es hes => ?_)
      rcases List.mem_append.mp hes with hes | hes
      · exact helements es (List.dropLast_subset _ hes)
      · obtain rfl := List.mem_singleton.mp hes
        exact hnew
    · next implicit made inner hitem =>
      obtain ⟨-, -, hes⟩ := Option.bind_eq_some_iff.mp hes
      obtain ⟨inner', hinner, hes⟩ := Option.bind_eq_some_iff.mp hes
      obtain rfl := Option.some.inj hes
      exact h.setItem (wellKeyed_group_iff.mpr
        (ih (wellKeyed_group_iff.mp (h.of_findItem hitem)) hinner))

theorem WellKeyed.assign {ks : Keys} {v : Value} {es' : Entries} (h : WellKeyed es)
    (hv : v.WellKeyed) (hes : Toml.assign ks v es = some es') : WellKeyed es' := by
  obtain ⟨last, -, hes⟩ := Option.bind_eq_some_iff.mp hes
  refine h.within (fun made es es' h hes => ?_) hes
  obtain ⟨-, -, hes⟩ := Option.bind_eq_some_iff.mp hes
  obtain ⟨-, -, hes⟩ := Option.bind_eq_some_iff.mp hes
  obtain rfl := Option.some.inj hes
  exact h.setItem (.value hv)

end Entries

section Values

theorem entriesToValues_eq_map (es : Entries) :
    entriesToValues es = es.map fun e => (e.1, e.2.toValue) := by
  induction es with
  | nil => rfl
  | cons e es ih => rw [entriesToValues, ih, List.map_cons]

theorem elementsToValues_eq_map (elements : List Entries) :
    elementsToValues elements = elements.map fun es => .table (entriesToValues es) := by
  induction elements with
  | nil => rfl
  | cons es elements ih => rw [elementsToValues, ih, List.map_cons]

/-- Giving up where a table comes from leaves its keys as they are. -/
theorem wellKeyed_table {es : Entries} (hkeys : (es.map Prod.fst).Nodup)
    (h : ∀ e ∈ es, e.2.toValue.WellKeyed) :
    (Value.table (entriesToValues es)).WellKeyed := by
  rw [entriesToValues_eq_map]
  refine .table (by rwa [List.map_map]) fun e he => ?_
  obtain ⟨x, hx, rfl⟩ := List.mem_map.mp he
  exact h x hx

theorem Item.WellKeyed.toValue (h : i.WellKeyed) : i.toValue.WellKeyed := by
  induction h with
  | value h => exact h
  | group hkeys h ih => exact wellKeyed_table hkeys ih
  | groups hkeys h ih =>
    rw [Item.toValue, elementsToValues_eq_map]
    refine .array fun v hv => ?_
    obtain ⟨es, hes, rfl⟩ := List.mem_map.mp hv
    exact wellKeyed_table (hkeys es hes) (ih es hes)

theorem WellKeyed.toValue (h : WellKeyed es) : (Value.table (entriesToValues es)).WellKeyed :=
  wellKeyed_table h.keys fun e he => (h.items e he).toValue

/-- What every step of a run that may fail preserves, the whole run preserves. -/
theorem foldlM_preserves {α σ : Type} {f : σ → α → Option σ} {P : σ → Prop} {Q : α → Prop}
    (hf : ∀ s a s', P s → Q a → f s a = some s' → P s') {as : List α} {s s' : σ} (hs : P s)
    (has : ∀ a ∈ as, Q a) (h : as.foldlM f s = some s') : P s' := by
  induction as generalizing s with
  | nil => exact Option.some.inj h ▸ hs
  | cons a as ih =>
    rw [List.foldlM_cons] at h
    obtain ⟨next, hnext, h⟩ := Option.bind_eq_some_iff.mp h
    obtain ⟨ha, has⟩ := List.forall_mem_cons.mp has
    exact ih (hf s a next hs ha hnext) has h

theorem wellKeyed_inlineTable {pairs : List (Keys × Value)} {v : Value}
    (hpairs : ∀ p ∈ pairs, p.2.WellKeyed) (h : inlineTable? pairs = some v) : v.WellKeyed := by
  obtain ⟨es, hes, h⟩ := Option.bind_eq_some_iff.mp h
  obtain rfl := Option.some.inj h
  have hassign : ∀ es (p : Keys × Value) es', WellKeyed es → p.2.WellKeyed →
    assign p.1 p.2 es = some es' →
      WellKeyed es' := fun _ _ _ hes hp h => hes.assign hp h
  exact (foldlM_preserves hassign wellKeyed_nil hpairs hes).toValue

end Values

section Readers
variable {cs rest : List Char} {v : Value}

theorem isScalar_boolean (h : boolean? cs = some (v, rest)) : v.IsScalar := by
  unfold boolean? at h
  split at h
  · obtain ⟨rfl, -⟩ := Prod.mk.inj (Option.some.inj h)
    trivial
  · obtain ⟨rfl, -⟩ := Prod.mk.inj (Option.some.inj h)
    trivial
  · cases h

theorem isScalar_dateTime (h : dateTime? cs = some (v, rest)) : v.IsScalar := by
  simp only [dateTime?] at h
  split at h
  · split at h
    · obtain ⟨rfl, -⟩ := Prod.mk.inj (Option.some.inj h)
      trivial
    · obtain ⟨rfl, -⟩ := Prod.mk.inj (Option.some.inj h)
      trivial
  · obtain ⟨_, -, h⟩ := Option.map_eq_some_iff.mp h
    obtain ⟨rfl, -⟩ := Prod.mk.inj h
    trivial

theorem isScalar_decimalFloat (h : decimalFloat? cs = some (v, rest)) : v.IsScalar := by
  simp only [decimalFloat?] at h
  obtain ⟨_, -, h⟩ := Option.bind_eq_some_iff.mp h
  -- The three ways to go on differ in the number only.
  split at h
  on_goal 1 => split at h
  all_goals
    obtain ⟨_, -, h⟩ := Option.bind_eq_some_iff.mp h
    obtain ⟨_, -, h⟩ := Option.bind_eq_some_iff.mp h
    obtain ⟨rfl, -⟩ := Prod.mk.inj (Option.some.inj h)
    trivial

theorem isScalar_specialFloat (h : specialFloat? cs = some (v, rest)) : v.IsScalar := by
  simp only [specialFloat?] at h
  split at h
  · obtain ⟨rfl, -⟩ := Prod.mk.inj (Option.some.inj h)
    trivial
  · obtain ⟨rfl, -⟩ := Prod.mk.inj (Option.some.inj h)
    trivial
  · cases h

theorem isScalar_radixInteger {radix : ℕ} (h : radixInteger radix cs = some (v, rest)) :
    v.IsScalar := by
  simp only [radixInteger] at h
  obtain ⟨_, -, h⟩ := Option.bind_eq_some_iff.mp h
  obtain ⟨_, -, h⟩ := Option.bind_eq_some_iff.mp h
  obtain ⟨rfl, -⟩ := Prod.mk.inj (Option.some.inj h)
  trivial

theorem isScalar_integer (h : integer? cs = some (v, rest)) : v.IsScalar := by
  unfold integer? at h
  split at h
  · exact isScalar_radixInteger h
  · exact isScalar_radixInteger h
  · exact isScalar_radixInteger h
  · obtain ⟨_, -, h⟩ := Option.bind_eq_some_iff.mp h
    obtain ⟨_, -, h⟩ := Option.bind_eq_some_iff.mp h
    obtain ⟨rfl, -⟩ := Prod.mk.inj (Option.some.inj h)
    trivial

theorem isScalar_number (h : number? cs = some (v, rest)) : v.IsScalar := by
  simp only [number?, Option.orElse_eq_some] at h
  rcases h with h | ⟨-, h | ⟨-, h | ⟨-, h⟩⟩⟩
  · exact isScalar_dateTime h
  · exact isScalar_decimalFloat h
  · exact isScalar_specialFloat h
  · exact isScalar_integer h

/-- What the readers of values, of the items of an array and of the assignments between braces take
at some depth. -/
structure ReadsWellKeyed (fuel : ℕ) : Prop where
  value : ∀ {depth cs v rest}, value? fuel depth cs = some (v, rest) → v.WellKeyed
  items : ∀ {depth cs vs rest}, items? fuel depth cs = some (vs, rest) → ∀ v ∈ vs, v.WellKeyed
  assignments : ∀ {depth cs pairs rest}, assignments? fuel depth cs = some (pairs, rest) →
    ∀ p ∈ pairs, p.2.WellKeyed

theorem ReadsWellKeyed.value_succ {fuel depth : ℕ} (ih : ReadsWellKeyed fuel)
    (h : value? (fuel + 1) depth cs = some (v, rest)) : v.WellKeyed := by
  simp only [value?] at h
  split at h
  · cases h
  · split at h
    · cases h
    · obtain ⟨⟨vs, rest⟩, hvs, h⟩ := Option.map_eq_some_iff.mp h
      obtain ⟨rfl, -⟩ := Prod.mk.inj h
      exact .array (ih.items hvs)
  · split at h
    · cases h
    · split at h
      · obtain ⟨rfl, -⟩ := Prod.mk.inj (Option.some.inj h)
        exact .table List.nodup_nil nofun
      · obtain ⟨⟨pairs, rest⟩, hpairs, h⟩ := Option.bind_eq_some_iff.mp h
        obtain ⟨table, htable, h⟩ := Option.bind_eq_some_iff.mp h
        obtain ⟨rfl, -⟩ := Prod.mk.inj (Option.some.inj h)
        exact wellKeyed_inlineTable (ih.assignments hpairs) htable
  · split at h
    · obtain ⟨_, -, h⟩ := Option.map_eq_some_iff.mp h
      obtain ⟨rfl, -⟩ := Prod.mk.inj h
      exact .scalar trivial
    · rw [Option.orElse_eq_some] at h
      rcases h with h | ⟨-, h⟩
      · exact .scalar (isScalar_boolean h)
      · exact .scalar (isScalar_number h)

theorem ReadsWellKeyed.items_succ {fuel depth : ℕ} (ih : ReadsWellKeyed fuel) {vs : List Value}
    (h : items? (fuel + 1) depth cs = some (vs, rest)) : ∀ v ∈ vs, v.WellKeyed := by
  simp only [items?] at h
  split at h
  · obtain ⟨rfl, -⟩ := Prod.mk.inj (Option.some.inj h)
    exact nofun
  · obtain ⟨⟨v, more⟩, hv, h⟩ := Option.bind_eq_some_iff.mp h
    dsimp only at h
    split at h
    · obtain ⟨⟨vs, rest⟩, hvs, h⟩ := Option.bind_eq_some_iff.mp h
      obtain ⟨rfl, -⟩ := Prod.mk.inj (Option.some.inj h)
      exact List.forall_mem_cons.mpr ⟨ih.value hv, ih.items hvs⟩
    · obtain ⟨rfl, -⟩ := Prod.mk.inj (Option.some.inj h)
      exact List.forall_mem_singleton.mpr (ih.value hv)
    · cases h

theorem ReadsWellKeyed.assignments_succ {fuel depth : ℕ} (ih : ReadsWellKeyed fuel)
    {pairs : List (Keys × Value)} (h : assignments? (fuel + 1) depth cs = some (pairs, rest)) :
    ∀ p ∈ pairs, p.2.WellKeyed := by
  simp only [assignments?] at h
  obtain ⟨⟨ks, more⟩, -, h⟩ := Option.bind_eq_some_iff.mp h
  dsimp only at h
  split at h
  · obtain ⟨⟨v, more⟩, hv, h⟩ := Option.bind_eq_some_iff.mp h
    dsimp only at h
    split at h
    · obtain ⟨⟨pairs, rest⟩, hpairs, h⟩ := Option.bind_eq_some_iff.mp h
      obtain ⟨rfl, -⟩ := Prod.mk.inj (Option.some.inj h)
      exact List.forall_mem_cons.mpr ⟨ih.value hv, ih.assignments hpairs⟩
    · obtain ⟨rfl, -⟩ := Prod.mk.inj (Option.some.inj h)
      exact List.forall_mem_singleton.mpr (ih.value hv)
    · cases h
  · cases h

theorem readsWellKeyed (fuel : ℕ) : ReadsWellKeyed fuel := by
  induction fuel with
  | zero => exact ⟨nofun, nofun, nofun⟩
  | succ fuel ih => exact ⟨ih.value_succ, ih.items_succ, ih.assignments_succ⟩

def Statement.WellKeyed : Statement → Prop
  | .assign _ v => v.WellKeyed
  | _ => True

theorem wellKeyed_statement {s : Statement} (h : statement? cs = some (s, rest)) : s.WellKeyed := by
  unfold statement? at h
  split at h
  · obtain ⟨⟨ks, more⟩, -, h⟩ := Option.bind_eq_some_iff.mp h
    dsimp only at h
    split at h
    · obtain ⟨_, -, h⟩ := Option.bind_eq_some_iff.mp h
      obtain ⟨rfl, -⟩ := Prod.mk.inj (Option.some.inj h)
      trivial
    · cases h
  · obtain ⟨⟨ks, more⟩, -, h⟩ := Option.bind_eq_some_iff.mp h
    dsimp only at h
    split at h
    · obtain ⟨_, -, h⟩ := Option.bind_eq_some_iff.mp h
      obtain ⟨rfl, -⟩ := Prod.mk.inj (Option.some.inj h)
      trivial
    · cases h
  · obtain ⟨⟨ks, more⟩, -, h⟩ := Option.bind_eq_some_iff.mp h
    dsimp only at h
    split at h
    · obtain ⟨⟨v, more⟩, hv, h⟩ := Option.bind_eq_some_iff.mp h
      obtain ⟨_, -, h⟩ := Option.bind_eq_some_iff.mp h
      obtain ⟨rfl, -⟩ := Prod.mk.inj (Option.some.inj h)
      exact (readsWellKeyed _).value hv
    · cases h

theorem wellKeyed_statements {fuel : ℕ} {ss : List Statement} (h : statements? fuel cs = some ss) :
    ∀ s ∈ ss, s.WellKeyed := by
  induction fuel generalizing cs ss with
  | zero =>
    rw [statements?] at h
    split at h
    · obtain rfl := Option.some.inj h
      exact nofun
    · cases h
  | succ fuel ih =>
    rw [statements?] at h
    split at h
    · obtain rfl := Option.some.inj h
      exact nofun
    · split at h
      · exact ih h
      · obtain ⟨⟨s, more⟩, hs, h⟩ := Option.bind_eq_some_iff.mp h
        obtain ⟨ss, hss, h⟩ := Option.bind_eq_some_iff.mp h
        obtain rfl := Option.some.inj h
        exact List.forall_mem_cons.mpr ⟨wellKeyed_statement hs, ih hss⟩

end Readers

namespace Building

structure WellKeyed (b : Building) : Prop where
  root : Toml.WellKeyed b.root
  current : Toml.WellKeyed b.current

variable {b b' : Building} {root : Entries}

theorem WellKeyed.close (h : b.WellKeyed) (hroot : b.close = some root) : Toml.WellKeyed root := by
  unfold Building.close at hroot
  split at hroot
  · obtain rfl := Option.some.inj hroot
    exact h.current
  · refine h.root.within (fun _ es es' hes hes' => ?_) hroot
    split at hes'
    · next elements _ hitem =>
      obtain rfl := Option.some.inj hes'
      refine hes.setItem (wellKeyed_groups_iff.mpr fun es hes' => ?_)
      rcases List.mem_append.mp hes' with hes' | hes'
      · exact wellKeyed_groups_iff.mp (hes.of_findItem hitem) es hes'
      · obtain rfl := List.mem_singleton.mp hes'
        exact h.current
    · obtain rfl := Option.some.inj hes'
      exact hes.setItem (wellKeyed_groups_iff.mpr (List.forall_mem_singleton.mpr h.current))
    · obtain rfl := Option.some.inj hes'
      exact hes.setItem (wellKeyed_group_iff.mpr h.current)
    · cases hes'

theorem wellKeyed_itemAt {ks : Keys} (h : Toml.WellKeyed root) (hi : itemAt? ks root = some i) :
    i.WellKeyed := by
  induction ks generalizing root with
  | nil => cases hi
  | cons k ks ih =>
    cases ks with
    | nil => exact h.of_findItem hi
    | cons k' ks =>
      rw [itemAt?] at hi
      split at hi
      · next hitem => exact ih (wellKeyed_group_iff.mp (h.of_findItem hitem)) hi
      · next elements hitem =>
        refine ih ?_ hi
        cases hlast : elements.getLast? with
        | none => exact wellKeyed_nil
        | some last =>
          exact wellKeyed_groups_iff.mp (h.of_findItem hitem) last (List.mem_of_getLast? hlast)
      · cases hi
      · simp

theorem wellKeyed_implied {item : Option Item} {taken : Entries}
    (h : ∀ i, item = some i → i.WellKeyed) (ht : implied? item = some taken) :
    Toml.WellKeyed taken := by
  unfold implied? at ht
  split at ht
  · obtain rfl := Option.some.inj ht
    exact wellKeyed_nil
  · obtain rfl := Option.some.inj ht
    exact wellKeyed_group_iff.mp (h _ rfl)
  · cases ht

theorem WellKeyed.step {s : Statement} (h : b.WellKeyed) (hs : s.WellKeyed)
    (hb : b.step s = some b') :
    b'.WellKeyed := by
  cases s with
  | assign ks v =>
    obtain ⟨es, hes, hb⟩ := Option.bind_eq_some_iff.mp hb
    obtain rfl := Option.some.inj hb
    exact ⟨h.root, h.current.assign hs hes⟩
  | table ks =>
    obtain ⟨root, hroot, hb⟩ := Option.bind_eq_some_iff.mp hb
    obtain ⟨last, -, hb⟩ := Option.bind_eq_some_iff.mp hb
    obtain ⟨taken, htaken, hb⟩ := Option.bind_eq_some_iff.mp hb
    obtain ⟨rest, hrest, hb⟩ := Option.bind_eq_some_iff.mp hb
    obtain rfl := Option.some.inj hb
    have hkeyed := h.close hroot
    refine ⟨hkeyed.within (fun _ es es' hes hes' => ?_) hrest,
      wellKeyed_implied (fun i => wellKeyed_itemAt hkeyed) htaken⟩
    obtain rfl := Option.some.inj hes'
    exact hes.eraseItem
  | tableOfArray ks =>
    obtain ⟨root, hroot, hb⟩ := Option.bind_eq_some_iff.mp hb
    obtain ⟨rest, hrest, hb⟩ := Option.bind_eq_some_iff.mp hb
    have hkeyed :=
      (h.close hroot).within (fun _ es es' hes hes' => Option.some.inj hes' ▸ hes) hrest
    split at hb
    · obtain rfl := Option.some.inj hb
      exact ⟨hkeyed, wellKeyed_nil⟩
    · obtain rfl := Option.some.inj hb
      exact ⟨hkeyed, wellKeyed_nil⟩
    · cases hb

end Building

/-- No two entries of a table have the same key, in the document as in any table within it. -/
theorem document?_wellKeyed {text : String} {entries : List (String × Value)}
    (h : document? text = some entries) :
    (Value.table entries).WellKeyed := by
  obtain ⟨statements, hparse, h⟩ := Option.bind_eq_some_iff.mp h
  obtain ⟨b, hb, h⟩ := Option.bind_eq_some_iff.mp h
  obtain ⟨es, hes, h⟩ := Option.bind_eq_some_iff.mp h
  obtain rfl := Option.some.inj h
  have hstart : Building.start.WellKeyed := ⟨wellKeyed_nil, wellKeyed_nil⟩
  exact ((foldlM_preserves (fun _ _ _ => Building.WellKeyed.step) hstart
    (wellKeyed_statements hparse) hb).close
    hes).toValue

end BlocklistSync.Toml
