import BlocklistSync.Proofs.Store.CellOrder
import BlocklistSync.Proofs.Store.Opening
import BlocklistSync.Proofs.Store.TableHistory
import BlocklistSync.Proofs.Text.Decoding

/-! What the entries query makes of a table. It takes all rows in an order of their ids or none: one
bad cell anywhere spoils the answer, and of several the one is reported that comes first, row by row
and column by column. Nothing is assumed of rows with equal ids, which a database may put in any
order. -/
namespace BlocklistSync

namespace Query

section Traversal
variable {α β ε : Type} {f : α → Except ε β} {xs : List α}

theorem bind_eq_ok_iff {x : Except ε α} {y : β} :
    x >>= f = .ok y ↔ ∃ a, x = .ok a ∧ f a = .ok y := by
  cases x <;> simp [bind, Except.bind]

theorem bind_eq_error_iff {x : Except ε α} {errors later : List ε} {e : ε}
    (hx : ∀ e, x = .error e ↔ errors.head? = some e)
    (hf : ∀ a, f a = .error e ↔ later.head? = some e) :
    x >>= f = .error e ↔ (errors ++ later).head? = some e := by
  rw [List.head?_append]
  cases x with
  | error d => simp [bind, Except.bind, (hx d).mp rfl]
  | ok a =>
    have hnone : errors.head? = none := Option.eq_none_iff_forall_ne_some.mpr fun d hd => by
      simpa using (hx d).mpr hd
    rw [hnone, Option.none_or, ← hf a]
    rfl

theorem mapM_eq_ok_iff {ys : List β} :
    xs.mapM f = .ok ys ↔ List.Forall₂ (fun x y => f x = .ok y) xs ys := by
  induction xs generalizing ys with
  | nil => cases ys <;> simp [pure, Except.pure]
  | cons x xs ih =>
    simp only [List.mapM_cons, bind_eq_ok_iff, ih, pure, Except.pure, Except.ok.injEq]
    constructor
    · rintro ⟨y, hx, rest, hrest, rfl⟩
      exact .cons hx hrest
    · rintro (_ | ⟨hx, hrest⟩)
      exact ⟨_, hx, _, hrest, rfl⟩

theorem mapM_eq_error_iff {errors : α → List ε}
    (hf : ∀ x e, f x = .error e ↔ (errors x).head? = some e) {e : ε} :
    xs.mapM f = .error e ↔ (xs.flatMap errors).head? = some e := by
  induction xs with
  | nil => simp [pure, Except.pure]
  | cons x xs ih =>
    rw [List.mapM_cons, List.flatMap_cons, bind_eq_error_iff (hf x)]
    intro y
    rw [← ih]
    cases xs.mapM f <;> simp [bind, Except.bind, pure, Except.pure]

end Traversal

theorem column_eq_ok_iff {t : Table} {sql name : String} {offset : ℕ} {c : Column} :
    column t sql name offset = .ok c ↔ ∃ i, t.columnIndex? name = some i ∧
      c = ⟨i, t.columns[i]?.getD name⟩ := by
  unfold column
  cases t.columnIndex? name <;> simp [eq_comm]

/-- The table has the columns that the queries ask for. -/
def HasColumns (t : Table) : Prop :=
  ∀ name ∈ ["id", "pattern", "is_regex", "test_mode", "updated_at"], (t.columnIndex? name).isSome

theorem exists_entryColumns {t : Table} (h : HasColumns t) : ∃ c, entryColumns t = .ok c := by
  simp only [HasColumns, List.forall_mem_cons, Option.isSome_iff_exists] at h
  obtain ⟨⟨i, hi⟩, ⟨j, hj⟩, ⟨k, hk⟩, ⟨l, hl⟩, ⟨m, hm⟩, -⟩ := h
  simp [entryColumns, column, hi, hj, hk, hl, hm, bind, Except.bind, pure, Except.pure]

theorem hasColumns_of_entryColumns {t : Table} {c : EntryColumns} (h : entryColumns t = .ok c) :
    HasColumns t := by
  simp only [entryColumns, bind_eq_ok_iff, column_eq_ok_iff] at h
  obtain ⟨_, ⟨i, hi, -⟩, _, ⟨j, hj, -⟩, _, ⟨k, hk, -⟩, _, ⟨l, hl, -⟩, _, ⟨m, hm, -⟩, -⟩ := h
  simp [HasColumns, hi, hj, hk, hl, hm]

theorem HasColumns.stamps {t : Table} (h : HasColumns t) : (t.columnIndex? "updated_at").isSome :=
  h _ (by simp)

theorem exists_fingerprint {t : Table} (h : (t.columnIndex? "updated_at").isSome) :
    ∃ f, fingerprint t = .ok f := by
  obtain ⟨i, hi⟩ := Option.isSome_iff_exists.mp h
  simp [fingerprint, column, hi, bind, Except.bind, pure, Except.pure]

variable {c : EntryColumns} {r : Row} {e : Entry}

/-- No cell of the row is in the way of an entry. -/
structure Readable (c : EntryColumns) (r : Row) : Prop where
  id : ∃ i, c.id.cell r = .integer i
  pattern : ∃ s, c.pattern.cell r = .ofString s
  isRegex : ∃ i, c.isRegex.cell r = .integer i
  testMode : ∃ i, c.testMode.cell r = .integer i

/-- The entry says what the row does. -/
structure Reads (c : EntryColumns) (r : Row) (e : Entry) : Prop where
  id : c.id.cell r = .integer e.id
  pattern : c.pattern.cell r = .ofString e.pattern
  isRegex : ∃ i, c.isRegex.cell r = .integer i ∧ (e.isRegex ↔ i ≠ 0)
  testMode : ∃ i, c.testMode.cell r = .integer i ∧ (e.testMode ↔ i ≠ 0)
  updatedAt : e.updatedAt = stamp (c.updatedAt.cell r)

theorem Reads.readable (h : Reads c r e) : Readable c r :=
  ⟨⟨_, h.id⟩, ⟨_, h.pattern⟩, h.isRegex.imp fun _ => And.left, h.testMode.imp fun _ => And.left⟩

def integerError? (index : ℕ) (c : Column) (r : Row) : Option QueryError :=
  match c.cell r with
  | .integer _ => none
  | cell => some (.columnType cell.className index c.name)

def textError? (index : ℕ) (c : Column) (r : Row) : Option QueryError :=
  match c.cell r with
  | .text bytes => match Text.Utf8.decode bytes with
    | .ok _ => none
    | .error cause => some (.badText index cause)
  | cell => some (.columnType cell.className index c.name)

/-- The bad cells of a row, in the order in which the query asks for the columns. -/
def rowErrors (c : EntryColumns) (r : Row) : List QueryError :=
  (integerError? 0 c.id r).toList ++ ((textError? 1 c.pattern r).toList ++
    ((integerError? 2 c.isRegex r).toList ++ (integerError? 3 c.testMode r).toList))

section Cells
variable {index : ℕ} {c : Column} {e : QueryError}

theorem asInteger_eq_ok_iff {i : ℤ} : asInteger index c r = .ok i ↔ c.cell r = .integer i := by
  unfold asInteger
  generalize c.cell r = cell
  cases cell <;> simp

theorem asInteger_eq_error_iff :
    asInteger index c r = .error e ↔ (integerError? index c r).toList.head? = some e := by
  unfold asInteger integerError?
  generalize c.cell r = cell
  cases cell <;> simp

theorem asText_eq_ok_iff {s : String} : asText index c r = .ok s ↔ c.cell r = .ofString s := by
  unfold asText Cell.ofString
  generalize c.cell r = cell
  cases cell with
  | text bytes =>
    rw [Cell.text.injEq, ← Text.Utf8.decode_eq_ok_iff]
    cases hd : Text.Utf8.decode bytes <;> simp [hd]
  | _ => simp

theorem asText_eq_error_iff :
    asText index c r = .error e ↔ (textError? index c r).toList.head? = some e := by
  unfold asText textError?
  generalize c.cell r = cell
  cases cell with
  | text bytes => cases hd : Text.Utf8.decode bytes <;> simp [hd]
  | _ => simp

end Cells

theorem entryOf_eq_ok_iff : entryOf c r = .ok e ↔ Reads c r e := by
  simp only [entryOf, bind_eq_ok_iff, asInteger_eq_ok_iff, asText_eq_ok_iff, pure, Except.pure,
    Except.ok.injEq]
  constructor
  · rintro ⟨id, hid, pattern, hpattern, isRegex, hregex, testMode, htest, rfl⟩
    exact ⟨hid, hpattern, ⟨_, hregex, by simp⟩, ⟨_, htest, by simp⟩, rfl⟩
  · rintro ⟨hid, hpattern, ⟨isRegex, hregex, hr⟩, ⟨testMode, htest, ht⟩, hstamp⟩
    refine ⟨_, hid, _, hpattern, _, hregex, _, htest, ?_⟩
    have hflags : decide (isRegex ≠ 0) = e.isRegex ∧ decide (testMode ≠ 0) = e.testMode := by
      simp only [← hr, ← ht, Bool.decide_eq_true, and_self]
    rw [hflags.1, hflags.2, ← hstamp]

theorem Reads.unique {e' : Entry} (h : Reads c r e) (h' : Reads c r e') : e = e' :=
  Except.ok.inj ((entryOf_eq_ok_iff.mpr h).symm.trans (entryOf_eq_ok_iff.mpr h'))

theorem readable_iff : Readable c r ↔ ∃ e, Reads c r e := by
  constructor
  · rintro ⟨⟨id, hid⟩, ⟨pattern, hpattern⟩, ⟨isRegex, hregex⟩, ⟨testMode, htest⟩⟩
    exact ⟨⟨id, pattern, isRegex ≠ 0, testMode ≠ 0, _⟩, hid, hpattern, ⟨_, hregex, by simp⟩,
      ⟨_, htest, by simp⟩, rfl⟩
  · rintro ⟨e, he⟩
    exact he.readable

theorem entryOf_eq_error_iff {e : QueryError} :
    entryOf c r = .error e ↔ (rowErrors c r).head? = some e := by
  refine bind_eq_error_iff (fun e => asInteger_eq_error_iff) fun id => ?_
  refine bind_eq_error_iff (fun e => asText_eq_error_iff) fun pattern => ?_
  refine bind_eq_error_iff (fun e => asInteger_eq_error_iff) fun isRegex => ?_
  rw [← asInteger_eq_error_iff]
  cases asInteger 3 c.testMode r <;> simp [bind, Except.bind, pure, Except.pure]

def badCells (c : EntryColumns) (rows : List Row) : List QueryError := rows.flatMap (rowErrors c)

/-- All rows, in an order of their ids. -/
structure InOrder (c : EntryColumns) (rows sorted : List Row) : Prop where
  perm : sorted.Perm rows
  ascending : sorted.Pairwise fun a b => (c.id.cell a).le (c.id.cell b)

/-- A way of getting at the rows that does what the query asks for. -/
structure Plan where
  order : RowOrder
  inOrder : ∀ c t, InOrder c t.rows (order c t)

def plainPlan : Plan where
  order := byId
  inOrder c t := by
    have htrans (a b d : Row) (hab : (c.id.cell a).le (c.id.cell b))
        (hbd : (c.id.cell b).le (c.id.cell d)) :
        (c.id.cell a).le (c.id.cell d) := Cell.le_trans hab hbd
    have htotal (a b : Row) : (c.id.cell a).le (c.id.cell b) || (c.id.cell b).le (c.id.cell a) :=
      Cell.le_total ..
    exact ⟨List.mergeSort_perm .., List.pairwise_mergeSort htrans htotal t.rows⟩

section Table
variable {t : Table} {order : RowOrder}

theorem entries_eq (h : entryColumns t = .ok c) :
    entries order t = (order c t).mapM (entryOf c) := by
  rw [entries, h]
  rfl

theorem entries_eq_ok_iff (h : entryColumns t = .ok c) {es : List Entry} :
    entries order t = .ok es ↔ List.Forall₂ (Reads c) (order c t) es := by
  simp only [entries_eq h, mapM_eq_ok_iff, entryOf_eq_ok_iff]

theorem entries_eq_error_iff (h : entryColumns t = .ok c) {e : QueryError} :
    entries order t = .error e ↔ (badCells c (order c t)).head? = some e := by
  rw [entries_eq h, mapM_eq_error_iff fun r e => entryOf_eq_error_iff, badCells]

end Table

theorem plainPlan_pair {t : Table} {a b : Row} (h : t.rows = [a, b]) (c : EntryColumns) :
    plainPlan.order c t = if (c.id.cell a).le (c.id.cell b) then [a, b] else [b, a] := by
  simp [plainPlan, byId, h, List.mergeSort, List.MergeSort.Internal.splitInTwo, List.merge]

theorem exists_forall₂_iff {α β : Type} {R : α → β → Prop} {xs : List α} :
    (∃ ys, List.Forall₂ R xs ys) ↔ ∀ x ∈ xs, ∃ y, R x y := by
  induction xs with
  | nil => simp
  | cons x xs ih =>
    rw [List.forall_mem_cons, ← ih]
    constructor
    · rintro ⟨_, _ | ⟨hx, hxs⟩⟩
      exact ⟨⟨_, hx⟩, _, hxs⟩
    · rintro ⟨⟨y, hx⟩, ys, hxs⟩
      exact ⟨y :: ys, .cons hx hxs⟩

theorem exists_entries_iff (plan : Plan) {t : Table} (h : entryColumns t = .ok c) :
    (∃ es, entries plan.order t = .ok es) ↔ ∀ r ∈ t.rows, Readable c r := by
  simp only [entries_eq_ok_iff h, exists_forall₂_iff, ← readable_iff,
    (plan.inOrder c t).perm.mem_iff]

end Query

namespace DatabaseStore

variable {s : DatabaseStore} {tree : FileTree} {table : Table}

/-- The table that a question leads to: the one behind the connection that is held, else the one at
the path. -/
def Reaches (s : DatabaseStore) (tree : FileTree) (table : Table) : Prop :=
  ∃ c, s.held.elim (openFile tree s.path) .ok = .ok c ∧ tableOf tree c = .ok table

/-- A table with stamps passes the check that is made of a new connection. -/
theorem openChecked_eq {path : String} {c : Connection} (hopen : openFile tree path = .ok c)
    (htable : tableOf tree c = .ok table) (hstamps : (table.columnIndex? "updated_at").isSome) :
    openChecked tree path = .ok c := by
  obtain ⟨f, hf⟩ := Query.exists_fingerprint hstamps
  have hask : ask tree Query.fingerprint c = .ok f := by rw [ask, htable]; exact hf
  simp only [openChecked, hopen, bind, Except.bind, hask, pure, Except.pure]

theorem Reaches.sees (h : s.Reaches tree table)
    (hstamps : (table.columnIndex? "updated_at").isSome) :
    s.Sees tree table := by
  obtain ⟨c, hc, htable⟩ := h
  refine ⟨c, ?_, htable⟩
  cases hheld : s.held with
  | some held =>
    rw [hheld] at hc
    rwa [current, hheld]
  | none =>
    rw [hheld] at hc
    rw [current, hheld]
    exact openChecked_eq hc htable hstamps

theorem query_of_current {α : Type} (q : Table → Except QueryError α) {c : Connection}
    (h : s.current tree = .ok c) :
    (s.query tree q).2 = (ask tree q c).mapError unavailable := by
  rw [query, h]
  cases hask : ask tree q c <;> simp only [hask] <;> rfl

/-- A query is answered out of the table that the store sees. -/
theorem Sees.query_eq {α : Type} (q : Table → Except QueryError α) (h : s.Sees tree table) :
    (s.query tree q).2 = (q table).mapError unavailable := by
  obtain ⟨c, hcurrent, htable⟩ := h
  rw [query_of_current q hcurrent, ask, htable]
  rfl

theorem mapError_eq_ok_iff {α : Type} {x : Except QueryError α} {a : α} :
    x.mapError unavailable = .ok a ↔ x = .ok a := by
  cases x <;> simp [Except.mapError]

theorem Reaches.fetchEntriesIn_eq (h : s.Reaches tree table) (hcolumns : Query.HasColumns table)
    (order : Query.RowOrder) :
    (s.fetchEntriesIn order tree).2 = (Query.entries order table).mapError unavailable :=
  (h.sees hcolumns.stamps).query_eq (Query.entries order)

theorem Reaches.exists_fetchEntriesIn_iff {c : Query.EntryColumns} (h : s.Reaches tree table)
    (hc : Query.entryColumns table = .ok c) (plan : Query.Plan) :
    (∃ es, (s.fetchEntriesIn plan.order tree).2 = .ok es) ↔ ∀ r ∈ table.rows,
      Query.Readable c r := by
  simp only [h.fetchEntriesIn_eq (Query.hasColumns_of_entryColumns hc), mapError_eq_ok_iff]
  exact Query.exists_entries_iff plan hc

theorem query_of_error {α : Type} {q : Table → Except QueryError α} {fault : Fault}
    (h : (s.query tree q).2 = .error fault) : (s.query tree q).1 = new s.path :=
  query_of_not_isOk (by rw [h]; rfl)

open Query in
/-- The entries are fetched just if every row is readable, and then they are what the rows say, row
by row in the order of their ids. Otherwise the fetch fails with the first bad cell in that order,
and the connection is dropped. -/
theorem fetchEntries_all_or_nothing (plan : Plan) (hs : s.Reaches tree table)
    (hcolumns : HasColumns table) :
    ∃ c, entryColumns table = .ok c ∧ InOrder c table.rows (plan.order c table) ∧
      ((∃ entries, (s.fetchEntriesIn plan.order tree).2 = .ok entries) ↔ ∀ r ∈ table.rows,
        Readable c r) ∧
      (∀ entries, (s.fetchEntriesIn plan.order tree).2 = .ok entries →
        List.Forall₂ (Reads c) (plan.order c table) entries) ∧
      ∀ fault, (s.fetchEntriesIn plan.order tree).2 = .error fault →
        (s.fetchEntriesIn plan.order tree).1.held = none ∧
        ∃ e, (badCells c (plan.order c table)).head? = some e ∧
          fault = .storeUnavailable e.message := by
  obtain ⟨c, hc⟩ := exists_entryColumns hcolumns
  have hfetch := hs.fetchEntriesIn_eq hcolumns plan.order
  refine ⟨c, hc, plan.inOrder c table, hs.exists_fetchEntriesIn_iff hc plan, fun es h => ?_,
    fun fault h => ⟨?_, ?_⟩⟩
  · rw [hfetch, mapError_eq_ok_iff] at h
    exact (entries_eq_ok_iff hc).mp h
  · rw [fetchEntriesIn, query_of_error h]
    rfl
  · rw [hfetch] at h
    cases he : entries plan.order table with
    | ok es => rw [he] at h; cases h
    | error e =>
      rw [he] at h
      exact ⟨e, (entries_eq_error_iff hc).mp he, (Except.error.inj h).symm⟩

section MixedTable
open Query

/-- Two rows under columns in an order and a spelling of their own. -/
def mixedTable (id : Cell) (pattern : Bytes) : Table where
  name := tableName
  columns := ["updated_at", "ID", "pattern", "test_mode", "is_regex"]
  rows := [⟨1, [.null, id, .ofString "b@x.com", .integer 0, .integer (-1)]⟩,
    ⟨2, [.ofString "2024-05-01 10:00:00", .integer 1, .text pattern, .integer 7, .integer 0]⟩]

def mixedColumns : EntryColumns :=
  ⟨⟨1, "ID"⟩, ⟨2, "pattern"⟩, ⟨4, "is_regex"⟩, ⟨3, "test_mode"⟩, ⟨0, "updated_at"⟩⟩

theorem mixedTable_reached (id : Cell) (pattern : Bytes) :
    connected.Reaches (treeOf (mixedTable id pattern)) (mixedTable id pattern) :=
  connected_sees (by decide +kernel : sameName tableName tableName)

theorem mixedTable_hasColumns (id : Cell) (pattern : Bytes) :
    HasColumns (mixedTable id pattern) := by
  have hcolumns : ∀ name ∈ ["id", "pattern", "is_regex", "test_mode", "updated_at"],
      (["updated_at", "ID", "pattern", "test_mode", "is_regex"].findIdx?
        (sameName name)).isSome := by decide +kernel
  exact hcolumns

/-- Of two bad cells the one in the row with the lower id is reported, though the other row was
there before it. -/
theorem fetchEntries_of_mixedTable :
    (∃ entries, (connected.fetchEntries (treeOf (mixedTable (.integer 3) [0x61]))).2 = .ok entries ∧
      entries.map (fun e => (e.id, e.pattern, e.isRegex, e.testMode)) =
        [(1, "a", false, true), (3, "b@x.com", true, false)]) ∧
    connected.fetchEntries (treeOf (mixedTable (.ofString "3") [0x61, 0xFF])) =
      (.new "blocker.db", .error <| .storeUnavailable
        "Conversion error from type Text at index: 1, invalid utf-8 sequence of 1 bytes from index 1") := by
  constructor
  · obtain ⟨c, hc, -, hiff, hreads, -⟩ :=
      fetchEntries_all_or_nothing plainPlan (mixedTable_reached (.integer 3) [0x61])
      (mixedTable_hasColumns (.integer 3) [0x61])
    obtain rfl : mixedColumns = c := Except.ok.inj hc
    have hrows : ∀ r ∈ (mixedTable (.integer 3) [0x61]).rows, Readable mixedColumns r := by
      refine List.forall_mem_cons.mpr ⟨⟨⟨_, rfl⟩, ⟨_, rfl⟩, ⟨_, rfl⟩, ⟨_, rfl⟩⟩,
        List.forall_mem_singleton.mpr ?_⟩
      exact ⟨⟨_, rfl⟩, ⟨"a", rfl⟩, ⟨_, rfl⟩, ⟨_, rfl⟩⟩
    obtain ⟨entries, hentries⟩ := hiff.mpr hrows
    refine ⟨entries, hentries, ?_⟩
    have hread := hreads entries hentries
    rw [plainPlan_pair rfl, if_neg (by decide +kernel)] at hread
    obtain _ | ⟨hfirst, _ | ⟨hsecond, _ | _⟩⟩ := hread
    have hfirst' := hfirst.unique (⟨rfl, rfl, ⟨_, rfl, by decide⟩, ⟨_, rfl, by decide⟩, rfl⟩ :
      Reads _ _ ⟨1, "a", false, true, _⟩)
    have hsecond' := hsecond.unique (⟨rfl, rfl, ⟨_, rfl, by decide⟩, ⟨_, rfl, by decide⟩, rfl⟩ :
      Reads _ _ ⟨3, "b@x.com", true, false, _⟩)
    rw [hfirst', hsecond']
    rfl
  · obtain ⟨c, hc, -, hiff, -, herror⟩ :=
      fetchEntries_all_or_nothing plainPlan (mixedTable_reached (.ofString "3") [0x61, 0xFF])
      (mixedTable_hasColumns (.ofString "3") [0x61, 0xFF])
    obtain rfl : mixedColumns = c := Except.ok.inj hc
    cases hfetch :
        (connected.fetchEntries (treeOf (mixedTable (.ofString "3") [0x61, 0xFF]))).2 with
    | ok entries =>
      obtain ⟨i, hi⟩ := (hiff.mp ⟨entries, hfetch⟩ _ List.mem_cons_self).id
      cases hi
    | error fault =>
      obtain ⟨-, e, hhead, rfl⟩ := herror fault hfetch
      rw [plainPlan_pair rfl, if_neg (by decide +kernel)] at hhead
      have he : e = .badText 1 ⟨1, some 1⟩ := by
        refine Option.some.inj (hhead.symm.trans ?_)
        decide +kernel
      rw [he] at hfetch
      exact Prod.ext (query_of_error hfetch) hfetch

end MixedTable

end DatabaseStore
end BlocklistSync
