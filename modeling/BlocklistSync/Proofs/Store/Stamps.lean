import BlocklistSync.Proofs.Maps.Rules
import BlocklistSync.Proofs.Store.Readings

/-! What of a table gets into the maps. The stamps decide nothing, neither whether the table can be
read nor what is read of it, and of the other cells only the rules are left in the maps. In the list
that is fetched a stamp has a say just where two rows have the same id, as the order of those is
left to the database. -/
namespace BlocklistSync

namespace Table

variable {t : Table} {a b : String} {i j : ℕ}

theorem columnIndex?_ne (hab : a.toList.map Char.toLower ≠ b.toList.map Char.toLower)
    (ha : t.columnIndex? a = some i) (hb : t.columnIndex? b = some j) : i ≠ j := by
  rintro rfl
  obtain ⟨_, ha, -⟩ := List.findIdx?_eq_some_iff_getElem.mp ha
  obtain ⟨_, hb, -⟩ := List.findIdx?_eq_some_iff_getElem.mp hb
  exact hab ((eq_of_beq ha).trans (eq_of_beq hb).symm)

end Table

/-- A rule as the cells of a row tell it. -/
def Rule.cells (rule : Rule) : Cell × Bool × Bool :=
  (.ofString rule.pattern, rule.isRegex, rule.testMode)

theorem Rule.cells_injective : Rule.cells.Injective := by
  rintro ⟨p, a, b⟩ ⟨p', a', b'⟩ h
  obtain ⟨hpattern, rfl, rfl⟩ : Cell.ofString p = Cell.ofString p' ∧ a = a' ∧ b = b' := by
    simpa [cells] using h
  rw [Text.Utf8.encode_injective (Cell.text.inj hpattern)]

namespace Query

variable {t u : Table} {c d : EntryColumns} {r q : Row} {e : Entry}

/-- The tables hold the same rows, in whatever order, but for what stands in the column of the
stamps. -/
structure SameButStamps (t u : Table) : Prop where
  columns : t.columns = u.columns
  rows : ∃ rows, rows.Perm u.rows ∧ List.Forall₂ (fun r q =>
    ∀ i, t.columnIndex? "updated_at" ≠ some i → r.cells[i]? = q.cells[i]?) t.rows rows

/-- The rows agree in the cells that an entry cannot do without. -/
structure Agree (c : EntryColumns) (r q : Row) : Prop where
  id : c.id.cell r = c.id.cell q
  pattern : c.pattern.cell r = c.pattern.cell q
  isRegex : c.isRegex.cell r = c.isRegex.cell q
  testMode : c.testMode.cell r = c.testMode.cell q

theorem column_congr (h : t.columns = u.columns) (sql name : String) (offset : ℕ) :
    column t sql name offset = column u sql name offset := by
  simp only [column, Table.columnIndex?, h]

theorem entryColumns_congr (h : t.columns = u.columns) : entryColumns t = entryColumns u := by
  simp only [entryColumns, column_congr h]

theorem SameButStamps.cell_eq {col : Column} {sql name : String} {offset : ℕ}
    (hname : name.toList.map Char.toLower ≠ "updated_at".toList.map Char.toLower)
    (hcol : column t sql name offset = .ok col)
    (h : ∀ i, t.columnIndex? "updated_at" ≠ some i → r.cells[i]? = q.cells[i]?) :
    col.cell r = col.cell q := by
  obtain ⟨i, hi, rfl⟩ := column_eq_ok_iff.mp hcol
  rw [Column.cell, Column.cell, h i fun hstamps => Table.columnIndex?_ne hname hi hstamps rfl]

theorem SameButStamps.agree (h : SameButStamps t u) (hc : entryColumns t = .ok c) :
    ∃ rows, rows.Perm u.rows ∧ List.Forall₂ (Agree c) t.rows rows := by
  simp only [entryColumns, bind_eq_ok_iff, pure, Except.pure, Except.ok.injEq] at hc
  obtain ⟨id, hid, pattern, hpattern, isRegex, hregex, testMode, htest, updatedAt, -, rfl⟩ := hc
  obtain ⟨rows, hp, hrows⟩ := h.rows
  exact ⟨rows, hp, hrows.imp fun r q hrq =>
    ⟨cell_eq (by decide) hid hrq, cell_eq (by decide) hpattern hrq,
    cell_eq (by decide) hregex hrq, cell_eq (by decide) htest hrq⟩⟩

theorem Agree.symm (h : Agree c r q) : Agree c q r :=
  ⟨h.id.symm, h.pattern.symm, h.isRegex.symm, h.testMode.symm⟩

theorem Agree.readable (h : Agree c r q) (hr : Readable c r) : Readable c q :=
  ⟨h.id ▸ hr.id, h.pattern ▸ hr.pattern, h.isRegex ▸ hr.isRegex, h.testMode ▸ hr.testMode⟩

/-- Every row of `u` is a row of `t` but for its stamp. -/
def Covers (c : EntryColumns) (t u : Table) : Prop := ∀ q ∈ u.rows, ∃ r ∈ t.rows, Agree c r q

theorem exists_of_forall₂ {α : Type} {R : α → α → Prop} {xs ys : List α} (h : List.Forall₂ R xs ys)
    {y : α} (hy : y ∈ ys) : ∃ x ∈ xs, R x y := by
  induction h with
  | nil => cases hy
  | cons hxy _ ih =>
    rcases List.mem_cons.mp hy with rfl | hy
    · exact ⟨_, List.mem_cons_self, hxy⟩
    · obtain ⟨x, hx, hr⟩ := ih hy
      exact ⟨x, List.mem_cons_of_mem _ hx, hr⟩

theorem SameButStamps.covers (h : SameButStamps t u) (hc : entryColumns t = .ok c) :
    Covers c t u ∧ Covers c u t := by
  obtain ⟨rows, hp, hrows⟩ := h.agree hc
  refine ⟨fun q hq => exists_of_forall₂ hrows (hp.mem_iff.mpr hq), fun r hr => ?_⟩
  obtain ⟨q, hq, hrq⟩ := exists_of_forall₂ (R := Agree c) (hrows.imp fun _ _ => Agree.symm).flip hr
  exact ⟨q, hp.mem_iff.mp hq, hrq⟩

theorem Covers.readable (h : Covers c t u) (ht : ∀ r ∈ t.rows, Readable c r) :
    ∀ q ∈ u.rows, Readable c q := by
  intro q hq
  obtain ⟨r, hr, hrq⟩ := h q hq
  exact hrq.readable (ht r hr)

/-! What a row says. -/

def content (e : Entry) : ℤ × Rule := (e.id, e.rule)

def told (c : EntryColumns) (r : Row) : Except QueryError (ℤ × Rule) := (entryOf c r).map content

theorem Agree.told_eq (h : Agree c r q) : told c r = told c q := by
  have hid : asInteger 0 c.id r = asInteger 0 c.id q := by rw [asInteger, asInteger, h.id]
  have hpattern : asText 1 c.pattern r = asText 1 c.pattern q := by rw [asText, asText, h.pattern]
  have hregex : asInteger 2 c.isRegex r = asInteger 2 c.isRegex q := by
    rw [asInteger, asInteger, h.isRegex]
  have htest : asInteger 3 c.testMode r = asInteger 3 c.testMode q := by
    rw [asInteger, asInteger, h.testMode]
  rw [told, told, entryOf, entryOf, hid, hpattern, hregex, htest]
  cases asInteger 0 c.id q <;> cases asText 1 c.pattern q <;> cases asInteger 2 c.isRegex q <;>
    cases asInteger 3 c.testMode q <;> rfl

theorem SameButStamps.told_perm (h : SameButStamps t u) (hc : entryColumns t = .ok c) :
    (t.rows.map (told c)).Perm (u.rows.map (told c)) := by
  obtain ⟨rows, hp, hrows⟩ := h.agree hc
  have htold : t.rows.map (told c) = rows.map (told c) := by
    rw [← List.forall₂_eq_eq_eq, List.forall₂_map_left_iff, List.forall₂_map_right_iff]
    exact hrows.imp fun r q hrq => hrq.told_eq
  rw [htold]
  exact hp.map _

theorem Reads.told_eq (h : Reads c r e) : told c r = .ok (content e) := by
  rw [told, entryOf_eq_ok_iff.mpr h]
  rfl

theorem id_of_told {x : ℤ × Rule} (h : told c r = .ok x) : c.id.cell r = .integer x.1 := by
  cases he : entryOf c r with
  | error e =>
    rw [told, he] at h
    cases h
  | ok e =>
    rw [told, he] at h
    obtain rfl : content e = x := Except.ok.inj h
    exact (entryOf_eq_ok_iff.mp he).id

def ruleCells (c : EntryColumns) (r : Row) : Cell × Bool × Bool :=
  (c.pattern.cell r, c.isRegex.cell r ≠ .integer 0, c.testMode.cell r ≠ .integer 0)

theorem Reads.ruleCells_eq (h : Reads c r e) : ruleCells c r = e.rule.cells := by
  obtain ⟨i, hregex, hi⟩ := h.isRegex
  obtain ⟨j, htest, hj⟩ := h.testMode
  simp only [ruleCells, Rule.cells, Entry.rule, h.pattern, hregex, htest, ne_eq, Cell.integer.injEq,
    ← hi, ← hj, Bool.decide_eq_true]

/-! Tables that can be read. -/

section Entries
variable {α : Type} {f : Row → α} {g : Entry → α} {plan plan' : Plan} {es es' : List Entry}

theorem map_entries_eq (hc : entryColumns t = .ok c) (hfg : ∀ r e, Reads c r e → f r = g e)
    (h : entries plan.order t = .ok es) : (plan.order c t).map f = es.map g := by
  rw [← List.forall₂_eq_eq_eq, List.forall₂_map_left_iff, List.forall₂_map_right_iff]
  exact ((entries_eq_ok_iff hc).mp h).imp hfg

theorem map_entries_perm (hc : entryColumns t = .ok c) (hfg : ∀ r e, Reads c r e → f r = g e)
    (h : entries plan.order t = .ok es) : (es.map g).Perm (t.rows.map f) := by
  rw [← map_entries_eq hc hfg h]
  exact (plan.inOrder c t).perm.map f

theorem content_ascending (hc : entryColumns t = .ok c) (h : entries plan.order t = .ok es) :
    (es.map content).Pairwise fun x y => x.1 ≤ y.1 := by
  have hids : (plan.order c t).map c.id.cell = es.map fun e => .integer e.id :=
    map_entries_eq hc (fun r e hre => hre.id) h
  have hsorted := (plan.inOrder c t).ascending
  rw [← List.pairwise_map (f := c.id.cell) (R := fun a b => a.le b), hids,
    List.pairwise_map] at hsorted
  rw [List.pairwise_map]
  refine hsorted.imp fun {a b} hab => ?_
  have hle : a.id ≤ b.id := by simpa [Cell.le, Cell.order_integer, compare_gt_iff_gt] using hab
  exact hle

theorem rules_perm (hc : entryColumns t = .ok c) (hd : entryColumns u = .ok d)
    (h : entries plan.order t = .ok es) (h' : entries plan'.order u = .ok es')
    (hp : (t.rows.map (ruleCells c)).Perm (u.rows.map (ruleCells d))) :
    (es.map Entry.rule).Perm (es'.map Entry.rule) := by
  have hcells :=
    map_entries_perm (g := fun e => e.rule.cells) hc (fun r e hre => hre.ruleCells_eq) h
  have hcells' :=
    map_entries_perm (g := fun e => e.rule.cells) hd (fun r e hre => hre.ruleCells_eq) h'
  rw [← List.map_perm_map_iff Rule.cells_injective, List.map_map, List.map_map]
  exact (hcells.trans hp).trans hcells'.symm

end Entries

/-- Neither id comes before the other. -/
def SameId (c : EntryColumns) (r q : Row) : Prop :=
  (c.id.cell r).le (c.id.cell q) ∧ (c.id.cell q).le (c.id.cell r)

/-- Rows with the same id differ in their stamps at most. -/
def TiesAlike (t : Table) : Prop :=
  ∀ c, entryColumns t = .ok c → ∀ r ∈ t.rows, ∀ q ∈ t.rows, SameId c r q → told c r = told c q

theorem le_refl (c : EntryColumns) (r : Row) : (c.id.cell r).le (c.id.cell r) := by
  simpa using Cell.le_total (c.id.cell r) (c.id.cell r)

theorem SameId.symm (h : SameId c r q) : SameId c q r := ⟨h.2, h.1⟩

/-- Rows whose ids are all different are alike, as there is nothing to tell apart. -/
theorem tiesAlike_of_distinct (h : ∀ c, entryColumns t = .ok c →
    t.rows.Pairwise fun r q => ¬ SameId c r q) :
    TiesAlike t := by
  intro c hc r hr q hq
  have halike : t.rows.Pairwise fun r q => SameId c r q → told c r = told c q :=
    (h c hc).imp fun hne hsame => absurd hsame hne
  have halike' : t.rows.Pairwise (flip fun r q => SameId c r q → told c r = told c q) :=
    (h c hc).imp fun hne hsame => absurd hsame.symm hne
  exact halike.forall_of_forall_of_flip (fun r _ _ => rfl) halike' hr hq

theorem sameId_of_eq (h : c.id.cell r = c.id.cell q) : SameId c r q :=
  ⟨h ▸ le_refl c r, h ▸ le_refl c r⟩

/-- The same is read of two tables, in the same order but for rows with the same id. -/
structure ReadAlike (t : Table) (es es' : List Entry) : Prop where
  ids : es.map Entry.id = es'.map Entry.id
  perm : (es.map content).Perm (es'.map content)
  eq : TiesAlike t → es.map content = es'.map content

theorem SameButStamps.readAlike {plan plan' : Plan} {es es' : List Entry} (h : SameButStamps t u)
    (hc : entryColumns t = .ok c) (he : entries plan.order t = .ok es)
    (he' : entries plan'.order u = .ok es') :
    ReadAlike t es es' := by
  have hc' : entryColumns u = .ok c := by rw [← entryColumns_congr h.columns, hc]
  have htold := map_entries_perm (f := told c) hc (fun r e hre => hre.told_eq) he
  have htold' := map_entries_perm (f := told c) hc' (fun r e hre => hre.told_eq) he'
  have hperm : (es.map content).Perm (es'.map content) := by
    rw [← List.map_perm_map_iff (f := Except.ok) fun _ _ => Except.ok.inj, List.map_map,
      List.map_map]
    exact (htold.trans (h.told_perm hc)).trans htold'.symm
  have hsorted := content_ascending hc he
  have hsorted' := content_ascending hc' he'
  -- Both lists ascend by id, so that only entries with one id can have changed places.
  refine ⟨?_, hperm, fun hties => ?_⟩
  · have hids := hperm.map Prod.fst
    rw [← List.pairwise_map (f := Prod.fst) (R := (· ≤ ·))] at hsorted hsorted'
    have heq := hids.eq_of_pairwise (fun i j _ _ => Int.le_antisymm) hsorted hsorted'
    rwa [List.map_map, List.map_map] at heq
  · refine hperm.eq_of_pairwise (fun x y hx hy hxy hyx => ?_) hsorted hsorted'
    have hrow : ∀ z ∈ es.map content, ∃ r ∈ t.rows, told c r = .ok z := by
      intro z hz
      obtain ⟨e, he, rfl⟩ := List.mem_map.mp hz
      exact List.mem_map.mp (htold.mem_iff.mp (List.mem_map_of_mem he))
    obtain ⟨r, hr, hrx⟩ := hrow x hx
    obtain ⟨q, hq, hqy⟩ := hrow y (hperm.mem_iff.mpr hy)
    have hsame : SameId c r q :=
      sameId_of_eq (by rw [id_of_told hrx, id_of_told hqy, Int.le_antisymm hxy hyx])
    exact Except.ok.inj (hrx.symm.trans ((hties c hc r hr q hq hsame).trans hqy))

/-! Tables that cannot be read. -/

/-- The error is the first in its row, and no row that cannot be read has a lower id. -/
structure Blames (c : EntryColumns) (t : Table) (e : QueryError) (r : Row) : Prop where
  mem : r ∈ t.rows
  lowest : ∀ q ∈ t.rows, ¬ Readable c q → (c.id.cell r).le (c.id.cell q)
  error : (rowErrors c r).head? = some e

theorem readable_of_rowErrors (h : (rowErrors c r).head? = none) : Readable c r := by
  cases he : entryOf c r with
  | ok e => exact (entryOf_eq_ok_iff.mp he).readable
  | error e => simp [entryOf_eq_error_iff.mp he] at h

theorem exists_blamed {plan : Plan} {e : QueryError} (hc : entryColumns t = .ok c)
    (h : entries plan.order t = .error e) : ∃ r, Blames c t e r := by
  rw [entries_eq_error_iff hc, badCells, List.head?_flatMap, List.findSome?_eq_some_iff] at h
  obtain ⟨before, r, later, hrows, herror, hbefore⟩ := h
  have hmem (q : Row) : q ∈ t.rows ↔ q ∈ before ++ r :: later := by
    rw [← hrows, (plan.inOrder c t).perm.mem_iff]
  have hsorted := (plan.inOrder c t).ascending
  rw [hrows] at hsorted
  -- The rows before the first bad one can be read, and those after it have no lower id.
  refine ⟨r, (hmem r).mpr (by simp), fun q hq hbad => ?_, herror⟩
  rcases List.mem_append.mp ((hmem q).mp hq) with hq | hq
  · exact absurd (readable_of_rowErrors (hbefore q hq)) hbad
  · rcases List.mem_cons.mp hq with rfl | hq
    · exact le_refl c q
    · exact (List.pairwise_cons.mp (List.pairwise_append.mp hsorted).2.1).1 q hq

theorem Blames.not_readable {e : QueryError} (h : Blames c t e r) : ¬ Readable c r := by
  intro hr
  obtain ⟨e', he'⟩ := readable_iff.mp hr
  have herror := entryOf_eq_error_iff.mpr h.error
  rw [entryOf_eq_ok_iff.mpr he'] at herror
  cases herror

theorem Blames.le {e e' : QueryError} (h : Blames c t e r) (hcovers : Covers c t u)
    (h' : Blames c u e' q) :
    (c.id.cell r).le (c.id.cell q) := by
  obtain ⟨r', hr', hagree⟩ := hcovers q h'.mem
  rw [← hagree.id]
  exact h.lowest r' hr' fun hreadable => h'.not_readable (hagree.readable hreadable)

/-- Two tables fail by rows with the same id, and in the same way if rows with the same id do. -/
structure FailAlike (t u : Table) (e e' : QueryError) : Prop where
  sameId : ∀ c, entryColumns t = .ok c → ∃ r q, Blames c t e r ∧ Blames c u e' q ∧ SameId c r q
  eq : TiesAlike t → e = e'

theorem Blames.told_eq {e : QueryError} (h : Blames c t e r) : told c r = .error e := by
  rw [told, entryOf_eq_error_iff.mpr h.error]
  rfl

theorem SameButStamps.failAlike {plan plan' : Plan} {e e' : QueryError} (h : SameButStamps t u)
    (he : entries plan.order t = .error e) (he' : entries plan'.order u = .error e') :
    FailAlike t u e e' := by
  cases hc : entryColumns t with
  | error f =>
    have hc' : entryColumns u = .error f := by rw [← entryColumns_congr h.columns, hc]
    rw [entries, hc] at he
    rw [entries, hc'] at he'
    refine ⟨fun c hc' => ?_, fun _ => (Except.error.inj he).symm.trans (Except.error.inj he')⟩
    rw [hc] at hc'
    cases hc'
  | ok c =>
    have hc' : entryColumns u = .ok c := by rw [← entryColumns_congr h.columns, hc]
    obtain ⟨hcovers, hcovered⟩ := h.covers hc
    obtain ⟨r, hr⟩ := exists_blamed hc he
    obtain ⟨q, hq⟩ := exists_blamed hc' he'
    have hsame : SameId c r q := ⟨hr.le hcovers hq, hq.le hcovered hr⟩
    refine ⟨fun d hd => ?_, fun hties => ?_⟩
    · obtain rfl : c = d := Except.ok.inj (hc.symm.trans hd)
      exact ⟨r, q, hr, hq, hsame⟩
    · obtain ⟨r', hr', hagree⟩ := hcovers q hq.mem
      have htold : told c r = told c r' := hties c hc r hr.mem r' hr' (by rwa [SameId, hagree.id])
      rw [hagree.told_eq, hr.told_eq, hq.told_eq] at htold
      exact Except.error.inj htold

/-- Either both tables can be read or neither. -/
theorem SameButStamps.exists_entries_iff (plan plan' : Plan) (h : SameButStamps t u) :
    (∃ es, entries plan.order t = .ok es) ↔ ∃ es, entries plan'.order u = .ok es := by
  cases hc : entryColumns t with
  | error f =>
    have hc' : entryColumns u = .error f := by rw [← entryColumns_congr h.columns, hc]
    rw [entries, entries, hc, hc']
    rfl
  | ok c =>
    have hc' : entryColumns u = .ok c := by rw [← entryColumns_congr h.columns, hc]
    obtain ⟨hcovers, hcovered⟩ := h.covers hc
    rw [Query.exists_entries_iff plan hc, Query.exists_entries_iff plan' hc']
    exact ⟨hcovers.readable, hcovered.readable⟩

end Query

namespace DatabaseStore

open Query

variable {s s' : DatabaseStore} {tree tree' : FileTree} {t u : Table}

/-- Tables that differ in their stamps only are read alike or fail alike, and tables that ask for
the same rules, each as often, make the same maps. -/
theorem maps_of_rules (plan plan' : Plan) (hs : s.Reaches tree t) (hs' : s'.Reaches tree' u) :
    (SameButStamps t u → (t.columnIndex? "updated_at").isSome →
      (∃ f, (s.fetchFingerprint tree).2 = .ok f) ∧ (∃ f, (s'.fetchFingerprint tree').2 = .ok f) ∧
      ((∃ e e', (s.fetchEntriesIn plan.order tree).2 = .error (unavailable e) ∧
          (s'.fetchEntriesIn plan'.order tree').2 = .error (unavailable e') ∧ FailAlike t u e e') ∨
        ∃ es es', (s.fetchEntriesIn plan.order tree).2 = .ok es ∧
          (s'.fetchEntriesIn plan'.order tree').2 = .ok es' ∧ ReadAlike t es es' ∧
            compile es = compile es')) ∧
    ∀ c d es es', entryColumns t = .ok c → entryColumns u = .ok d →
      (s.fetchEntriesIn plan.order tree).2 = .ok es →
        (s'.fetchEntriesIn plan'.order tree').2 = .ok es' →
      (t.rows.map (ruleCells c)).Perm (u.rows.map (ruleCells d)) → compile es = compile es' := by
  refine ⟨fun h hstamps => ?_, fun c d es es' hc hd he he' hp => ?_⟩
  · have hstamps' : (u.columnIndex? "updated_at").isSome := by rwa [Table.columnIndex?, ← h.columns]
    obtain ⟨f, hf⟩ := exists_fingerprint hstamps
    obtain ⟨g, hg⟩ := exists_fingerprint hstamps'
    replace hs := hs.sees hstamps
    replace hs' := hs'.sees hstamps'
    refine ⟨⟨f, hs.fetchFingerprint hf⟩, ⟨g, hs'.fetchFingerprint hg⟩, ?_⟩
    have hiff := h.exists_entries_iff plan plan'
    rw [fetchEntriesIn, fetchEntriesIn, hs.query_eq, hs'.query_eq]
    cases ht : entries plan.order t <;> cases hu : entries plan'.order u <;> rw [ht, hu] at hiff
    case error.error e e' => exact .inl ⟨e, e', rfl, rfl, h.failAlike ht hu⟩
    case ok.ok es es' =>
      obtain ⟨c, hc, -⟩ := bind_eq_ok_iff.mp ht
      have halike := h.readAlike hc ht hu
      have hrules := halike.perm.map Prod.snd
      rw [List.map_map, List.map_map] at hrules
      exact .inr ⟨es, es', rfl, rfl, halike, compile_congr hrules⟩
    case error.ok => simp at hiff
    case ok.error => simp at hiff
  · rw [hs.fetchEntriesIn_eq (hasColumns_of_entryColumns hc), mapError_eq_ok_iff] at he
    rw [hs'.fetchEntriesIn_eq (hasColumns_of_entryColumns hd), mapError_eq_ok_iff] at he'
    exact compile_congr (rules_perm hc hd he he' hp)

section TwoRules

/-- Two rules, with a flag of each, their ids and their stamps left open. -/
def twoRules (first second flag : ℤ) (stamp : Cell) : Table :=
  (blankTable.insert [.integer first, .ofString "a@x.com", .integer flag, .integer 0, stamp]).insert
    [.integer second, .ofString "b@x.com", .integer 0, .integer flag, stamp]

def plainColumns : EntryColumns :=
  ⟨⟨0, "id"⟩, ⟨1, "pattern"⟩, ⟨2, "is_regex"⟩, ⟨3, "test_mode"⟩, ⟨4, "updated_at"⟩⟩

variable (first second flag : ℤ) (stamp stamp' : Cell)

theorem twoRules_reached :
    connected.Reaches (treeOf (twoRules first second flag stamp))
      (twoRules first second flag stamp) :=
  connected_sees (by decide +kernel : sameName tableName tableName)

theorem twoRules_columns : entryColumns (twoRules first second flag stamp) = .ok plainColumns := rfl

theorem twoRules_sameButStamps :
    SameButStamps (twoRules first second flag stamp) (twoRules first second flag stamp') := by
  refine ⟨rfl, _, .refl _, .cons (fun i hi => ?_) (.cons (fun i hi => ?_) .nil)⟩
  all_goals
    match i with
    | 0 | 1 | 2 | 3 => rfl
    | 4 => exact absurd rfl hi
    | i + 5 => rfl

theorem exists_fetchEntries_twoRules :
    ∃ es, (connected.fetchEntries (treeOf (twoRules first second flag stamp))).2 = .ok es := by
  refine ((twoRules_reached first second flag stamp).exists_fetchEntriesIn_iff (twoRules_columns ..)
    plainPlan).mpr ?_
  exact List.forall_mem_cons.mpr ⟨⟨⟨_, rfl⟩, ⟨_, rfl⟩, ⟨_, rfl⟩, ⟨_, rfl⟩⟩,
    List.forall_mem_singleton.mpr ⟨⟨_, rfl⟩, ⟨_, rfl⟩, ⟨_, rfl⟩, ⟨_, rfl⟩⟩⟩

theorem twoRules_tiesAlike : TiesAlike (twoRules 1 2 flag stamp) := by
  refine tiesAlike_of_distinct fun c hc => ?_
  obtain rfl : plainColumns = c := Except.ok.inj hc
  refine List.pairwise_pair.mpr fun hsame => ?_
  exact absurd hsame.2 (by decide +kernel : ¬ (Cell.integer 2).le (.integer 1))

/-- Neither stamps that cannot be read nor other ids and other flags that are not zero make a
difference. -/
theorem maps_of_twoRules :
    ∃ es es' es'', (connected.fetchEntries
      (treeOf (twoRules 1 2 1 (.ofString "2024-05-01 10:00:00")))).2 = .ok es ∧
      (connected.fetchEntries (treeOf (twoRules 1 2 1 (.blob [0xFF])))).2 = .ok es' ∧
      (connected.fetchEntries (treeOf (twoRules 9 (-3) 7 .null))).2 = .ok es'' ∧
      es.map content = es'.map content ∧ compile es = compile es' ∧ compile es = compile es'' := by
  let first := twoRules 1 2 1 (.ofString "2024-05-01 10:00:00")
  have hs : connected.Reaches (treeOf first) first := twoRules_reached ..
  obtain ⟨es, hes⟩ := exists_fetchEntries_twoRules 1 2 1 (.ofString "2024-05-01 10:00:00")
  obtain ⟨es'', hes''⟩ := exists_fetchEntries_twoRules 9 (-3) 7 .null
  obtain ⟨hstamps, -⟩ := maps_of_rules plainPlan plainPlan hs
    (twoRules_reached 1 2 1 (.blob [0xFF]))
  obtain ⟨-, hrules⟩ := maps_of_rules plainPlan plainPlan hs (twoRules_reached 9 (-3) 7 .null)
  obtain ⟨-, -, ⟨e, -, he, -⟩ | ⟨fs, es', hfs, hes', halike, hcompile⟩⟩ :=
    hstamps (twoRules_sameButStamps ..) rfl
  · cases hes.symm.trans he
  · obtain rfl : es = fs := Except.ok.inj (hes.symm.trans hfs)
    exact ⟨es, es', es'', hes, hes', hes'', halike.eq (twoRules_tiesAlike _ _), hcompile,
      hrules _ _ _ _ rfl rfl hes hes'' (by decide +kernel)⟩

end TwoRules

section OneId

/-- Two rows with the same id, in the order of their stamps, which are the keys of the table. -/
def oneId (first second : Cell) : Table where
  name := tableName
  columns := ["id", "pattern", "is_regex", "test_mode", "updated_at"]
  rows := [⟨10, [.integer 1, first, .integer 0, .integer 0, .integer 10]⟩,
    ⟨20, [.integer 1, second, .integer 0, .integer 0, .integer 20]⟩]

theorem oneId_sameButStamps (first second : Cell) :
    SameButStamps (oneId first second) (oneId second first) := by
  refine ⟨rfl, _, .swap .., .cons (fun i hi => ?_) (.cons (fun i hi => ?_) .nil)⟩
  all_goals
    match i with
    | 0 | 1 | 2 | 3 => rfl
    | 4 => exact absurd rfl hi
    | i + 5 => rfl

theorem fetchEntries_oneId (first second : Cell) :
    (connected.fetchEntries (treeOf (oneId first second))).2 =
    ((oneId first second).rows.mapM (entryOf plainColumns)).mapError unavailable := by
  have hs : connected.Reaches (treeOf (oneId first second)) (oneId first second) :=
    connected_sees (by decide +kernel : sameName tableName tableName)
  have hc : entryColumns (oneId first second) = .ok plainColumns := rfl
  rw [fetchEntries, hs.fetchEntriesIn_eq (hasColumns_of_entryColumns hc), entries_eq hc]
  have hid : (Cell.integer 1).le (.integer 1) := by decide +kernel
  have horder : plainPlan.order plainColumns (oneId first second) = (oneId first second).rows := by
    rw [plainPlan_pair rfl]
    exact if_pos hid
  exact congrArg (fun rows => (rows.mapM (entryOf plainColumns)).mapError unavailable) horder

def entriesOfOneId (first second : String) : List Entry :=
  [⟨1, first, false, false, stamp (.integer 10)⟩, ⟨1, second, false, false, stamp (.integer 20)⟩]

theorem fetchEntries_oneId_ofString (first second : String) :
    (connected.fetchEntries (treeOf (oneId (.ofString first) (.ofString second)))).2 =
      .ok (entriesOfOneId first second) := by
  rw [fetchEntries_oneId, mapError_eq_ok_iff, mapM_eq_ok_iff]
  simp only [entryOf_eq_ok_iff]
  exact .cons ⟨rfl, rfl, ⟨_, rfl, by simp⟩, ⟨_, rfl, by simp⟩, rfl⟩
    (.cons ⟨rfl, rfl, ⟨_, rfl, by simp⟩, ⟨_, rfl, by simp⟩, rfl⟩ .nil)

/-- Where the stamps of two rows with one id are exchanged, the rows change places, and of two bad
cells the other one is reported. -/
theorem exists_exchanged :
    (∃ t u, SameButStamps t u ∧ ∃ es es', (connected.fetchEntries (treeOf t)).2 = .ok es ∧
      (connected.fetchEntries (treeOf u)).2 = .ok es' ∧ es.map content ≠ es'.map content) ∧
    ∃ t u, SameButStamps t u ∧
      ∃ e e', (connected.fetchEntries (treeOf t)).2 = .error (unavailable e) ∧
        (connected.fetchEntries (treeOf u)).2 = .error (unavailable e') ∧
        unavailable e ≠ unavailable e' := by
  constructor
  · exact ⟨_, _, oneId_sameButStamps (.ofString "a@x.com") (.ofString "b@x.com"), _, _,
      fetchEntries_oneId_ofString .., fetchEntries_oneId_ofString .., by decide⟩
  · exact ⟨_, _, oneId_sameButStamps .null (.integer 5), .columnType "Null" 1 "pattern",
      .columnType "Integer" 1 "pattern", fetchEntries_oneId .., fetchEntries_oneId .., by
        decide +kernel⟩

end OneId

end DatabaseStore
end BlocklistSync
