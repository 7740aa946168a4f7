import BlocklistSync.Proofs.Number.Natural
import BlocklistSync.Proofs.Store.Bookkeeping
import BlocklistSync.Proofs.Text.Utf8
import BlocklistSync.Store.DatabaseStore

/-! Histories of the blocklist table under writers who give every row that they touch a later stamp
than all before, either always a number or always a text. The fingerprint then tells any two moments
apart at which the rows differ. -/
namespace BlocklistSync

namespace Cell

theorem order_integer (i j : ℤ) : (integer i).order (integer j) = compare i j := rfl

theorem order_ofString (s t : String) :
    (ofString s).order (ofString t) = compare (Text.Utf8.encode s) (Text.Utf8.encode t) := rfl

theorem repr_ne_minus (m n : ℕ) : m.repr ≠ "-" ++ n.repr := by
  intro h
  have hminus : '-' ∈ (toString m).toList := by
    rw [Nat.toString_eq_repr, h, String.toList_append]
    exact List.mem_cons_self
  exact absurd (Number.isDigit_of_mem_toString hminus) (by decide)

theorem eq_of_marker_integer {i j : ℤ} (h : (integer i).marker = (integer j).marker) : i = j := by
  replace h : i.repr = j.repr := Option.some.inj h
  match i, j with
  | .ofNat m, .ofNat n => rw [Number.toString_injective (m := m) (n := n) h]
  | .ofNat m, .negSucc n => exact absurd h (repr_ne_minus _ _)
  | .negSucc m, .ofNat n => exact absurd h.symm (repr_ne_minus _ _)
  | .negSucc m, .negSucc n =>
    have hdigits : (m + 1).repr = (n + 1).repr := String.append_right_inj "-" |>.mp h
    rw [Nat.succ.inj (Number.toString_injective hdigits)]

end Cell

/-- What writers may agree to use for stamps. -/
inductive StampClass
  | integers
  | texts
  deriving DecidableEq

namespace StampClass

def Admits : StampClass → Cell → Prop
  | integers, c => ∃ i, c = .integer i
  | texts, c => ∃ s, c = .ofString s

variable {cls : StampClass} {a b c : Cell}

theorem Admits.ne_null (ha : cls.Admits a) : a ≠ .null := by
  cases cls <;> obtain ⟨x, rfl⟩ := ha <;> exact nofun

theorem Admits.null_order (ha : cls.Admits a) : Cell.null.order a = .lt := by
  cases cls <;> obtain ⟨x, rfl⟩ := ha <;> rfl

theorem Admits.order_self (ha : cls.Admits a) : a.order a = .eq := by
  cases cls with
  | integers =>
    obtain ⟨i, rfl⟩ := ha
    exact (Cell.order_integer i i).trans Std.ReflOrd.compare_self
  | texts =>
    obtain ⟨s, rfl⟩ := ha
    exact (Cell.order_ofString s s).trans Std.ReflOrd.compare_self

theorem Admits.order_swap (ha : cls.Admits a) (hb : cls.Admits b) :
    a.order b = (b.order a).swap := by
  cases cls with
  | integers =>
    obtain ⟨⟨i, rfl⟩, ⟨j, rfl⟩⟩ := And.intro ha hb
    rw [Cell.order_integer, Cell.order_integer, Std.OrientedOrd.eq_swap]
  | texts =>
    obtain ⟨⟨s, rfl⟩, ⟨t, rfl⟩⟩ := And.intro ha hb
    rw [Cell.order_ofString, Cell.order_ofString, Std.OrientedOrd.eq_swap]

theorem Admits.isGE_trans (ha : cls.Admits a) (hb : cls.Admits b) (hc : cls.Admits c)
    (hab : (a.order b).isGE) (hbc : (b.order c).isGE) : (a.order c).isGE := by
  cases cls with
  | integers =>
    obtain ⟨⟨i, rfl⟩, ⟨j, rfl⟩, ⟨k, rfl⟩⟩ := And.intro ha (And.intro hb hc)
    rw [Cell.order_integer] at *
    exact Std.TransCmp.isGE_trans hab hbc
  | texts =>
    obtain ⟨⟨s, rfl⟩, ⟨t, rfl⟩, ⟨u, rfl⟩⟩ := And.intro ha (And.intro hb hc)
    rw [Cell.order_ofString] at *
    exact Std.TransCmp.isGE_trans hab hbc

theorem Admits.eq_of_order (ha : cls.Admits a) (hb : cls.Admits b) (h : a.order b = .eq) :
    a = b := by
  cases cls with
  | integers =>
    obtain ⟨⟨i, rfl⟩, ⟨j, rfl⟩⟩ := And.intro ha hb
    rw [Cell.order_integer] at h
    rw [Std.LawfulEqOrd.eq_of_compare h]
  | texts =>
    obtain ⟨⟨s, rfl⟩, ⟨t, rfl⟩⟩ := And.intro ha hb
    rw [Cell.order_ofString] at h
    exact congrArg Cell.text (Std.LawfulEqOrd.eq_of_compare h)

/-- The text that a stamp is shown by tells it from all others of its class. -/
theorem Admits.eq_of_marker (ha : cls.Admits a) (hb : cls.Admits b) (h : a.marker = b.marker) :
    a = b := by
  cases cls with
  | integers =>
    obtain ⟨⟨i, rfl⟩, ⟨j, rfl⟩⟩ := And.intro ha hb
    rw [Cell.eq_of_marker_integer h]
  | texts =>
    obtain ⟨⟨s, rfl⟩, ⟨t, rfl⟩⟩ := And.intro ha hb
    simp only [Cell.marker, Cell.ofString, Text.Utf8.decodeLenient_encode, Option.some.injEq] at h
    rw [h]

end StampClass

namespace Cell

def IsGreatest (cells : List Cell) (c : Cell) : Prop := c ∈ cells ∧ ∀ d ∈ cells, (c.order d).isGE

variable {cls : StampClass} {cells : List Cell}

theorem foldl_isGreatest {best : Cell} (hb : cls.Admits best) (hc : ∀ c ∈ cells, cls.Admits c) :
    IsGreatest (best :: cells) (cells.foldl
      (fun best c => if c == .null then best else if best.order c == .lt then c
        else best) best) := by
  induction cells generalizing best with
  | nil =>
    refine ⟨List.mem_singleton_self _, fun d hd => ?_⟩
    rw [List.mem_singleton.mp hd, List.foldl_nil, hb.order_self]
    rfl
  | cons c cells ih =>
    obtain ⟨hc, hcells⟩ := List.forall_mem_cons.mp hc
    have hadmits : ∀ d ∈ best :: c :: cells, cls.Admits d := by simp_all
    rw [List.foldl_cons, if_neg (by simpa using hc.ne_null)]
    -- Whichever of the two is kept, the other is no greater and so below the result as well.
    split
    · next hlt =>
      obtain ⟨hmem, hge⟩ := ih hc hcells
      refine ⟨List.mem_cons_of_mem _ hmem, List.forall_mem_cons.mpr ⟨?_, hge⟩⟩
      refine (hadmits _ (List.mem_cons_of_mem _ hmem)).isGE_trans hc hb
        (hge c (List.mem_cons_self ..)) ?_
      rw [hc.order_swap hb, eq_of_beq hlt]
      rfl
    · next hge' =>
      obtain ⟨hmem, hge⟩ := ih hb hcells
      have hmem' := (List.sublist_cons_self c cells).cons_cons best |>.subset hmem
      rw [List.forall_mem_cons] at hge
      refine ⟨hmem', List.forall_mem_cons.mpr ⟨hge.1, List.forall_mem_cons.mpr ⟨?_, hge.2⟩⟩⟩
      refine (hadmits _ hmem').isGE_trans hb hc hge.1 ?_
      exact Ordering.isGE_iff_ne_lt.mpr (by simpa using hge')

theorem maximum_isGreatest (hc : ∀ c ∈ cells, cls.Admits c) (hne : cells ≠ []) :
    IsGreatest cells (maximum cells) := by
  cases cells with
  | nil => exact absurd rfl hne
  | cons c cells =>
    obtain ⟨hc, hcells⟩ := List.forall_mem_cons.mp hc
    rw [maximum, List.foldl_cons, if_neg (by simpa using hc.ne_null), hc.null_order]
    exact foldl_isGreatest hc hcells

theorem IsGreatest.eq {c d : Cell} (hcells : ∀ c ∈ cells, cls.Admits c) (hc : IsGreatest cells c)
    (hd : IsGreatest cells d) : c = d := by
  have hcd := hc.2 d hd.1
  have hdc := hd.2 c hc.1
  have hc := hcells c hc.1
  have hd := hcells d hd.1
  refine hc.eq_of_order hd ?_
  rw [hd.order_swap hc] at hdc
  cases h : c.order d <;> simp_all

end Cell

namespace Table

variable {fresh : Row → Prop} (t : Table)

theorem statement_insert {cells : List Cell} (hf : fresh ⟨t.nextKey, cells⟩) :
    Statement fresh t.rows (t.insert cells).rows :=
  .insert (List.forall_mem_singleton.mpr hf) List.perm_append_comm

theorem statement_setCell {position column : ℕ} {value : Cell}
    (hf : ∀ r ∈ t.rows, fresh { r with cells := r.cells.set column value }) :
    Statement fresh t.rows (t.setCell position column value).rows :=
  .modify hf position

theorem statement_erase (position : ℕ) : Statement fresh t.rows (t.erase position).rows :=
  .delete (List.eraseIdx_sublist ..).subperm

end Table

namespace Query

/-- Writers stamp every row that they touch in the column `col`, with stamps of one class, each
later than every stamp that has been used before. -/
structure StampedBy (cls : StampClass) (col : Column) (tables : ℕ → Table) : Prop where
  column (n : ℕ) : Query.column (tables n) fingerprintSql "updated_at" 21 = .ok col
  rows : WellKept (fun r => cls.Admits (col.cell r))
    (fun q r => (col.cell q).order (col.cell r) = .lt) fun n => (tables n).rows

variable {cls : StampClass} {col : Column} {tables : ℕ → Table}

theorem fingerprint_eq (h : StampedBy cls col tables) (n : ℕ) : fingerprint (tables n) =
    .ok ⟨(tables n).rows.length, (Cell.maximum ((tables n).rows.map col.cell)).marker⟩ := by
  rw [fingerprint, h.column]
  rfl

theorem admits_cells (h : StampedBy cls col tables) (n : ℕ) :
    ∀ c ∈ (tables n).rows.map col.cell, cls.Admits c :=
  List.forall_mem_map.mpr (h.rows.all_good n)

theorem isGreatest_maximum (h : StampedBy cls col tables) {n : ℕ} (hne : (tables n).rows ≠ []) :
    Cell.IsGreatest ((tables n).rows.map col.cell) (Cell.maximum ((tables n).rows.map col.cell)) :=
  Cell.maximum_isGreatest (admits_cells h n) (mt List.map_eq_nil_iff.mp hne)

theorem perm_of_fingerprint_eq (h : StampedBy cls col tables) {m n : ℕ} (hmn : m ≤ n)
    (hf : fingerprint (tables m) = fingerprint (tables n)) :
    (tables n).rows.Perm (tables m).rows := by
  rw [fingerprint_eq h, fingerprint_eq h, Except.ok.injEq, Fingerprint.mk.injEq] at hf
  obtain ⟨hlength, hmarker⟩ := hf
  refine h.rows.perm_of_length_eq hmn hlength.symm fun r hr => ?_
  have hn := isGreatest_maximum h (List.ne_nil_of_mem hr)
  have hm := isGreatest_maximum h (List.ne_nil_of_length_pos (hlength ▸ List.length_pos_of_mem hr))
  have hmax := (admits_cells h m _ hm.1).eq_of_marker (admits_cells h n _ hn.1) hmarker
  obtain ⟨q, hq, hcell⟩ := List.mem_map.mp hm.1
  refine ⟨q, hq, ?_⟩
  rw [hcell, hmax]
  exact Ordering.isGE_iff_ne_lt.mp (hn.2 _ (List.mem_map_of_mem hr))

theorem fingerprint_eq_of_perm (h : StampedBy cls col tables) {m n : ℕ}
    (hp : (tables m).rows.Perm (tables n).rows) :
    fingerprint (tables m) = fingerprint (tables n) := by
  have hcells := hp.map col.cell
  have hmax : Cell.maximum ((tables m).rows.map col.cell) =
      Cell.maximum ((tables n).rows.map col.cell) := by
    by_cases hnil : (tables m).rows = []
    · rw [hnil] at hp ⊢
      rw [hp.nil_eq]
    · have hm := isGreatest_maximum h hnil
      have hn := isGreatest_maximum h fun hnil' => hnil (hp.trans (.of_eq hnil')).eq_nil
      exact hm.eq (admits_cells h m) ⟨hcells.mem_iff.mpr hn.1,
        fun d hd => hn.2 d (hcells.mem_iff.mp hd)⟩
  rw [fingerprint_eq h, fingerprint_eq h, hp.length_eq, hmax]

end Query

namespace DatabaseStore

/-- The table that the store's next question is put to. -/
def Sees (s : DatabaseStore) (tree : FileTree) (table : Table) : Prop :=
  ∃ c, s.current tree = .ok c ∧ tableOf tree c = .ok table

theorem Sees.fetchFingerprint {s : DatabaseStore} {tree : FileTree} {table : Table}
    (h : s.Sees tree table) {f : Fingerprint} (hf : Query.fingerprint table = .ok f) :
    (s.fetchFingerprint tree).2 = .ok f := by
  obtain ⟨c, hcurrent, htable⟩ := h
  have hask : ask tree Query.fingerprint c = .ok f := by rw [ask, htable]; exact hf
  rw [DatabaseStore.fetchFingerprint, query, hcurrent]
  simp only [hask]

/-- The fingerprints that are fetched at two moments of such a history are the same just if the
table holds the same rows at both. -/
theorem fetchFingerprint_eq_iff_perm {cls : StampClass} {col : Query.Column} {tables : ℕ → Table}
    (h : Query.StampedBy cls col tables) {m n : ℕ} {s t : DatabaseStore} {before after : FileTree}
    (hs : s.Sees before (tables m)) (ht : t.Sees after (tables n)) :
    ∃ f g, (s.fetchFingerprint before).2 = .ok f ∧ (t.fetchFingerprint after).2 = .ok g ∧
      (f = g ↔ (tables m).rows.Perm (tables n).rows) := by
  have hf := Query.fingerprint_eq h m
  have hg := Query.fingerprint_eq h n
  refine ⟨_, _, hs.fetchFingerprint hf, ht.fetchFingerprint hg, fun hfg => ?_, fun hp => ?_⟩
  · have heq : Query.fingerprint (tables m) = Query.fingerprint (tables n) := by rw [hf, hg, hfg]
    rcases Nat.le_total m n with hmn | hnm
    · exact (Query.perm_of_fingerprint_eq h hmn heq).symm
    · exact Query.perm_of_fingerprint_eq h hnm heq.symm
  · exact Except.ok.inj (hf.symm.trans ((Query.fingerprint_eq_of_perm h hp).trans hg))

section

def blankTable : Table :=
  ⟨Query.tableName, ["id", "pattern", "is_regex", "test_mode", "updated_at"], []⟩

def firstTable : Table :=
  blankTable.insert [.integer 1, .ofString "a@x.com", .integer 0, .integer 0,
    .ofString "2024-05-01 10:00:00"]

def secondTable : Table :=
  firstTable.insert [.integer 2, .ofString "b.*@x.com", .integer 1, .integer 1,
    .ofString "2024-05-01 10:00:05"]

/-- A rule is added, then another, the first one is taken away, and the other one is touched. -/
def oneForAnother : ℕ → Table
  | 0 => blankTable
  | 1 => firstTable
  | 2 => secondTable
  | 3 => secondTable.erase 0
  | _ => (secondTable.erase 0).setCell 0 4 (.ofString "2024-05-01 10:01:00")

def databaseOf (table : Table) : Database :=
  { Database.new with tables := [⟨table, 2, 1⟩], others := [LeafPage.empty 0] }

def treeOf (table : Table) : FileTree where
  nodes := [(["blocker.db"], .file 0)]
  bodies := [(0, ⟨.database (databaseOf table), 420⟩)]
  home := []

def connected : DatabaseStore := ⟨"blocker.db", some (.file 0)⟩

theorem connected_sees {table : Table} (hname : sameName table.name Query.tableName) :
    connected.Sees (treeOf table) table := by
  refine ⟨.file 0, rfl, ?_⟩
  simp [tableOf, databaseIn?, treeOf, databaseOf, FileTree.content?, FileTree.body?, Keyed.get?,
    Database.table?, hname]

theorem oneForAnother_stampedBy : Query.StampedBy .texts ⟨4, "updated_at"⟩ oneForAnother := by
  refine ⟨fun n => ?_, nofun, fun n => ?_⟩
  · match n with
    | 0 | 1 | 2 | 3 | n + 4 => rfl
  · match n with
    | 0 => exact blankTable.statement_insert ⟨⟨_, rfl⟩, by decide +kernel⟩
    | 1 => exact firstTable.statement_insert ⟨⟨_, rfl⟩, by decide +kernel⟩
    | 2 => exact secondTable.statement_erase 0
    | 3 =>
      exact (secondTable.erase 0).statement_setCell
        (List.forall_mem_singleton.mpr ⟨⟨_, rfl⟩, by decide +kernel⟩)
    | n + 4 => exact .refl _ _

/-- As many rows as before, but not the same. -/
theorem fetchFingerprint_ne_of_oneForAnother :
    ∃ f g, (connected.fetchFingerprint (treeOf (oneForAnother 1))).2 = .ok f ∧
      (connected.fetchFingerprint (treeOf (oneForAnother 3))).2 = .ok g ∧ f ≠ g := by
  have hchanged : ¬ (oneForAnother 1).rows.Perm (oneForAnother 3).rows := by decide +kernel
  obtain ⟨f, g, hf, hg, hfg⟩ :=
    fetchFingerprint_eq_iff_perm oneForAnother_stampedBy (m := 1) (n := 3)
    (connected_sees (by decide +kernel)) (connected_sees (by decide +kernel))
  exact ⟨f, g, hf, hg, mt hfg.mp hchanged⟩

end

end DatabaseStore

end BlocklistSync
