import BlocklistSync.Proofs.Calendar.Rendering
import BlocklistSync.Proofs.Store.Bookkeeping
import BlocklistSync.Store.Memory
import Mathlib.Data.List.Pairwise

/-! Whole histories of the store in memory. Its clock bounds every stamp and moves on with every
change, so that two moments with the same fingerprint have the same entries, whatever came and went
in between. -/
namespace BlocklistSync.MemoryStore
open Calendar (Moment)

/-- What can be asked of the store. -/
inductive Deed
  | insert (pattern : String) (isRegex testMode : Bool)
  | setTestMode (id : Int) (testMode : Bool)
  | remove (id : Int)
  | failNext (n : ℕ)
  | connect
  | fetchEntries
  | fetchFingerprint

def perform (s : MemoryStore) : Deed → MemoryStore
  | .insert pattern isRegex testMode => (s.insert pattern isRegex testMode).1
  | .setTestMode id testMode => (s.setTestMode id testMode).1
  | .remove id => (s.remove id).1
  | .failNext n => s.failNext n
  | .connect => s.connect.1
  | .fetchEntries => s.fetchEntries.1
  | .fetchFingerprint => s.fetchFingerprint.1

/-- A new store, and the store after the first `n` deeds. -/
def history (deeds : ℕ → Deed) : ℕ → MemoryStore
  | 0 => empty
  | n + 1 => (history deeds n).perform (deeds n)

theorem stamp_isWhole (k : ℕ) : (stamp k).IsWhole := by
  refine ⟨?_, rfl⟩
  change ((k : ℤ) % 86400).toNat < 86400
  omega

theorem compare_stamp_eq_gt {j k : ℕ} : compare (stamp j) (stamp k) = .gt ↔ k < j := by
  change (compare ((j : ℤ) / 86400) (k / 86400)).then
    ((compare ((j : ℤ) % 86400).toNat ((k : ℤ) % 86400).toNat).then (compare 0 0)) = .gt ↔ k < j
  rw [Ordering.then_eq_gt, Ordering.then_eq_gt]
  simp only [Int.compare_eq_gt, Int.compare_eq_eq, Nat.compare_eq_gt, Nat.compare_eq_eq]
  omega

theorem stamp_injective {j k : ℕ} (h : stamp j = stamp k) : j = k := by
  have hday : (j : ℤ) / 86400 = k / 86400 := congrArg Moment.dayNumber h
  have hsecond : ((j : ℤ) % 86400).toNat = ((k : ℤ) % 86400).toNat := congrArg Moment.second h
  omega

/-- A call changes no entry, whether it is served or refused. -/
theorem fst_call {α : Type} (s : MemoryStore) (answer : α) :
    (s.call answer).1 = { s with calls := s.calls + 1, outages := s.outages - 1 } := by
  unfold call
  dsimp only
  split
  · next h => rw [h]
  · rfl

theorem snd_call_eq_ok {α : Type} {s : MemoryStore} {answer a : α} :
    (s.call answer).2 = .ok a ↔ s.outages = 0 ∧ answer = a := by
  unfold call
  dsimp only
  split <;> simp_all

theorem perform_call (s : MemoryStore) {d : Deed}
    (hd : d = .connect ∨ d = .fetchEntries ∨ d = .fetchFingerprint) :
    s.perform d = { s with calls := s.calls + 1, outages := s.outages - 1 } := by
  rcases hd with rfl | rfl | rfl <;> exact fst_call s _

theorem clock_le_perform (s : MemoryStore) (d : Deed) : s.clock ≤ (s.perform d).clock := by
  cases d with
  | insert | setTestMode => exact Nat.le_succ _
  | remove | failNext => exact Nat.le_refl _
  | connect | fetchEntries | fetchFingerprint =>
    exact Nat.le_of_eq (congrArg clock (perform_call s (by simp))).symm

theorem clock_mono (deeds : ℕ → Deed) {m n : ℕ} (hmn : m ≤ n) :
    (history deeds m).clock ≤ (history deeds n).clock := by
  induction n, hmn using Nat.le_induction with
  | base => exact Nat.le_refl _
  | succ n _ ih => exact Nat.le_trans ih (clock_le_perform _ _)

/-- The entries bear ascending ids, all of them given by the store. -/
structure Numbered (s : MemoryStore) : Prop where
  ascending : s.entries.Pairwise fun a b => a.id < b.id
  given : ∀ e ∈ s.entries, e.id < s.nextId

theorem Numbered.perform {s : MemoryStore} (h : s.Numbered) (d : Deed) :
    (s.perform d).Numbered := by
  cases d with
  | insert pattern isRegex testMode =>
    constructor
    · refine List.pairwise_append.mpr ⟨h.ascending, List.pairwise_singleton _ _,
        fun a ha b hb => ?_⟩
      rw [List.mem_singleton.mp hb]
      exact h.given a ha
    · intro e he
      rcases List.mem_append.mp he with he | he
      · exact Int.lt_add_one_of_le (Int.le_of_lt (h.given e he))
      · rw [List.mem_singleton.mp he]
        exact Int.lt_succ _
  | setTestMode id testMode =>
    have hid : ∀ e : Entry, (if e.id =
      id then { e with testMode, updatedAt := some (stamp (s.clock + 1)) } else e).id =
        e.id := fun e => by split <;> rfl
    constructor
    · refine List.pairwise_map.mpr (h.ascending.imp fun hab => ?_)
      rw [hid, hid]
      exact hab
    · refine List.forall_mem_map.mpr fun e he => ?_
      rw [hid]
      exact h.given e he
  | remove id => exact ⟨h.ascending.filter _, fun e he => h.given e (List.mem_of_mem_filter he)⟩
  | failNext => exact ⟨h.ascending, h.given⟩
  | connect | fetchEntries | fetchFingerprint =>
    rw [perform_call s (by simp)]
    exact ⟨h.ascending, h.given⟩

theorem numbered_history (deeds : ℕ → Deed) (n : ℕ) : (history deeds n).Numbered := by
  induction n with
  | zero => exact ⟨List.Pairwise.nil, by simp [history, empty]⟩
  | succ n ih => exact ih.perform _

theorem Numbered.listed_eq {s : MemoryStore} (h : s.Numbered) : s.listed = s.entries :=
  List.mergeSort_of_pairwise (h.ascending.imp fun hab => decide_eq_true (Int.le_of_lt hab))

/-- Entries with as many ids of the same kind in the same order are the same lists. -/
theorem Numbered.eq_of_perm {s t : MemoryStore} (hs : s.Numbered) (ht : t.Numbered)
    (hp : s.entries.Perm t.entries) : s.entries = t.entries :=
  hp.eq_of_pairwise (fun _ _ _ _ hab hba => absurd hba (Int.lt_asymm hab)) hs.ascending ht.ascending

/-- A deed is a statement whose fresh entries bear the time at which it is over. -/
theorem statement_perform (s : MemoryStore) (d : Deed) :
    Statement (fun e => e.updatedAt = some (stamp (s.perform d).clock) ∧
      s.clock < (s.perform d).clock) s.entries
      (s.perform d).entries := by
  cases d with
  | insert pattern isRegex testMode =>
    refine .insert (fun e he => ?_) List.perm_append_comm
    rw [List.mem_singleton.mp he]
    exact ⟨rfl, Nat.lt_succ_self _⟩
  | setTestMode id testMode =>
    refine .update (List.forall₂_map_right_iff.mpr (List.forall₂_same.mpr fun e _ => ?_))
      (List.Perm.refl _)
    split
    · exact Or.inr ⟨rfl, Nat.lt_succ_self _⟩
    · exact Or.inl rfl
  | remove id => exact .delete List.filter_sublist.subperm
  | failNext => exact .refl _ _
  | connect | fetchEntries | fetchFingerprint =>
    rw [perform_call s (by simp)]
    exact .refl _ _

def IsStamped (e : Entry) : Prop := ∃ k, e.updatedAt = some (stamp k)

def IsOlder (q r : Entry) : Prop :=
  ∃ j k, q.updatedAt = some (stamp j) ∧ r.updatedAt = some (stamp k) ∧ j < k

theorem stamp_le_clock (deeds : ℕ → Deed) (n : ℕ) :
    ∀ e ∈ (history deeds n).entries, ∃ k ≤ (history deeds n).clock, e.updatedAt =
      some (stamp k) := by
  induction n with
  | zero => simp [history, empty]
  | succ n ih =>
    have hstatement := statement_perform (history deeds n) (deeds n)
    refine hstatement.forall_mem (fun e he => ⟨_, Nat.le_refl _, he.1⟩) fun e he => ?_
    obtain ⟨k, hk, hstamp⟩ := ih e he
    exact ⟨k, Nat.le_trans hk (clock_le_perform _ _), hstamp⟩

theorem wellKept_history (deeds : ℕ → Deed) :
    WellKept IsStamped IsOlder fun n => (history deeds n).entries where
  start := by simp [history, empty]
  statement n := by
    refine (statement_perform (history deeds n) (deeds n)).mono fun e he =>
      ⟨⟨_, he.1⟩, fun k hk q hq => ?_⟩
    obtain ⟨j, hj, hstamp⟩ := stamp_le_clock deeds k q hq
    exact ⟨j, _, hstamp, he.1, by have := clock_mono deeds hk; omega⟩

theorem foldl_later (best : ℕ) (ks : List ℕ) :
    (ks.map stamp).foldl (fun best m =>
      match best with
      | none => some m
      | some b => if compare b m == .gt then some b else some m) (some (stamp best)) =
        some (stamp (ks.foldl max best)) := by
  induction ks generalizing best with
  | nil => rfl
  | cons k ks ih =>
    rw [List.map_cons, List.foldl_cons, List.foldl_cons, ← ih]
    by_cases hk : k < best
    · simp only [compare_stamp_eq_gt.mpr hk, Nat.max_eq_left (Nat.le_of_lt hk)]
      rfl
    · simp only [beq_iff_eq, compare_stamp_eq_gt, hk, Nat.max_eq_right (Nat.le_of_not_lt hk),
        if_false]

theorem exists_times {entries : List Entry} (h : ∀ e ∈ entries, IsStamped e) :
    ∃ ks : List ℕ, entries.map (·.updatedAt) = ks.map fun k => some (stamp k) := by
  induction entries with
  | nil => exact ⟨[], rfl⟩
  | cons e entries ih =>
    obtain ⟨⟨k, hk⟩, hrest⟩ := List.forall_mem_cons.mp h
    obtain ⟨ks, hks⟩ := ih hrest
    exact ⟨k :: ks, by rw [List.map_cons, List.map_cons, hk, hks]⟩

theorem newest_eq {entries : List Entry} {ks : List ℕ}
    (hks : entries.map (·.updatedAt) = ks.map fun k => some (stamp k)) :
    newest entries = ks.max?.map stamp := by
  have hstamps : entries.filterMap (·.updatedAt) = ks.map stamp := by
    have hid : entries.filterMap (·.updatedAt) = (entries.map (·.updatedAt)).filterMap id := by
      rw [List.filterMap_map, Function.id_comp]
    rw [hid, hks, List.filterMap_map]
    exact congrFun List.filterMap_eq_map ks
  rw [newest, hstamps]
  cases ks with
  | nil => rfl
  | cons k ks => exact foldl_later k ks

/-- The newest stamp is the one of some entry, and no entry bears a later one. -/
theorem newest_spec {entries : List Entry} (h : ∀ e ∈ entries, IsStamped e) {e : Entry}
    (he : e ∈ entries) :
    ∃ q ∈ entries, newest entries = q.updatedAt ∧ ∀ r ∈ entries, ¬ IsOlder q r := by
  obtain ⟨ks, hks⟩ := exists_times h
  have hne : ks ≠ [] := by
    rintro rfl
    simp_all
  obtain ⟨k, hmax⟩ := Option.ne_none_iff_exists'.mp (mt List.max?_eq_none_iff.mp hne)
  obtain ⟨hmem, hgreatest⟩ := List.max?_eq_some_iff.mp hmax
  have htime : ∀ r ∈ entries, ∀ j, r.updatedAt = some (stamp j) → j ∈ ks := by
    intro r hr j hj
    have hmap : r.updatedAt ∈ ks.map fun k => some (stamp k) := hks ▸ List.mem_map_of_mem hr
    obtain ⟨i, hi, hstamp⟩ := List.mem_map.mp hmap
    rwa [← stamp_injective (Option.some.inj (hstamp.trans hj))]
  obtain ⟨q, hq, hstamp⟩ : ∃ q ∈ entries, q.updatedAt = some (stamp k) :=
    List.mem_map.mp (hks ▸ List.mem_map.mpr ⟨k, hmem, rfl⟩)
  refine ⟨q, hq, by rw [newest_eq hks, hmax, hstamp, Option.map_some], ?_⟩
  rintro r hr ⟨i, j, hi, hj, hij⟩
  have hik : i = k := stamp_injective (Option.some.inj (hi.symm.trans hstamp))
  exact absurd (hgreatest j (htime r hr j hj)) (by omega)

theorem updatedAt_eq_of_toText_eq {q r : Entry} (hq : IsStamped q) (hr : IsStamped r)
    (h : q.updatedAt.map (·.toText) = r.updatedAt.map (·.toText)) : q.updatedAt = r.updatedAt := by
  obtain ⟨j, hj⟩ := hq
  obtain ⟨k, hk⟩ := hr
  rw [hj, hk] at h ⊢
  rw [Moment.toText_injective (stamp_isWhole j) (stamp_isWhole k) (Option.some.inj h)]

theorem entries_eq_of_fingerprint_eq (deeds : ℕ → Deed) {m n : ℕ} (hmn : m ≤ n)
    (h : (history deeds m).fingerprint = (history deeds n).fingerprint) :
    (history deeds n).entries = (history deeds m).entries := by
  have hkept := wellKept_history deeds
  have hlength : (history deeds n).entries.length = (history deeds m).entries.length :=
    (congrArg Fingerprint.rowCount h).symm
  have hnewest : (newest (history deeds m).entries).map (·.toText) =
      (newest (history deeds n).entries).map (·.toText) := congrArg Fingerprint.newest h
  have hold : ∀ r ∈ (history deeds n).entries, ∃ q ∈ (history deeds m).entries, ¬ IsOlder q r := by
    intro r hr
    obtain ⟨e, he⟩ : ∃ e, e ∈ (history deeds m).entries :=
      List.length_pos_iff_exists_mem.mp (hlength ▸ List.length_pos_of_mem hr)
    obtain ⟨q, hq, hqnewest, -⟩ := newest_spec (hkept.all_good m) he
    obtain ⟨q', hq', hqnewest', hgreatest⟩ := newest_spec (hkept.all_good n) hr
    have hstamp : q.updatedAt = q'.updatedAt :=
      updatedAt_eq_of_toText_eq (hkept.all_good m q hq) (hkept.all_good n q' hq')
        (hqnewest ▸ hqnewest' ▸ hnewest)
    refine ⟨q, hq, fun hlt => hgreatest r hr ?_⟩
    rwa [IsOlder, ← hstamp]
  exact (numbered_history deeds n).eq_of_perm (numbered_history deeds m)
    (hkept.perm_of_length_eq hmn hlength hold)

/-- At any two moments of a history the fingerprints are the same just if the entries are, field by
field, and stores that answer with the same fingerprint answer with the same entries. -/
theorem fingerprint_identifies (deeds : ℕ → Deed) (m n : ℕ) :
    ((history deeds m).fingerprint = (history deeds n).fingerprint ↔
      (history deeds m).listed = (history deeds n).listed) ∧
    ∀ f, (history deeds m).fetchFingerprint.2 = .ok f →
      (history deeds n).fetchFingerprint.2 = .ok f →
      ∃ entries, (history deeds m).fetchEntries.2 = .ok entries ∧
        (history deeds n).fetchEntries.2 = .ok entries := by
  have hlisted (k : ℕ) : (history deeds k).listed = (history deeds k).entries :=
    (numbered_history deeds k).listed_eq
  have hentries (h : (history deeds m).fingerprint = (history deeds n).fingerprint) :
      (history deeds m).entries = (history deeds n).entries := by
    rcases Nat.le_total m n with hmn | hnm
    · exact (entries_eq_of_fingerprint_eq deeds hmn h).symm
    · exact entries_eq_of_fingerprint_eq deeds hnm h.symm
  refine ⟨⟨fun h => ?_, fun h => ?_⟩, fun f hm hn => ?_⟩
  · rw [hlisted, hlisted, hentries h]
  · rw [hlisted, hlisted] at h
    rw [fingerprint, fingerprint, h]
  · obtain ⟨hm, hfm⟩ := snd_call_eq_ok.mp hm
    obtain ⟨hn, hfn⟩ := snd_call_eq_ok.mp hn
    refine ⟨_, snd_call_eq_ok.mpr ⟨hm, rfl⟩, snd_call_eq_ok.mpr ⟨hn, ?_⟩⟩
    rw [hlisted, hlisted, hentries (hfm.trans hfn.symm)]

section

/-- A third entry comes and goes, and a change misses. -/
def comeAndGone : ℕ → Deed
  | 0 => .insert "a@x.com" false true
  | 1 => .insert "spam.*" true false
  | 2 => .insert "b@x.com" false true
  | 3 => .remove 3
  | 4 => .setTestMode 7 false
  | _ => .fetchEntries

theorem fingerprint_identifies_of_comeAndGone :
    (history comeAndGone 2).fetchFingerprint.2 = .ok ⟨2, some "1970-01-01 00:00:02"⟩ ∧
    (history comeAndGone 6).fetchFingerprint.2 = .ok ⟨2, some "1970-01-01 00:00:02"⟩ ∧
    ∃ entries, (history comeAndGone 2).fetchEntries.2 = .ok entries ∧
      (history comeAndGone 6).fetchEntries.2 = .ok entries := by
  have hbefore : (history comeAndGone 2).fetchFingerprint.2 =
      .ok ⟨2, some "1970-01-01 00:00:02"⟩ := by decide +kernel
  have hafter : (history comeAndGone 6).fetchFingerprint.2 =
      .ok ⟨2, some "1970-01-01 00:00:02"⟩ := by decide +kernel
  exact ⟨hbefore, hafter, (fingerprint_identifies comeAndGone 2 6).2 _ hbefore hafter⟩

end

end BlocklistSync.MemoryStore
