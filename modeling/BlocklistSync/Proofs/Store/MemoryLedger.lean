import BlocklistSync.Proofs.Store.MemoryHistory
import Mathlib.Data.Nat.Count

/-! What the store in memory owes to the deeds done so far, told from the deeds alone: the ids it
has handed out, the entries it holds, with their modes and stamps, and the calls that it refuses.
Ids and times are counted without end. -/
namespace BlocklistSync.MemoryStore
open Calendar (Moment)

namespace Deed

def isInsertion : Deed → Bool
  | .insert .. => true
  | _ => false

def isTimed : Deed → Bool
  | .insert .. | .setTestMode .. => true
  | _ => false

def isCall : Deed → Bool
  | .connect | .fetchEntries | .fetchFingerprint => true
  | _ => false

end Deed

section Counts

theorem nextId_perform (s : MemoryStore) (d : Deed) :
    (s.perform d).nextId = s.nextId + if d.isInsertion then 1 else 0 := by
  cases d with
  | insert => rfl
  | setTestMode | remove | failNext => exact (Int.add_zero _).symm
  | connect | fetchEntries | fetchFingerprint =>
    rw [perform_call s (by simp)]
    exact (Int.add_zero _).symm

theorem clock_perform (s : MemoryStore) (d : Deed) :
    (s.perform d).clock = s.clock + if d.isTimed then 1 else 0 := by
  cases d with
  | insert | setTestMode | remove | failNext => rfl
  | connect | fetchEntries | fetchFingerprint =>
    rw [perform_call s (by simp)]
    rfl

theorem calls_perform (s : MemoryStore) (d : Deed) :
    (s.perform d).calls = s.calls + if d.isCall then 1 else 0 := by
  cases d with
  | insert | setTestMode | remove | failNext => rfl
  | connect | fetchEntries | fetchFingerprint =>
    rw [perform_call s (by simp)]
    rfl

theorem outages_perform (s : MemoryStore) {d : Deed} (hd : ∀ count, d ≠ .failNext count) :
    (s.perform d).outages = s.outages - if d.isCall then 1 else 0 := by
  cases d with
  | insert | setTestMode | remove => rfl
  | failNext count => exact absurd rfl (hd count)
  | connect | fetchEntries | fetchFingerprint =>
    rw [perform_call s (by simp)]
    rfl

variable (deeds : ℕ → Deed)

def insertions (n : ℕ) : ℕ := Nat.count (fun k => (deeds k).isInsertion) n

def time (n : ℕ) : ℕ := Nat.count (fun k => (deeds k).isTimed) n

def callsMade (n : ℕ) : ℕ := Nat.count (fun k => (deeds k).isCall) n

theorem callsMade_succ (n : ℕ) :
    callsMade deeds (n + 1) = callsMade deeds n + if (deeds n).isCall then 1 else 0 :=
  Nat.count_succ ..

theorem nextId_history (n : ℕ) : (history deeds n).nextId = insertions deeds n + 1 := by
  induction n with
  | zero => rfl
  | succ n ih =>
    rw [history, nextId_perform, ih, insertions, insertions, Nat.count_succ]
    split <;> omega

theorem clock_history (n : ℕ) : (history deeds n).clock = time deeds n := by
  induction n with
  | zero => rfl
  | succ n ih => rw [history, clock_perform, ih, time, time, Nat.count_succ]

theorem calls_history (n : ℕ) : (history deeds n).calls = callsMade deeds n := by
  induction n with
  | zero => rfl
  | succ n ih => rw [history, calls_perform, ih, callsMade_succ]

end Counts

/-- What holds of all deeds since deed `m` goes on to hold if it holds of the next. -/
theorem forall_since_succ {p : ℕ → Prop} {m n : ℕ} (h : ∀ j, m < j → j < n → p j) (hn : p n) (j : ℕ)
    (hm : m < j) (hj : j < n + 1) : p j := by
  rcases Nat.lt_succ_iff_lt_or_eq.mp hj with hj | rfl
  · exact h j hm hj
  · exact hn

/-- The entry as the first `n` deeds make it: inserted by deed `m`, and last written by deed `k`, by
which its mode was set unless it is the same deed. -/
structure Recorded (deeds : ℕ → Deed) (n : ℕ) (e : Entry) (m k : ℕ) : Prop where
  le : m ≤ k
  lt : k < n
  inserted : ∃ testMode, deeds m = .insert e.pattern e.isRegex testMode ∧
    (k = m → e.testMode = testMode)
  id : e.id = insertions deeds m + 1
  set : m < k → deeds k = .setTestMode e.id e.testMode
  last : ∀ j, k < j → j < n → ∀ testMode, deeds j ≠ .setTestMode e.id testMode
  kept : ∀ j, m < j → j < n → deeds j ≠ .remove e.id
  updatedAt : e.updatedAt = some (stamp (time deeds (k + 1)))

section Entries
variable {deeds : ℕ → Deed} {n n' m m' k k' : ℕ} {e e' : Entry}

namespace Recorded

theorem succ (h : Recorded deeds n e m k) (hset : ∀ testMode, deeds n ≠ .setTestMode e.id testMode)
    (hremove : deeds n ≠ .remove e.id) : Recorded deeds (n + 1) e m k where
  le := h.le
  lt := Nat.lt_succ_of_lt h.lt
  inserted := h.inserted
  id := h.id
  set := h.set
  last := forall_since_succ h.last hset
  kept := forall_since_succ h.kept hremove
  updatedAt := h.updatedAt

theorem isInsertion (h : Recorded deeds n e m k) : (deeds m).isInsertion := by
  obtain ⟨testMode, hm, -⟩ := h.inserted
  rw [hm]
  rfl

theorem isTimed (h : Recorded deeds n e m k) : (deeds k).isTimed := by
  rcases Nat.eq_or_lt_of_le h.le with rfl | hlt
  · obtain ⟨testMode, hm, -⟩ := h.inserted
    rw [hm]
    rfl
  · rw [h.set hlt]
    rfl

theorem inserted_eq (h : Recorded deeds n e m k) (h' : Recorded deeds n' e' m' k')
    (hid : e.id = e'.id) : m = m' := by
  have hcount : insertions deeds m = insertions deeds m' := by
    have := h.id.symm.trans (hid.trans h'.id)
    omega
  exact Nat.count_injective h.isInsertion h'.isInsertion hcount

/-- What has been written later is not known earlier. -/
theorem le_of_le (h : Recorded deeds n e m k) (h' : Recorded deeds n' e' m' k') (hid : e.id = e'.id)
    (hn : n ≤ n') :
    k ≤ k' := by
  by_contra hlt
  obtain rfl := h.inserted_eq h' hid
  have hset := h.set (Nat.lt_of_le_of_lt h'.le (Nat.lt_of_not_le hlt))
  exact h'.last k (Nat.lt_of_not_le hlt) (Nat.lt_of_lt_of_le h.lt hn) e.testMode (hid ▸ hset)

/-- An entry can be told from its id and from the deed that wrote it last. -/
theorem eq_of_id_eq (h : Recorded deeds n e m k) (h' : Recorded deeds n' e' m' k)
    (hid : e.id = e'.id) : e = e' := by
  obtain rfl := h.inserted_eq h' hid
  obtain ⟨testMode, hm, hmode⟩ := h.inserted
  obtain ⟨testMode', hm', hmode'⟩ := h'.inserted
  obtain ⟨hpattern, hregex, rfl⟩ := Deed.insert.inj (hm.symm.trans hm')
  have htest : e.testMode = e'.testMode := by
    rcases Nat.eq_or_lt_of_le h.le with rfl | hlt
    · rw [hmode rfl, hmode' rfl]
    · exact (Deed.setTestMode.inj ((h.set hlt).symm.trans (h'.set hlt))).2
  cases e
  cases e'
  simp only [Entry.mk.injEq]
  exact ⟨hid, hpattern, hregex, htest, h.updatedAt.trans h'.updatedAt.symm⟩

/-- No two deeds write at the same time. -/
theorem eq_of_updatedAt_eq (h : Recorded deeds n e m k) (h' : Recorded deeds n' e' m' k')
    (hstamp : e.updatedAt = e'.updatedAt) : e = e' := by
  have htime : time deeds k = time deeds k' := by
    have := stamp_injective (Option.some.inj (h.updatedAt.symm.trans (hstamp.trans h'.updatedAt)))
    simp only [time, Nat.count_succ, h.isTimed, h'.isTimed] at this ⊢
    omega
  obtain rfl : k = k' := Nat.count_injective h.isTimed h'.isTimed htime
  refine h.eq_of_id_eq h' ?_
  rcases Nat.eq_or_lt_of_le h.le with rfl | hlt
  · -- The deed is an insertion, and so the one of the other entry.
    obtain rfl : m' = m := by
      by_contra hne
      obtain ⟨testMode, hm, -⟩ := h.inserted
      exact absurd (hm.symm.trans (h'.set (Nat.lt_of_le_of_ne h'.le hne))) nofun
    exact h.id.trans h'.id.symm
  · have hset := h.set hlt
    rcases Nat.eq_or_lt_of_le h'.le with rfl | hlt'
    · obtain ⟨testMode, hm, -⟩ := h'.inserted
      exact absurd (hm.symm.trans hset) nofun
    · exact (Deed.setTestMode.inj (hset.symm.trans (h'.set hlt'))).1

end Recorded

theorem recorded_of_mem (he : e ∈ (history deeds n).entries) : ∃ m k, Recorded deeds n e m k := by
  -- A deed has either written the entry or leaves alone what was recorded of it.
  induction n generalizing e with
  | zero => simp [history, empty] at he
  | succ n ih =>
    rw [history] at he
    cases hd : deeds n with
    | insert pattern isRegex testMode =>
      rw [hd] at he
      rcases List.mem_append.mp he with he | he
      · obtain ⟨m, k, h⟩ := ih he
        exact ⟨m, k, h.succ (by simp [hd]) (by simp [hd])⟩
      · rw [List.mem_singleton.mp he]
        refine ⟨n, n, Nat.le_refl _, Nat.lt_succ_self _, ⟨testMode, hd, fun _ => rfl⟩,
          nextId_history deeds n, fun hlt => absurd hlt (Nat.lt_irrefl _), fun j hj hj' => by
            omega, fun j hj hj' => by omega, ?_⟩
        rw [← clock_history, history, hd]
        rfl
    | setTestMode id testMode =>
      rw [hd] at he
      obtain ⟨e, hmem, rfl⟩ := List.mem_map.mp he
      obtain ⟨m, k, h⟩ := ih hmem
      split
      · next hid =>
        refine ⟨m, n, Nat.le_trans h.le (Nat.le_of_lt h.lt), Nat.lt_succ_self _, ?_, h.id,
          fun _ => ?_, fun j hj hj' => by omega, forall_since_succ h.kept (by simp [hd]), ?_⟩
        · obtain ⟨testMode', hm, -⟩ := h.inserted
          exact ⟨testMode', hm, fun heq => absurd (Nat.lt_of_le_of_lt h.le h.lt) (by omega)⟩
        · rw [hd, hid]
        · rw [← clock_history, history, hd]
          rfl
      · next hid => exact ⟨m, k, h.succ (by simp [hd, Ne.symm hid]) (by simp [hd])⟩
    | remove id =>
      rw [hd] at he
      obtain ⟨hmem, hid⟩ := List.mem_filter.mp he
      obtain ⟨m, k, h⟩ := ih hmem
      have hne : id ≠ e.id := by
        rintro rfl
        simp at hid
      exact ⟨m, k, h.succ (by simp [hd]) (by simp [hd, hne])⟩
    | failNext =>
      rw [hd] at he
      obtain ⟨m, k, h⟩ := ih he
      exact ⟨m, k, h.succ (by simp [hd]) (by simp [hd])⟩
    | connect | fetchEntries | fetchFingerprint =>
      rw [hd, perform_call _ (by simp)] at he
      obtain ⟨m, k, h⟩ := ih he
      exact ⟨m, k, h.succ (by simp [hd]) (by simp [hd])⟩

/-- An entry stays from its insertion to its removal, whatever is changed or refused meanwhile. -/
theorem exists_mem_of_inserted {pattern : String} {isRegex testMode : Bool}
    (hm : deeds m = .insert pattern isRegex testMode) (hlt : m < n)
    (hkept : ∀ j, m < j → j < n → deeds j ≠ .remove (insertions deeds m + 1)) :
    ∃ e ∈ (history deeds n).entries, e.id = insertions deeds m + 1 := by
  induction n, Nat.succ_le_of_lt hlt using Nat.le_induction with
  | base =>
    rw [history, hm]
    exact ⟨_, List.mem_append_right _ (List.mem_singleton_self _), nextId_history deeds m⟩
  | succ n hmn ih =>
    obtain ⟨e, he, hid⟩ := ih hmn fun j hj hj' => hkept j hj (Nat.lt_succ_of_lt hj')
    rw [history]
    cases hd : deeds n with
    | insert => exact ⟨e, List.mem_append_left _ he, hid⟩
    | setTestMode id testMode =>
      refine ⟨_, List.mem_map_of_mem he, ?_⟩
      split <;> exact hid
    | remove id =>
      have hne : e.id ≠ id := by
        rintro rfl
        exact hkept n hmn (Nat.lt_succ_self _) (hid ▸ hd)
      exact ⟨e, List.mem_filter.mpr ⟨he, by simpa using hne⟩, hid⟩
    | failNext => exact ⟨e, he, hid⟩
    | connect | fetchEntries | fetchFingerprint =>
      rw [perform_call _ (by simp)]
      exact ⟨e, he, hid⟩

theorem mem_entries_iff : e ∈ (history deeds n).entries ↔ ∃ m k, Recorded deeds n e m k := by
  refine ⟨recorded_of_mem, fun ⟨m, k, h⟩ => ?_⟩
  obtain ⟨testMode, hm, -⟩ := h.inserted
  obtain ⟨e', he', hid⟩ := exists_mem_of_inserted hm (Nat.lt_of_le_of_lt h.le h.lt) (h.id ▸ h.kept)
  obtain ⟨m', k', h'⟩ := recorded_of_mem he'
  have hids : e.id = e'.id := h.id.trans hid.symm
  obtain rfl := Nat.le_antisymm (h.le_of_le h' hids (Nat.le_refl n))
    (h'.le_of_le h hids.symm (Nat.le_refl n))
  rwa [h.eq_of_id_eq h' hids]

end Entries

section Outages
variable {deeds : ℕ → Deed} {m m' n count count' : ℕ}

/-- Of the first `n` deeds, deed `m` is the last that announced an outage, one for so many calls. -/
structure Announced (deeds : ℕ → Deed) (n m count : ℕ) : Prop where
  lt : m < n
  announced : deeds m = .failNext count
  last : ∀ j, m < j → j < n → ∀ count', deeds j ≠ .failNext count'

/-- Fewer calls have been made since the last outage was announced than it was announced for. -/
def IsDown (deeds : ℕ → Deed) (n : ℕ) : Prop :=
  ∃ m count, Announced deeds n m count ∧ callsMade deeds n < callsMade deeds m + count

theorem Announced.succ (h : Announced deeds n m count) (hn : ∀ count', deeds n ≠ .failNext count') :
    Announced deeds (n + 1) m count where
  lt := Nat.lt_succ_of_lt h.lt
  announced := h.announced
  last := forall_since_succ h.last hn

theorem Announced.unique (h : Announced deeds n m count) (h' : Announced deeds n m' count') :
    m = m' ∧ count = count' := by
  have hm : m = m' := by
    rcases Nat.lt_trichotomy m m' with hlt | heq | hlt
    · exact absurd h'.announced (h.last m' hlt h'.lt count')
    · exact heq
    · exact absurd h.announced (h'.last m hlt h.lt count)
  subst hm
  exact ⟨rfl, Deed.failNext.inj (h.announced.symm.trans h'.announced)⟩

/-- What is left of the outage that was announced last. -/
theorem outages_history (deeds : ℕ → Deed) (n : ℕ) :
    ((∀ j < n, ∀ count, deeds j ≠ .failNext count) ∧ (history deeds n).outages = 0) ∨
    ∃ m count, Announced deeds n m count ∧
      (history deeds n).outages = count - (callsMade deeds n - callsMade deeds m) := by
  induction n with
  | zero => exact .inl ⟨by simp, rfl⟩
  | succ n ih =>
    by_cases hfail : ∃ count, deeds n = .failNext count
    · obtain ⟨count, hd⟩ := hfail
      have hcalls : callsMade deeds (n + 1) = callsMade deeds n := by
        rw [callsMade_succ, hd]
        rfl
      refine .inr ⟨n, count, ⟨Nat.lt_succ_self n, hd, fun j hj hj' => by omega⟩, ?_⟩
      rw [history, hd, hcalls, Nat.sub_self]
      rfl
    · rw [not_exists] at hfail
      have hstep := outages_perform (history deeds n) hfail
      rcases ih with ⟨hnone, hzero⟩ | ⟨m, count, ha, hleft⟩
      · refine .inl ⟨fun j hj => ?_, by rw [history, hstep, hzero, Nat.zero_sub]⟩
        rcases Nat.lt_succ_iff_lt_or_eq.mp hj with hj | rfl
        · exact hnone j hj
        · exact hfail
      · refine .inr ⟨m, count, ha.succ hfail, ?_⟩
        have hle : callsMade deeds m ≤ callsMade deeds n :=
          Nat.count_monotone _ (Nat.le_of_lt ha.lt)
        rw [history, hstep, hleft, callsMade_succ]
        split <;> omega

theorem outages_pos_iff : 0 < (history deeds n).outages ↔ IsDown deeds n := by
  rcases outages_history deeds n with ⟨hnone, hzero⟩ | ⟨m, count, ha, hleft⟩
  · refine iff_of_false (by omega) fun ⟨m, count, ha, _⟩ => hnone m ha.lt count ha.announced
  · have hle : callsMade deeds m ≤ callsMade deeds n := Nat.count_monotone _ (Nat.le_of_lt ha.lt)
    constructor
    · intro hpos
      exact ⟨m, count, ha, by omega⟩
    · rintro ⟨m', count', ha', hlt⟩
      obtain ⟨rfl, rfl⟩ := ha.unique ha'
      omega

theorem snd_call_of_outages_pos {α : Type} {s : MemoryStore} (h : 0 < s.outages) (answer : α) :
    (s.call answer).2 = .error (.storeUnavailable "injected outage") := by
  simp [call, Nat.ne_of_gt h]

end Outages

/-- At any moment of any history the next id is one more than there have been insertions, and all
calls have been counted. While an announced outage lasts every call is refused, and otherwise each
is answered. The entries in the answer are those that have been inserted and not removed since, in
the order of their ids and in the mode that was set last, even if it was set during an outage. The
stamp of an entry never goes back, and no other entry ever bears it. -/
theorem answers_from_deeds (deeds : ℕ → Deed) (n : ℕ) :
    (∀ pattern isRegex testMode,
      ((history deeds n).insert pattern isRegex testMode).2 = insertions deeds n + 1) ∧
    (history deeds n).calls = callsMade deeds n ∧
    (IsDown deeds n →
      (history deeds n).connect.2 = .error (.storeUnavailable "injected outage") ∧
      (history deeds n).fetchEntries.2 = .error (.storeUnavailable "injected outage") ∧
      (history deeds n).fetchFingerprint.2 = .error (.storeUnavailable "injected outage")) ∧
    (¬ IsDown deeds n →
      (history deeds n).connect.2 = .ok () ∧
      (history deeds n).fetchEntries.2 = .ok (history deeds n).listed ∧
      (history deeds n).fetchFingerprint.2 = .ok (history deeds n).fingerprint) ∧
    (history deeds n).listed.Pairwise (fun a b => a.id < b.id) ∧
    (∀ e, e ∈ (history deeds n).listed ↔ ∃ m k, Recorded deeds n e m k) ∧
    ∀ n', ∀ e ∈ (history deeds n).listed, ∀ e' ∈ (history deeds n').listed,
      (e.updatedAt = e'.updatedAt → e = e') ∧
      (n ≤ n' → e.id = e'.id → ∃ before after, e.updatedAt = some before ∧
        e'.updatedAt = some after ∧
        compare before after ≠ .gt) := by
  have hlisted (n : ℕ) : (history deeds n).listed = (history deeds n).entries :=
    (numbered_history deeds n).listed_eq
  have hserved (hdown : ¬ IsDown deeds n) {α : Type} (answer : α) :
      ((history deeds n).call answer).2 = .ok answer :=
    snd_call_eq_ok.mpr ⟨Nat.eq_zero_of_not_pos (mt outages_pos_iff.mp hdown), rfl⟩
  refine ⟨fun _ _ _ => nextId_history deeds n, calls_history deeds n, fun hdown => ?_,
    fun hdown => ?_, ?_, fun e => ?_, fun n' e he e' he' => ?_⟩
  · have hpos := outages_pos_iff.mpr hdown
    exact ⟨snd_call_of_outages_pos hpos _, snd_call_of_outages_pos hpos _,
      snd_call_of_outages_pos hpos _⟩
  · exact ⟨hserved hdown _, hserved hdown _, hserved hdown _⟩
  · rw [hlisted]
    exact (numbered_history deeds n).ascending
  · rw [hlisted, mem_entries_iff]
  · rw [hlisted, mem_entries_iff] at he he'
    obtain ⟨m, k, h⟩ := he
    obtain ⟨m', k', h'⟩ := he'
    refine ⟨h.eq_of_updatedAt_eq h', fun hn hid => ⟨_, _, h.updatedAt, h'.updatedAt, ?_⟩⟩
    have hle : time deeds (k + 1) ≤ time deeds (k' + 1) :=
      Nat.count_monotone _ (Nat.succ_le_succ (h.le_of_le h' hid hn))
    exact mt compare_stamp_eq_gt.mp (Nat.not_lt.mpr hle)

section Example

/-- An entry is changed during an outage that is cut short by a new announcement, and another one is
replaced. -/
def changedUnseen : ℕ → Deed
  | 0 => .insert "a@x.com" false true
  | 1 => .failNext 5
  | 2 => .connect
  | 3 => .setTestMode 1 false
  | 4 => .insert "b@x.com" false true
  | 5 => .failNext 1
  | 6 => .remove 2
  | 7 => .fetchEntries
  | 8 => .insert "spam.*" true true
  | _ => .fetchEntries

theorem answers_from_deeds_of_changedUnseen :
    IsDown changedUnseen 7 ∧ (history changedUnseen 7).fetchEntries.2 =
      .error (.storeUnavailable "injected outage") ∧
    ((history changedUnseen 8).insert "spam.*" true true).2 = 3 ∧
    ¬ IsDown changedUnseen 9 ∧ (history changedUnseen 9).calls = 2 ∧
    (history changedUnseen 9).fetchEntries.2 =
      .ok [⟨1, "a@x.com", false, false, some (stamp 2)⟩,
        ⟨3, "spam.*", true, true, some (stamp 4)⟩] := by
  have hdown : IsDown changedUnseen 7 := outages_pos_iff.mp (by decide +kernel)
  have hup : ¬ IsDown changedUnseen 9 := mt outages_pos_iff.mpr (by decide +kernel)
  obtain ⟨-, -, hrefused, -⟩ := answers_from_deeds changedUnseen 7
  obtain ⟨hid, -⟩ := answers_from_deeds changedUnseen 8
  obtain ⟨-, hcalls, -, hserved, -⟩ := answers_from_deeds changedUnseen 9
  refine ⟨hdown, (hrefused hdown).2.1, hid _ _ _, hup, hcalls, (hserved hup).2.1.trans ?_⟩
  rw [(numbered_history changedUnseen 9).listed_eq]
  decide +kernel

end Example

end BlocklistSync.MemoryStore
