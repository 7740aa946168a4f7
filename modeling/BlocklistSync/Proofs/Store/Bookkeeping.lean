import Mathlib.Data.List.Perm.Subperm
import Mathlib.Data.Nat.Init
import Mathlib.Order.Basic

/-! Rows in the hands of writers who stamp whatever they touch, each stamp later than all before it.
A row that bears no later stamp than those of an earlier moment has not been touched since, so that
rows cannot come and go unnoticed. -/
namespace BlocklistSync

variable {α : Type}

/-- What a writer may do in one go, whatever the order is that the rows are kept in: rows that he
touches become fresh. -/
inductive Statement (fresh : α → Prop) (rows : List α) : List α → Prop
  | insert {new rows' : List α} (hf : ∀ r ∈ new, fresh r) (hp : rows'.Perm (new ++ rows)) :
    Statement fresh rows rows'
  | update {touched rows' : List α} (hu : List.Forall₂ (fun r r' => r' = r ∨ fresh r') rows touched)
      (hp : rows'.Perm touched) : Statement fresh rows rows'
  | delete {rows' : List α} (hd : rows'.Subperm rows) : Statement fresh rows rows'

namespace Statement

variable {fresh : α → Prop} {rows rows' : List α}

theorem refl (fresh : α → Prop) (rows : List α) : Statement fresh rows rows :=
  .delete (List.Subperm.refl rows)

theorem mono {fresh' : α → Prop} (hm : ∀ r, fresh r → fresh' r) (hs : Statement fresh rows rows') :
    Statement fresh' rows rows' := by
  cases hs with
  | insert hf hp => exact .insert (fun r hr => hm r (hf r hr)) hp
  | update hu hp => exact .update (hu.imp fun r r' h => h.imp_right (hm r')) hp
  | delete hd => exact .delete hd

theorem modify {f : α → α} (hf : ∀ r ∈ rows, fresh (f r)) (i : ℕ) :
    Statement fresh rows (rows.modify i f) := by
  refine .update ?_ (List.Perm.refl _)
  induction rows generalizing i with
  | nil => rw [List.modify_nil]; exact .nil
  | cons r rows ih =>
    obtain ⟨hr, hrows⟩ := List.forall_mem_cons.mp hf
    cases i with
    | zero => exact .cons (.inr hr) (List.forall₂_same.mpr fun _ _ => .inl rfl)
    | succ i => exact .cons (.inl rfl) (ih hrows i)

theorem forall_mem {p : α → Prop} (hs : Statement fresh rows rows') (hf : ∀ r, fresh r → p r)
    (hp : ∀ r ∈ rows, p r) :
    ∀ r ∈ rows', p r := by
  cases hs with
  | insert hnew hperm =>
    intro r hr
    rcases List.mem_append.mp (hperm.mem_iff.mp hr) with h | h
    · exact hf r (hnew r h)
    · exact hp r h
  | @update touched _ hu hperm =>
    have htouched : ∀ r ∈ touched, p r := by
      clear hperm
      induction hu with
      | nil => simp
      | @cons r r' rows touched hr _ ih =>
        rw [List.forall_mem_cons] at hp ⊢
        refine ⟨?_, ih hp.2⟩
        rcases hr with rfl | hr
        · exact hp.1
        · exact hf r' hr
    exact fun r hr => htouched r (hperm.mem_iff.mp hr)
  | delete hd => exact fun r hr => hp r (hd.subset hr)

theorem subperm {isOld : α → Bool} (hs : Statement fresh rows rows')
    (ho : ∀ r, fresh r → isOld r = false) :
    (rows'.filter isOld).Subperm (rows.filter isOld) := by
  cases hs with
  | @insert new _ hf hp =>
    have hnew : new.filter isOld = [] := List.filter_eq_nil_iff.mpr fun r hr => by
      simp [ho r (hf r hr)]
    have hperm := hp.filter isOld
    rw [List.filter_append, hnew, List.nil_append] at hperm
    exact hperm.subperm
  | @update touched _ hu hp =>
    have htouched : (touched.filter isOld).Sublist (rows.filter isOld) := by
      clear hp
      induction hu with
      | nil => exact List.Sublist.refl _
      | @cons r r' rows touched hr _ ih =>
        rcases hr with rfl | hr
        · rw [List.filter_cons, List.filter_cons]
          split
          · exact ih.cons_cons _
          · exact ih
        · rw [List.filter_cons_of_neg (by simp [ho r' hr])]
          exact ih.trans (List.Sublist.filter _ (List.sublist_cons_self ..))
    exact (hp.filter isOld).subperm.trans htouched.subperm
  | delete hd => exact hd.filter isOld

end Statement

/-- The rows from moment to moment, if whoever touches a row makes it a good one, later than every
row that there has been. -/
structure WellKept (good : α → Prop) (older : α → α → Prop) (rows : ℕ → List α) : Prop where
  start : ∀ r ∈ rows 0, good r
  statement (n : ℕ) :
    Statement (fun r => good r ∧ ∀ k ≤ n, ∀ q ∈ rows k, older q r) (rows n) (rows (n + 1))

namespace WellKept

variable {good : α → Prop} {older : α → α → Prop} {rows : ℕ → List α}

theorem all_good (h : WellKept good older rows) (n : ℕ) : ∀ r ∈ rows n, good r := by
  induction n with
  | zero => exact h.start
  | succ n ih => exact (h.statement n).forall_mem (fun r hr => hr.1) ih

/-- Rows that are not later than all that there had been at some moment were there at that
moment. -/
theorem subperm_of_le (h : WellKept good older rows) {isOld : α → Bool} {m n : ℕ}
    (ho : ∀ r, (∀ q ∈ rows m, older q r) → isOld r = false) (hmn : m ≤ n) :
    ((rows n).filter isOld).Subperm ((rows m).filter isOld) := by
  induction n, hmn using Nat.le_induction with
  | base => exact List.Subperm.refl _
  | succ n hmn ih => exact ((h.statement n).subperm fun r hr => ho r (hr.2 m hmn)).trans ih

/-- As many rows, none of them later than all of the earlier moment: then nothing has been
touched. -/
theorem perm_of_length_eq (h : WellKept good older rows) {m n : ℕ} (hmn : m ≤ n)
    (hlength : (rows n).length = (rows m).length) (hold : ∀ r ∈ rows n, ∃ q ∈ rows m, ¬ older q r) :
    (rows n).Perm (rows m) := by
  classical
  let isOld (r : α) : Bool := decide (∃ q ∈ rows m, ¬ older q r)
  have hsub : ((rows n).filter isOld).Subperm ((rows m).filter isOld) :=
    h.subperm_of_le (fun r hr => by simpa [isOld] using hr) hmn
  have hkeep : (rows n).filter isOld = rows n :=
    List.filter_eq_self.mpr fun r hr => decide_eq_true (hold r hr)
  rw [hkeep] at hsub
  exact (hsub.trans List.filter_sublist.subperm).perm_of_length_le (Nat.le_of_eq hlength.symm)

end WellKept

end BlocklistSync
