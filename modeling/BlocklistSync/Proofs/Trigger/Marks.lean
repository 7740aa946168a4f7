import BlocklistSync.Trigger
import Mathlib.Data.Nat.Notation

/-! What is seen of a trigger from outside: requests that are made, and waits that end. The flag is
all that the trigger keeps of them, and it is enough to answer every request by one wake and by one
only. -/
namespace BlocklistSync

inductive Mark
  | notify (time : ℕ)
  /-- A wait of `interval` at most is over. -/
  | wake (reason : WakeReason) (interval : Duration) (began ended : ℕ)
  /-- A cycle has asked for the fingerprint. -/
  | query (reason : WakeReason) (time : ℕ)
  deriving DecidableEq

/-- What there is to know after some marks. -/
structure Account where
  /-- The times of the requests that were made since the last wake. -/
  requests : List ℕ
  /-- The reason of the last wake. -/
  reason : WakeReason
  /-- The fingerprint has been asked for since the last wake. -/
  hasQueried : Bool

namespace Account

def start : Account := ⟨[], .startup, false⟩

def add (a : Account) : Mark → Account
  | .notify time => { a with requests := a.requests ++ [time] }
  | .wake reason _ _ _ => ⟨[], reason, false⟩
  | .query _ _ => { a with hasQueried := true }

def of (marks : List Mark) : Account := marks.foldl add start

@[simp] theorem of_nil : of [] = start := rfl

@[simp] theorem of_concat (marks : List Mark) (m : Mark) :
    of (marks ++ [m]) = (of marks).add m := by
  rw [of, List.foldl_append]
  rfl

@[simp] theorem requests_notifies (marks : List Mark) (times : List ℕ) :
    (of (marks ++ times.map .notify)).requests = (of marks).requests ++ times := by
  induction times generalizing marks with
  | nil => simp
  | cons time times ih =>
    rw [List.map_cons, ← List.singleton_append, ← List.append_assoc, ih, of_concat, add,
      List.append_assoc, List.singleton_append]

theorem made_notify {marks : List Mark} {now : ℕ} (h : ∀ time ∈ (of marks).requests, time ≤ now) :
    ∀ time ∈ (of (marks ++ [.notify now])).requests, time ≤ now := by
  intro time hm
  rw [of_concat] at hm
  rcases List.mem_append.mp hm with hm | hm
  · exact h time hm
  · exact Nat.le_of_eq (List.mem_singleton.mp hm)

end Account

namespace Mark

/-- Every mark stands in `p` to the account of those before it. -/
def Throughout (p : Account → Mark → Prop) (marks : List Mark) : Prop :=
  ∀ before m after, marks = before ++ m :: after → p (.of before) m

variable {p : Account → Mark → Prop} {marks : List Mark}

theorem throughout_nil : Throughout p [] := fun _ _ _ h => by simp at h

theorem throughout_concat {m : Mark} :
    Throughout p (marks ++ [m]) ↔ Throughout p marks ∧ p (.of marks) m := by
  refine ⟨fun h => ⟨fun before m' after hm => ?_, h marks m [] rfl⟩,
    fun ⟨h, hp⟩ before m' after hm => ?_⟩
  · exact h before m' (after ++ [m]) (by rw [hm, List.append_assoc, List.cons_append])
  · rcases List.eq_nil_or_concat after with rfl | ⟨after, m'', rfl⟩
    · obtain ⟨hbefore, hmark⟩ := List.append_inj' hm rfl
      rwa [← hbefore, ← List.singleton_inj.mp hmark]
    · rw [List.concat_eq_append, ← List.cons_append, ← List.append_assoc] at hm
      exact h before m' after (List.append_inj' hm rfl).1

theorem throughout_notifies (hp : ∀ a time, p a (.notify time)) (h : Throughout p marks)
    (times : List ℕ) :
    Throughout p (marks ++ times.map .notify) := by
  induction times generalizing marks with
  | nil => simpa using h
  | cons time times ih =>
    rw [List.map_cons, ← List.singleton_append, ← List.append_assoc]
    exact ih (throughout_concat.mpr ⟨h, hp _ _⟩)

variable [Timer]

/-- A wait is ended by requests just if there are any, and else by the timer once its time is
over. -/
def Answers (a : Account) : Mark → Prop
  | wake reason interval began ended =>
    (reason = .notified ∧ a.requests ≠ []) ∨
      (reason = .timer ∧ a.requests = [] ∧ began + Clock.millis interval ≤ ended)
  | notify _ | query _ _ => True

/-- A wait ends with the first request, or at once if that was made before, and in time in any
case. -/
def IsPrompt (a : Account) : Mark → Prop
  | wake _ interval began ended =>
    began ≤ ended ∧ ended ≤ began + Clock.millis interval ∧ ∀ time ∈ a.requests.head?,
      ended = max began time
  | notify _ | query _ _ => True

def isNotify : Mark → Bool
  | notify _ => true
  | wake _ _ _ _ | query _ _ => false

def isNotifiedWake : Mark → Bool
  | wake reason _ _ _ => reason = .notified
  | notify _ | query _ _ => false

/-- No request is lost and none is answered twice. -/
structure Fair (marks : List Mark) : Prop where
  answers : Throughout Answers marks
  count : marks.countP isNotifiedWake ≤ marks.countP isNotify

end Mark

namespace Trigger

variable [Timer]

/-- The trigger after the marks, if each wake had from it what it says. -/
inductive Shows : List Mark → Trigger → Prop
  | idle : Shows [] idle
  | notify {marks : List Mark} {t : Trigger} (h : Shows marks t) (time : ℕ) :
    Shows (marks ++ [.notify time]) t.notify
  | wake {marks : List Mark} {t : Trigger} (h : Shows marks t) (interval : Duration)
    {began ended : ℕ} (ht : t.pending = false → began + Clock.millis interval ≤ ended) :
    Shows (marks ++ [.wake t.wake.2 interval began ended]) t.wake.1
  | query {marks : List Mark} {t : Trigger} (h : Shows marks t) (reason : WakeReason) (time : ℕ) :
    Shows (marks ++ [.query reason time]) t

namespace Shows

variable {marks : List Mark} {t : Trigger}

theorem notifies (h : Shows marks t) (times : List ℕ) :
    Shows (marks ++ times.map .notify) (if times = [] then t else t.notify) := by
  induction times generalizing marks t with
  | nil => simpa using h
  | cons time times ih =>
    have hrest := ih (h.notify time)
    rw [List.append_assoc, List.singleton_append] at hrest
    rw [if_neg (by simp), List.map_cons]
    cases times <;> exact hrest

theorem pending_iff (h : Shows marks t) : t.pending ↔ (Account.of marks).requests ≠ [] := by
  induction h with
  | idle | wake => simp [Trigger.idle, Trigger.wake, Account.start, Account.add]
  | notify => simp [Trigger.notify, Account.add]
  | query _ _ _ ih => simpa [Account.add] using ih

theorem answers (h : Shows marks t) : Mark.Throughout Mark.Answers marks := by
  induction h with
  | idle => exact Mark.throughout_nil
  | notify _ _ ih | query _ _ _ ih => exact Mark.throughout_concat.mpr ⟨ih, trivial⟩
  | @wake marks t h interval began ended ht ih =>
    refine Mark.throughout_concat.mpr ⟨ih, ?_⟩
    have hpending := h.pending_iff
    cases hp : t.pending with
    | true => exact .inl ⟨by rw [Trigger.wake, hp]; rfl, hpending.mp hp⟩
    | false => exact .inr ⟨by rw [Trigger.wake, hp]; rfl, by simpa [hp] using hpending, ht hp⟩

/-- The flag stands for one request that is still to be answered. -/
theorem count (h : Shows marks t) :
    marks.countP Mark.isNotifiedWake + t.pending.toNat ≤ marks.countP Mark.isNotify := by
  induction h with
  | idle => exact Nat.le_refl _
  | @notify marks t _ time ih =>
    rw [List.countP_append, List.countP_append]
    change _ + 0 + 1 ≤ _ + 1
    omega
  | @wake marks t _ interval began ended _ ih =>
    rw [List.countP_append, List.countP_append]
    cases hp : t.pending
    all_goals
      rw [hp] at ih
      rw [Trigger.wake, hp]
      exact ih
  | query _ _ _ ih =>
    rw [List.countP_append, List.countP_append]
    exact ih

theorem fair (h : Shows marks t) : Mark.Fair marks :=
  ⟨h.answers, Nat.le_trans (Nat.le_add_right ..) h.count⟩

end Shows

end Trigger

end BlocklistSync
