import BlocklistSync.Proofs.Trigger.Marks

/-! How the flag is made: a channel with room for one request, into which anyone may put one at any
moment, and a wait that takes them out again one by one. However these moments fall, a request that
comes just as the timer runs down or while the channel is emptied included, the wait sees what the
flag would have said. -/
namespace BlocklistSync

/-- How far a wait is. -/
inductive Slot.Phase
  | away
  | waiting (began : ℕ) (interval : Duration)
  /-- The wait has been ended, and the channel is emptied before it returns. -/
  | draining (began : ℕ) (interval : Duration) (reason : WakeReason)

structure Slot where
  now : ℕ
  queued : ℕ
  phase : Slot.Phase

namespace Slot

variable [Timer]

def capacity : ℕ := 1

/-- What may happen to the channel, one thing at a time and in any order, with the marks that it
leaves. The clock may be late in every way. -/
inductive Course : List Mark → Slot → Prop
  | start : Course [] ⟨0, 0, .away⟩
  | pass {marks : List Mark} {s : Slot} (h : Course marks s)
    (ms : ℕ) : Course marks { s with now := s.now + ms }
  | notify {marks : List Mark} {s : Slot} (h : Course marks s) :
    Course (marks ++ [.notify s.now]) { s with queued := min (s.queued + 1) capacity }
  | wait {marks : List Mark} {now queued : ℕ} (h : Course marks ⟨now, queued, .away⟩)
    (interval : Duration) :
    Course marks ⟨now, queued, .waiting now interval⟩
  | take {marks : List Mark} {now queued began : ℕ} {interval : Duration}
    (h : Course marks ⟨now, queued + 1, .waiting began interval⟩) :
    Course marks ⟨now, queued, .draining began interval .notified⟩
  /-- The timer may win even if a request has just come. -/
  | expire {marks : List Mark} {now queued began : ℕ} {interval : Duration}
    (h : Course marks ⟨now, queued, .waiting began interval⟩)
    (hd : began + Clock.millis interval ≤ now) :
    Course marks ⟨now, queued, .draining began interval .timer⟩
  | drain {marks : List Mark} {now queued began : ℕ} {interval : Duration} {reason : WakeReason}
    (h : Course marks ⟨now, queued + 1, .draining began interval reason⟩) :
    Course marks ⟨now, queued, .draining began interval .notified⟩
  | leave {marks : List Mark} {now began : ℕ} {interval : Duration} {reason : WakeReason}
    (h : Course marks ⟨now, 0, .draining began interval reason⟩) :
    Course (marks ++ [.wake reason interval began now]) ⟨now, 0, .away⟩
  /-- Whoever waits for something else as well may drop the wait. -/
  | abandon {marks : List Mark} {now queued began : ℕ} {interval : Duration}
    (h : Course marks ⟨now, queued, .waiting began interval⟩) : Course marks ⟨now, queued, .away⟩

/-- The flag that the channel stands for: up if there is a request in it or one was taken out by
this wait. -/
def trigger (s : Slot) : Trigger := ⟨0 < s.queued || s.phase matches .draining _ _ .notified⟩

/-- A wait that is emptying the channel was ended by a request, or by the timer after its time. -/
def IsSound (s : Slot) : Prop :=
  ∀ began interval reason, s.phase = .draining began interval reason →
    reason = .notified ∨ (reason = .timer ∧ began + Clock.millis interval ≤ s.now)

variable {marks : List Mark} {s : Slot}

theorem Course.isSound (h : Course marks s) : s.IsSound := by
  induction h with
  | start | wait | leave | abandon => exact nofun
  | pass _ ms ih =>
    exact fun began interval reason hp =>
      (ih began interval reason hp).imp_right fun ⟨hr, hd⟩ =>
        ⟨hr, Nat.le_trans hd (Nat.le_add_right ..)⟩
  | notify _ ih => exact ih
  | take | drain =>
    rintro _ _ _ ⟨⟩
    exact .inl rfl
  | expire _ hd =>
    rintro _ _ _ ⟨⟩
    exact .inr ⟨rfl, hd⟩

/-- The channel does what the flag does, and its wait ends as one on the flag would. -/
theorem Course.shows (h : Course marks s) : Trigger.Shows marks s.trigger := by
  induction h with
  | start => exact .idle
  | pass _ _ ih | wait _ _ ih | expire _ _ ih | abandon _ ih => exact ih
  | @notify marks s h ih =>
    have hnotify : trigger { s with queued := min (s.queued + 1) capacity } = s.trigger.notify := by
      simp [trigger, Trigger.notify, capacity]
    exact hnotify ▸ ih.notify s.now
  | @take marks now queued began interval _ ih =>
    have hsame : trigger ⟨now, queued, .draining began interval .notified⟩ =
        trigger ⟨now, queued + 1, .waiting began interval⟩ := by simp [trigger]
    exact hsame ▸ ih
  | @drain marks now queued began interval reason _ ih =>
    have hsame : trigger ⟨now, queued, .draining began interval .notified⟩ =
        trigger ⟨now, queued + 1, .draining began interval reason⟩ := by simp [trigger]
    exact hsame ▸ ih
  | @leave marks now began interval reason h ih =>
    rcases h.isSound _ _ _ rfl with rfl | ⟨rfl, hd⟩
    · exact ih.wake interval fun hf => by simp [trigger] at hf
    · exact ih.wake interval fun _ => hd

end Slot

end BlocklistSync
