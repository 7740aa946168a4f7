import BlocklistSync.Proofs.Trigger.Marks

/-! A trigger on a clock that is never late: a wait is over with the first request, and with the
timer when there is none. -/
namespace BlocklistSync.Trigger.Timeline

/-- The requests that have come in between. -/
def arrivals (l l' : Timeline) : List ℕ := l.coming.filter (· ∉ l'.coming)

variable {l : Timeline} {marks : List Mark}

def first? (l : Timeline) : Option ℕ :=
  l.coming.foldl (fun first c => some (min c (first.getD c))) none

theorem foldl_min (best : ℕ) (times : List ℕ) :
    times.foldl (fun first c => some (min c (first.getD c))) (some best) =
      some (times.foldl min best) := by
  induction times generalizing best with
  | nil => rfl
  | cons c times ih =>
    rw [List.foldl_cons, List.foldl_cons, ← ih, Option.getD_some, Nat.min_comm]

theorem first?_eq (l : Timeline) : l.first? = l.coming.min? := by
  unfold first?
  cases l.coming with
  | nil => rfl
  | cons c times =>
    rw [List.foldl_cons, Option.getD_none, Nat.min_self]
    exact foldl_min c times

theorem arrivals_passUntil (l : Timeline) (time : ℕ) :
    l.arrivals (l.passUntil time) = l.coming.filter (· < time) := by
  refine List.filter_congr fun c hc => ?_
  simp [passUntil, hc]

theorem arrivals_same {l' : Timeline} (h : l'.coming = l.coming) : l.arrivals l' = [] := by
  refine List.filter_eq_nil_iff.mpr fun c hc => ?_
  simp [h, hc]

theorem trigger_passUntil (l : Timeline) (time : ℕ) : (l.passUntil time).trigger =
    if l.coming.filter (· < time) = [] then l.trigger else l.trigger.notify := by
  unfold passUntil
  by_cases hnone : l.coming.filter (· < time) = []
  · have hany : l.coming.any (· < time) = false :=
      List.any_eq_false.mpr (List.filter_eq_nil_iff.mp hnone)
    simp only [hnone, hany, if_pos, Bool.false_eq_true, if_false]
  · obtain ⟨c, hc⟩ := List.exists_mem_of_ne_nil _ hnone
    have hany : l.coming.any (· < time) = true :=
      List.any_eq_true.mpr ⟨c, (List.mem_filter.mp hc).1, (List.mem_filter.mp hc).2⟩
    simp only [hnone, hany, if_pos, if_false]

variable [Timer]

/-- What is seen of a wait: the requests that come during it, and its end. -/
def waitMarks (l : Timeline) (interval : Duration) : List Mark :=
  (l.arrivals (l.wait interval).1).map .notify ++
    [.wake (l.wait interval).2 interval l.now (l.wait interval).1.now]

/-- Waits and sleeps one after another, while requests are made and more are announced. -/
inductive Course : List Mark → Timeline → Prop
  | start : Course [] start
  | notify {marks : List Mark} {l : Timeline} (h : Course marks l) :
    Course (marks ++ [.notify l.now]) { l with trigger := l.trigger.notify }
  | announce {marks : List Mark} {l : Timeline} (h : Course marks l) {time : ℕ}
    (ht : l.now ≤ time) :
    Course marks { l with coming := l.coming ++ [time] }
  | sleep {marks : List Mark} {l : Timeline} (h : Course marks l) {time : ℕ} (ht : l.now ≤ time) :
    Course (marks ++ (l.arrivals (l.passUntil time)).map .notify) (l.passUntil time)
  | wait {marks : List Mark} {l : Timeline} (h : Course marks l) (interval : Duration) :
    Course (marks ++ l.waitMarks interval) (l.wait interval).1

theorem wait_of_pending (hp : l.trigger.pending) (interval : Duration) :
    l.wait interval = ({ l with trigger := .idle }, .notified) := by
  rw [wait, if_pos hp, wake, if_pos hp]

theorem wait_of_first {c : ℕ} (hp : l.trigger.pending = false) (hc : l.coming.min? = some c)
    {interval : Duration} (hstop : c < l.now + Clock.millis interval) :
    l.wait interval = (⟨max l.now c, .idle, l.coming.filter (c < ·)⟩, .notified) := by
  have hfirst : l.coming.foldl (fun first c => some (min c (first.getD c))) none = some c :=
    l.first?_eq.trans hc
  rw [wait, hp, if_neg Bool.false_ne_true]
  simp only [hfirst, if_pos hstop]

theorem wait_of_none (hp : l.trigger.pending = false) {interval : Duration}
    (hstop : ∀ c ∈ l.coming, l.now + Clock.millis interval ≤ c) :
    l.wait interval = ({ l with now := l.now + Clock.millis interval }, .timer) := by
  have hfirst : l.coming.foldl (fun first c => some (min c (first.getD c))) none = l.coming.min? :=
    l.first?_eq
  rw [wait, hp, if_neg Bool.false_ne_true]
  simp only [hfirst]
  cases hc : l.coming.min? with
  | none => rfl
  | some c =>
    have hle := hstop c (List.min?_mem hc)
    simp only [if_neg (Nat.not_lt.mpr hle)]

/-- The flag is right, no request is of a later time, and none is late. -/
structure IsTimely (marks : List Mark) (l : Timeline) : Prop where
  shows : Shows marks l.trigger
  made : ∀ time ∈ (Account.of marks).requests, time ≤ l.now
  ahead : ∀ time ∈ l.coming, l.now ≤ time
  prompt : Mark.Throughout Mark.IsPrompt marks

namespace IsTimely

theorem sleep (h : IsTimely marks l) {time : ℕ} (ht : l.now ≤ time) :
    IsTimely (marks ++ (l.arrivals (l.passUntil time)).map .notify) (l.passUntil time) where
  shows := by
    rw [arrivals_passUntil, trigger_passUntil]
    exact h.shows.notifies _
  made := by
    rw [Account.requests_notifies, arrivals_passUntil]
    intro t hm
    rcases List.mem_append.mp hm with hm | hm
    · exact Nat.le_trans (h.made t hm) ht
    · exact Nat.le_of_lt (of_decide_eq_true (List.mem_filter.mp hm).2)
  ahead := fun t hm => of_decide_eq_true (List.mem_filter.mp hm).2
  prompt := Mark.throughout_notifies (fun _ _ => trivial) h.prompt _

/-- How a wait ends, if the flag was up or not when it did. -/
theorem ofWake {t : Trigger} (hs : Shows marks t) (hp : Mark.Throughout Mark.IsPrompt marks)
    (hl : l.trigger = .idle) (ha : ∀ time ∈ l.coming, l.now ≤ time) {interval : Duration}
    {began : ℕ} (ht : t.pending = false → began + Clock.millis interval ≤ l.now)
    (hm : Mark.IsPrompt (.of marks) (.wake t.wake.2 interval began l.now)) :
    IsTimely (marks ++ [.wake t.wake.2 interval began l.now]) l where
  shows := hl ▸ hs.wake interval ht
  made := by simp [Account.add]
  ahead := ha
  prompt := Mark.throughout_concat.mpr ⟨hp, hm⟩

theorem wait_of_pending (h : IsTimely marks l) (hp : l.trigger.pending) (interval : Duration) :
    IsTimely (marks ++ l.waitMarks interval) (l.wait interval).1 := by
  have harrivals : l.arrivals { l with trigger := .idle } = [] := arrivals_same rfl
  have hreason : .notified = l.trigger.wake.2 := by rw [wake, if_pos hp]
  rw [waitMarks, Timeline.wait_of_pending hp]
  dsimp only
  rw [harrivals, List.map_nil, List.nil_append, hreason]
  refine ofWake (l := { l with trigger := .idle }) h.shows h.prompt rfl h.ahead (by simp [hp])
    ⟨Nat.le_refl _, Nat.le_add_right .., fun t hm => ?_⟩
  exact (Nat.max_eq_left (h.made t (List.mem_of_mem_head? hm))).symm

theorem requests_eq_nil (h : IsTimely marks l) (hp : l.trigger.pending = false) :
    (Account.of marks).requests = [] := by
  simpa [hp] using h.shows.pending_iff

theorem wait_of_first (h : IsTimely marks l) (hp : l.trigger.pending = false) {c : ℕ}
    (hc : l.coming.min? = some c) {interval : Duration}
    (hstop : c < l.now + Clock.millis interval) :
    IsTimely (marks ++ l.waitMarks interval) (l.wait interval).1 := by
  obtain ⟨hmem, hleast⟩ := List.min?_eq_some_iff.mp hc
  have hle := h.ahead c hmem
  rw [waitMarks, ← List.append_assoc, Timeline.wait_of_first hp hc hstop]
  dsimp only
  generalize harrivals : l.arrivals _ = times
  -- All requests that came in the meantime came at the moment that ended the wait.
  have htimes : ∀ time ∈ times, time = c := by
    intro time hm
    rw [← harrivals] at hm
    obtain ⟨hm, hgone⟩ := List.mem_filter.mp hm
    have := hleast time hm
    simp only [List.mem_filter, hm, decide_eq_true_eq, true_and, Nat.not_lt] at hgone
    omega
  have hne : c ∈ times := by
    rw [← harrivals]
    exact List.mem_filter.mpr ⟨hmem, by simp⟩
  have hshows := h.shows.notifies times
  rw [if_neg (List.ne_nil_of_mem hne)] at hshows
  refine ofWake (l := ⟨max l.now c, .idle, l.coming.filter (c < ·)⟩) hshows
    (Mark.throughout_notifies (fun _ _ => trivial) h.prompt times) rfl (fun time hm => ?_) nofun
    ⟨Nat.le_max_left .., by dsimp only; omega, fun time hm => ?_⟩
  · have := of_decide_eq_true (List.mem_filter.mp hm).2
    dsimp only
    omega
  · rw [Account.requests_notifies, h.requests_eq_nil hp, List.nil_append] at hm
    rw [htimes time (List.mem_of_mem_head? hm)]

theorem wait_of_none (h : IsTimely marks l) (hp : l.trigger.pending = false) {interval : Duration}
    (hstop : ∀ c ∈ l.coming, l.now + Clock.millis interval ≤ c) :
    IsTimely (marks ++ l.waitMarks interval) (l.wait interval).1 := by
  have harrivals : l.arrivals { l with now := l.now + Clock.millis interval } = [] :=
    arrivals_same rfl
  have hreason : .timer = l.trigger.wake.2 := by rw [wake, hp]; rfl
  have hidle : l.trigger = .idle := by rw [idle, ← hp]
  rw [waitMarks, Timeline.wait_of_none hp hstop]
  dsimp only
  rw [harrivals, List.map_nil, List.nil_append, hreason]
  exact ofWake (l := { l with now := l.now + Clock.millis interval }) h.shows h.prompt hidle hstop
    (fun _ => Nat.le_refl _) ⟨Nat.le_add_right .., Nat.le_refl _, by simp [h.requests_eq_nil hp]⟩

theorem wait (h : IsTimely marks l) (interval : Duration) :
    IsTimely (marks ++ l.waitMarks interval) (l.wait interval).1 := by
  cases hp : l.trigger.pending with
  | true => exact h.wait_of_pending hp interval
  | false =>
    by_cases hfirst : ∃ c ∈ l.coming.min?, c < l.now + Clock.millis interval
    · obtain ⟨c, hc, hstop⟩ := hfirst
      exact h.wait_of_first hp hc hstop
    · refine h.wait_of_none hp fun c hc => ?_
      obtain ⟨first, hmin⟩ := Option.ne_none_iff_exists'.mp
        (mt List.min?_eq_none_iff.mp (List.ne_nil_of_mem hc))
      have hle := (List.min?_eq_some_iff.mp hmin).2 c hc
      have hlate := mt (fun hlt => ⟨first, hmin, hlt⟩) hfirst
      omega

end IsTimely

theorem Course.isTimely (h : Course marks l) : IsTimely marks l := by
  induction h with
  | start => exact ⟨.idle, by simp [Account.start], by simp [Timeline.start], Mark.throughout_nil⟩
  | @notify marks l _ ih =>
    exact ⟨ih.shows.notify l.now, Account.made_notify ih.made, ih.ahead,
      Mark.throughout_concat.mpr ⟨ih.prompt, trivial⟩⟩
  | @announce marks l _ time ht ih =>
    refine ⟨ih.shows, ih.made, fun t hm => ?_, ih.prompt⟩
    rcases List.mem_append.mp hm with hm | hm
    · exact ih.ahead t hm
    · exact List.mem_singleton.mp hm ▸ ht
  | sleep _ ht ih => exact ih.sleep ht
  | wait _ interval ih => exact ih.wait interval

end BlocklistSync.Trigger.Timeline
