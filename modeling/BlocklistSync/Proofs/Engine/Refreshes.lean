import BlocklistSync.Proofs.Engine.Shutdown
import BlocklistSync.Proofs.Trigger.Slot
import BlocklistSync.Proofs.Trigger.Timeline

/-! Requests to refresh, seen from the daemon's loop. Whenever they are made, the next wake answers
all of them, its cycle asks for the fingerprint after them, and no time passes between two cycles
while there is one. -/
namespace BlocklistSync

namespace Request

/-- What is seen of a request of the engine. -/
def marks (now : ℕ) : Request → List Mark
  | .fingerprint reason => [.query reason now]
  | .connect | .probe | .entries _ | .write _ _ | .apply _ _ _ | .reapply => []

theorem shows_marks [Timer] {marks : List Mark} {t : Trigger} (h : Trigger.Shows marks t)
    (request : Request) (now : ℕ) :
    Trigger.Shows (marks ++ request.marks now) t := by
  cases request with
  | fingerprint reason => exact h.query reason now
  | connect | probe | entries | write | apply | reapply => rwa [Request.marks, List.append_nil]

theorem requests_marks (marks : List Mark) (request : Request) (now : ℕ) :
    (Account.of (marks ++ request.marks now)).requests = (Account.of marks).requests := by
  cases request with
  | fingerprint reason => rw [Request.marks, Account.of_concat, Account.add]
  | connect | probe | entries | write | apply | reapply => rw [Request.marks, List.append_nil]

theorem throughout_marks {p : Account → Mark → Prop} {marks : List Mark}
    (h : Mark.Throughout p marks) (request : Request) {now : ℕ}
    (hq : ∀ reason, request = .fingerprint reason → p (.of marks) (.query reason now)) :
    Mark.Throughout p (marks ++ request.marks now) := by
  cases request with
  | fingerprint reason => exact Mark.throughout_concat.mpr ⟨h, hq reason rfl⟩
  | connect | probe | entries | write | apply | reapply => rwa [Request.marks, List.append_nil]

/-- Where in a cycle the request belongs. -/
def Suits (a : Account) : Request → Prop
  | .connect | .probe => a.reason = .startup
  | .fingerprint reason => reason = a.reason
  | .entries _ | .write _ _ | .apply _ _ _ | .reapply => a.hasQueried

end Request

def Next.Suits (a : Account) : Next → Prop
  | .ask request | .pause _ request => request.Suits a
  | .started _ => a.reason = .startup
  | .finished _ => a.hasQueried

def Activity.Suits (a : Account) : Activity → Prop
  | .asking request | .pausing _ request => request.Suits a
  | .waiting => a.hasQueried
  | .ended => True

namespace Engine

theorem interval_receive (e : Engine) (request : Request) (reply : request.Reply) :
    (e.receive request reply).engine.interval = e.interval := by
  cases request with
  | connect | write => cases reply <;> rfl
  | fingerprint reason =>
    cases reply with
    | error => rfl
    | ok found =>
      simp only [receive, compareFingerprint]
      split
      · split <;> rfl
      · rfl
  | entries found =>
    cases reply with
    | error => rfl
    | ok entries =>
      simp only [receive, prepare]
      split <;> rfl
  | probe | apply | reapply => rfl

theorem suits_receive (e : Engine) {marks : List Mark} {now : ℕ} {request : Request}
    (reply : request.Reply) (hs : request.Suits (.of marks)) :
    (e.receive request reply).next.Suits (.of (marks ++ request.marks now)) := by
  cases request with
  | connect | write =>
    rw [Request.marks, List.append_nil]
    cases reply <;> exact hs
  | fingerprint reason =>
    rw [Request.marks, Account.of_concat]
    cases reply with
    | error => exact hs
    | ok found =>
      rcases e.served.compareFingerprint_next reason found with ⟨-, hn | hn⟩ | hn <;>
        simp only [receive, hn] <;> rfl
  | entries found =>
    rw [Request.marks, List.append_nil]
    cases reply with
    | error => exact hs
    | ok entries =>
      simp only [receive, prepare_next]
      exact hs
  | probe | apply | reapply =>
    rw [Request.marks, List.append_nil]
    exact hs

end Engine

namespace Daemon

variable {d : Daemon}

@[simp] theorem trigger_follow (d : Daemon) (next : Next) :
    (d.follow next).1.trigger = d.trigger := by
  cases next with
  | ask | pause => rfl
  | started connected => cases connected <;> rfl
  | finished outcome => cases outcome <;> rfl

@[simp] theorem interval_follow (d : Daemon) (next : Next) :
    (d.follow next).1.engine.interval = d.engine.interval := by
  cases next with
  | ask | pause => rfl
  | started connected => cases connected <;> rfl
  | finished outcome => cases outcome <;> rfl

theorem suits_follow {a : Account} {next : Next} (hs : next.Suits a) :
    (d.follow next).1.activity.Suits a := by
  cases next with
  | ask | pause => exact hs
  | started connected =>
    cases connected with
    | true => exact hs.symm
    | false => trivial
  | finished outcome => cases outcome <;> first | exact hs | trivial

theorem follow_cancelled (d : Daemon) (request : Request) :
    (d.follow (Next.cancelled request)).1.activity = .ended := by
  cases request <;> rfl

end Daemon

/-- What comes of the wakes and queries of a loop that waits for `interval` each time. -/
def Mark.Serves (interval : Duration) (a : Account) : Mark → Prop
  | .notify _ => True
  | .wake _ waited _ _ => waited = interval ∧ a.hasQueried
  | .query reason _ => reason = a.reason

namespace Host

variable [Timer]

def marks (h h' : Host) : List Mark :=
  match h.daemon.activity with
  | .asking request => request.marks h'.now
  | .waiting =>
    if h.daemon.cancelled then []
    else [.wake h.daemon.trigger.wake.2 h.daemon.engine.interval h.since h'.now]
  | .pausing _ _ | .ended => []

/-- What may become of a host while anyone requests a refresh or shutdown and anything happens to
the world. -/
inductive Course (start : Host) : List Mark → Host → Prop
  | start : Course start [] start
  | act {marks : List Mark} {h h' : Host} (hc : Course start marks h) {time : ℕ}
    (ha : h.act? time = some h') :
    Course start (marks ++ h.marks h') h'
  /-- A wake that is due may come before shutdown is noticed. -/
  | wake {marks : List Mark} {h : Host} (hc : Course start marks h)
    (hw : h.daemon.activity = .waiting)
    (hd : h.daemon.trigger.pending ∨ h.since + Clock.millis h.daemon.engine.interval ≤ h.now) :
    Course start (marks ++ [.wake h.daemon.trigger.wake.2 h.daemon.engine.interval h.since h.now])
      (h.put h.daemon.wake [])
  /-- Time passes while a request is carried out, or as long as there is nothing to do. -/
  | pass {marks : List Mark} {h : Host} (hc : Course start marks h) {time : ℕ}
    (hi : (∃ request, h.daemon.activity = .asking request) ∨ ∀ t < time, h.act? t = none) :
    Course start marks { h with now := max h.now time }
  | notify {marks : List Mark} {h : Host} (hc : Course start marks h) :
    Course start (marks ++ [.notify h.now]) h.notify
  | cancel {marks : List Mark} {h : Host} (hc : Course start marks h) : Course start marks h.cancel
  | change {marks : List Mark} {h : Host} (hc : Course start marks h) (w : World) :
    Course start marks { h with world := w }

/-- What is seen while the daemon goes on by itself. -/
def runMarks (time : ℕ) : ℕ → Host → List Mark
  | 0, _ => []
  | fuel + 1, h =>
    match h.act? time with
    | some h' => h.marks h' ++ runMarks time fuel h'
    | none => []

theorem Course.run {start h : Host} {marks : List Mark} (hc : Course start marks h)
    (time fuel : ℕ) :
    Course start (marks ++ runMarks time fuel h) (h.run time fuel) := by
  induction fuel generalizing h marks with
  | zero => simpa [Host.run, runMarks] using hc
  | succ fuel ih =>
    rw [Host.run, runMarks]
    cases ha : h.act? time with
    | none => simpa using hc
    | some h' => simpa only [List.append_assoc] using ih (hc.act ha)

theorem deadline?_of_pausing {h : Host} {delay : Duration} {request : Request}
    (ha : h.daemon.activity = .pausing delay request) :
    h.deadline? = some (h.since + Clock.millis delay) := by
  rw [deadline?, Daemon.timeout?, ha]
  rfl

theorem deadline?_of_waiting {h : Host} (ha : h.daemon.activity = .waiting) :
    h.deadline? = some (h.since + Clock.millis h.daemon.engine.interval) := by
  rw [deadline?, Daemon.timeout?, ha]
  rfl

/-- How the daemon goes on: with a request, with one that had to pause, with a wake, or to its
end. -/
inductive Goes (h : Host) (time : ℕ) : Host → Prop
  | reply {request : Request} (ha : h.daemon.activity = .asking request) (reply : request.Reply)
    (w : World) (log : Log) : Goes h time
      ({ h with world := w }.put (h.daemon.receive request reply).1 log)
  | resume {delay : Duration} {request : Request} (ha : h.daemon.activity = .pausing delay request)
    (ht : h.since + Clock.millis delay ≤ time) :
    Goes h time ({ h with now := h.since + Clock.millis delay }.put
      { h.daemon with activity := .asking request } [])
  | stir (ha : h.daemon.activity = .waiting) (hn : ¬ h.daemon.cancelled)
    (hp : h.daemon.trigger.pending) :
    Goes h time (h.put h.daemon.wake [])
  | elapse (ha : h.daemon.activity = .waiting) (hn : ¬ h.daemon.cancelled)
    (hp : ¬ h.daemon.trigger.pending)
    (ht : h.since + Clock.millis h.daemon.engine.interval ≤ time) :
    Goes h time
      ({ h with now := h.since + Clock.millis h.daemon.engine.interval }.put h.daemon.wake [])
  | stop {next : Next} (ha : ∀ request, h.daemon.activity ≠ .asking request)
    (hc : h.daemon.cancelled) (he : (h.daemon.follow next).1.activity = .ended) (log : Log) :
    Goes h time (h.put (h.daemon.follow next).1 log)

theorem goes_of_act? {h h' : Host} {time : ℕ} (ha : h.act? time = some h') : h.Goes time h' := by
  unfold act? at ha
  -- Shutdown is looked at before requests, and both before the timer.
  cases hactivity : h.daemon.activity with
  | asking request =>
    rw [hactivity] at ha
    obtain rfl := Option.some.inj ha
    exact .reply hactivity _ _ _
  | pausing delay request =>
    simp only [hactivity, Daemon.stir?, deadline?_of_pausing hactivity] at ha
    by_cases hc : h.daemon.cancelled
    · rw [if_pos hc] at ha
      obtain rfl := Option.some.inj ha
      exact .stop (by simp [hactivity]) hc (h.daemon.follow_cancelled request) _
    · rw [if_neg hc] at ha
      simp only [Option.ite_none_right_eq_some] at ha
      obtain ⟨ht, ha⟩ := ha
      obtain rfl := Option.some.inj ha
      rw [Daemon.elapse, hactivity]
      exact .resume hactivity ht
  | waiting =>
    simp only [hactivity, Daemon.stir?, deadline?_of_waiting hactivity] at ha
    by_cases hc : h.daemon.cancelled
    · rw [if_pos hc] at ha
      obtain rfl := Option.some.inj ha
      have he : (h.daemon.follow (.finished .cancelled)).1.activity = .ended := rfl
      exact .stop (by simp [hactivity]) hc he _
    · rw [if_neg hc] at ha
      by_cases hp : h.daemon.trigger.pending
      · rw [if_pos hp] at ha
        obtain rfl := Option.some.inj ha
        exact .stir hactivity hc hp
      · rw [if_neg hp] at ha
        simp only [Option.ite_none_right_eq_some] at ha
        obtain ⟨ht, ha⟩ := ha
        obtain rfl := Option.some.inj ha
        rw [Daemon.elapse, hactivity]
        exact .elapse hactivity hc hp ht
  | ended =>
    simp only [hactivity, Daemon.stir?, deadline?, Daemon.timeout?, Option.map_none] at ha
    cases ha

theorem of_act?_eq_none {h : Host} {time : ℕ} (ha : h.act? time = none) :
    h.daemon.stir? = none ∧ ∀ deadline ∈ h.deadline?, time < deadline := by
  unfold act? at ha
  split at ha
  · cases ha
  · split at ha
    · cases ha
    · next hs hd =>
      rw [ite_eq_right_iff] at ha
      refine ⟨hs, fun deadline hm => Nat.lt_of_not_le fun hle => ?_⟩
      obtain rfl := Option.some.inj (hd.symm.trans hm)
      cases ha hle
    · next hs hd => exact ⟨hs, by simp [hd]⟩

/-- The flag is right, the loop has missed nothing, and it has slept no longer than it may. -/
structure IsAttentive (interval : Duration) (marks : List Mark) (h : Host) : Prop where
  shows : Trigger.Shows marks h.daemon.trigger
  made : ∀ time ∈ (Account.of marks).requests, time ≤ h.now
  paced : h.daemon.engine.interval = interval
  since : h.since ≤ h.now
  due : ∀ deadline ∈ h.deadline?, h.now ≤ deadline
  suits : h.daemon.activity.Suits (.of marks)
  /-- A wait with a request has not gone on after the request. -/
  attends : h.daemon.activity = .waiting → ∀ time ∈ (Account.of marks).requests.head?,
    h.now = max h.since time
  prompt : Mark.Throughout Mark.IsPrompt marks
  serves : Mark.Throughout (Mark.Serves interval) marks

namespace IsAttentive

variable {interval : Duration} {marks : List Mark} {h h' : Host}

theorem ofPut {d : Daemon} (hs : Trigger.Shows marks d.trigger)
    (hm : ∀ time ∈ (Account.of marks).requests, time ≤ h.now) (hi : d.engine.interval = interval)
    (ha : d.activity.Suits (.of marks)) (hp : Mark.Throughout Mark.IsPrompt marks)
    (hv : Mark.Throughout (Mark.Serves interval) marks) (log : Log) :
    IsAttentive interval marks (h.put d log) where
  shows := hs
  made := hm
  paced := hi
  since := Nat.le_refl _
  due := by
    intro deadline hd
    obtain ⟨delay, -, rfl⟩ := Option.map_eq_some_iff.mp hd
    exact Nat.le_add_right ..
  suits := ha
  attends := fun _ time ht => (Nat.max_eq_left (hm time (List.mem_of_mem_head? ht))).symm
  prompt := hp
  serves := hv

theorem reply (k : IsAttentive interval marks h) {request : Request}
    (ha : h.daemon.activity = .asking request) (reply : request.Reply) (w : World) (log : Log) :
    IsAttentive interval (marks ++ request.marks h.now)
      ({ h with world := w }.put (h.daemon.receive request reply).1 log) := by
  have hsuits : request.Suits (.of marks) := by
    have hs := k.suits
    rwa [ha] at hs
  refine ofPut ?_ ?_ ?_ (Daemon.suits_follow (h.daemon.engine.suits_receive reply hsuits)) ?_ ?_ log
  · rw [Daemon.trigger_follow]
    exact request.shows_marks k.shows h.now
  · rw [request.requests_marks]
    exact k.made
  · rw [Daemon.interval_follow, Engine.interval_receive]
    exact k.paced
  · exact request.throughout_marks k.prompt fun _ _ => trivial
  · refine request.throughout_marks k.serves fun reason hr => ?_
    rw [hr] at hsuits
    exact hsuits

theorem hasQueried (k : IsAttentive interval marks h) (hw : h.daemon.activity = .waiting) :
    (Account.of marks).hasQueried := by
  have hs := k.suits
  rwa [hw] at hs

/-- A wake before its time is for a request, and then none of it has passed. -/
theorem wake (k : IsAttentive interval marks h) (hw : h.daemon.activity = .waiting) {now : ℕ}
    (hle : h.now ≤ now) (hd : now ≤ h.since + Clock.millis h.daemon.engine.interval)
    (hp : h.daemon.trigger.pending → now = h.now)
    (ht : ¬ h.daemon.trigger.pending → h.since + Clock.millis h.daemon.engine.interval ≤ now) :
    IsAttentive interval
      (marks ++ [.wake h.daemon.trigger.wake.2 h.daemon.engine.interval h.since now])
      ({ h with now := now }.put h.daemon.wake []) := by
  have hprompt : Mark.IsPrompt (.of marks)
      (.wake h.daemon.trigger.wake.2 h.daemon.engine.interval h.since now) := by
    refine ⟨Nat.le_trans k.since hle, hd, fun time hm => ?_⟩
    rw [hp (k.shows.pending_iff.mpr (List.ne_nil_of_mem (List.mem_of_mem_head? hm)))]
    exact k.attends hw time hm
  have hserves : Mark.Serves interval (.of marks)
      (.wake h.daemon.trigger.wake.2 h.daemon.engine.interval h.since now) :=
        ⟨k.paced, k.hasQueried hw⟩
  refine ofPut (d := h.daemon.wake) (k.shows.wake _ fun hf => ht (by simp [hf]))
    (by simp [Account.add]) k.paced ?_
    (Mark.throughout_concat.mpr ⟨k.prompt, hprompt⟩)
      (Mark.throughout_concat.mpr ⟨k.serves, hserves⟩) []
  rw [Account.of_concat]
  rfl

theorem pass (k : IsAttentive interval marks h) {time : ℕ}
    (hi : (∃ request, h.daemon.activity = .asking request) ∨ ∀ t < time, h.act? t = none) :
    IsAttentive interval marks { h with now := max h.now time } where
  shows := k.shows
  made := fun t hm => Nat.le_trans (k.made t hm) (Nat.le_max_left ..)
  paced := k.paced
  since := Nat.le_trans k.since (Nat.le_max_left ..)
  due := by
    intro deadline hd
    rcases hi with ⟨request, ha⟩ | hi
    · simp [deadline?, Daemon.timeout?, ha] at hd
    · refine Nat.max_le.mpr ⟨k.due deadline hd, Nat.le_of_not_lt fun hlt => ?_⟩
      exact Nat.lt_irrefl _ ((of_act?_eq_none (hi deadline hlt)).2 deadline hd)
  suits := k.suits
  attends := by
    intro hw t hm
    have hw : h.daemon.activity = .waiting := hw
    have hpending : h.daemon.trigger.pending :=
      k.shows.pending_iff.mpr (List.ne_nil_of_mem (List.mem_of_mem_head? hm))
    -- A daemon that waits and has a request would not let any time pass.
    rcases hi with ⟨request, ha⟩ | hi
    · cases hw.symm.trans ha
    · rcases Nat.eq_zero_or_pos time with rfl | hpos
      · rw [Nat.max_zero]
        exact k.attends hw t hm
      · have hstir := (of_act?_eq_none (hi 0 hpos)).1
        simp only [Daemon.stir?, hw, hpending, if_true] at hstir
        split at hstir <;> cases hstir
  prompt := k.prompt
  serves := k.serves

theorem notify (k : IsAttentive interval marks h) :
    IsAttentive interval (marks ++ [.notify h.now]) h.notify where
  shows := k.shows.notify h.now
  made := Account.made_notify k.made
  paced := k.paced
  since := k.since
  due := k.due
  suits := by
    rw [Account.of_concat]
    exact k.suits
  attends := by
    intro hw time hm
    rw [Account.of_concat, Account.add] at hm
    cases hr : (Account.of marks).requests with
    | nil =>
      rw [hr] at hm
      obtain rfl := Option.some.inj hm
      exact (Nat.max_eq_right k.since).symm
    | cons first rest =>
      rw [hr] at hm
      exact k.attends hw time (hr ▸ hm)
  prompt := Mark.throughout_concat.mpr ⟨k.prompt, trivial⟩
  serves := Mark.throughout_concat.mpr ⟨k.serves, trivial⟩

theorem act (k : IsAttentive interval marks h) {time : ℕ} (ha : h.act? time = some h') :
    IsAttentive interval (marks ++ h.marks h') h' := by
  cases goes_of_act? ha with
  | reply hactivity reply w log =>
    rw [Host.marks, hactivity]
    exact k.reply hactivity reply w log
  | resume hactivity ht =>
    rw [Host.marks, hactivity, List.append_nil]
    have hdue := k.due _ (deadline?_of_pausing hactivity)
    have hsuits := k.suits
    rw [hactivity] at hsuits
    exact ofPut (d := { h.daemon with activity := .asking _ }) k.shows
      (fun t hm => Nat.le_trans (k.made t hm) hdue)
      k.paced hsuits k.prompt k.serves []
  | stir hactivity hn hp =>
    rw [Host.marks, hactivity, if_neg hn]
    have hdue := k.due _ (deadline?_of_waiting hactivity)
    exact k.wake hactivity (Nat.le_refl _) hdue (fun _ => rfl) fun hf => absurd hp hf
  | elapse hactivity hn hp ht =>
    rw [Host.marks, hactivity, if_neg hn]
    have hdue := k.due _ (deadline?_of_waiting hactivity)
    exact k.wake hactivity hdue (Nat.le_refl _) (fun hf => absurd hf hp) fun _ => Nat.le_refl _
  | @stop next hactivity hc he log =>
    have hmarks : h.marks (h.put (h.daemon.follow next).1 log) = [] := by
      unfold Host.marks
      split
      · next request hr => exact absurd hr (hactivity request)
      · rw [if_pos hc]
      · rfl
      · rfl
    rw [hmarks, List.append_nil]
    refine ofPut ?_ k.made ?_ ?_ k.prompt k.serves log
    · rw [Daemon.trigger_follow]
      exact k.shows
    · rw [Daemon.interval_follow]
      exact k.paced
    · rw [he]
      trivial

end IsAttentive

theorem Course.isAttentive {w : World} {e : Engine} {marks : List Mark} {h : Host}
    (hc : Course (.start w e) marks h) : IsAttentive e.interval marks h := by
  induction hc with
  | start =>
    exact
      IsAttentive.ofPut (h := .start w e) (d := .start e) .idle (by simp [Account.start]) rfl rfl
      Mark.throughout_nil Mark.throughout_nil []
  | act _ ha ih => exact ih.act ha
  | @wake marks h _ hw hd ih =>
    exact ih.wake hw (Nat.le_refl _) (ih.due _ (deadline?_of_waiting hw)) (fun _ => rfl)
      hd.resolve_left
  | pass _ hi ih => exact ih.pass hi
  | notify _ ih => exact ih.notify
  | cancel _ ih | change _ _ ih =>
    exact ⟨ih.shows, ih.made, ih.paced, ih.since, ih.due, ih.suits, ih.attends, ih.prompt,
      ih.serves⟩

/-- A request does not cut a pause between two tries short. -/
theorem act?_of_pausing {h : Host} {delay : Duration} {request : Request}
    (ha : h.daemon.activity = .pausing delay request) (hn : ¬ h.daemon.cancelled) {time : ℕ}
    (ht : time < h.since + Clock.millis delay) : h.act? time = none := by
  simp only [act?, ha, Daemon.stir?, if_neg hn, deadline?_of_pausing ha]
  exact if_neg (Nat.not_le.mpr ht)

end Host

/-- Delays are rounded up to the next millisecond, short of those that the clock cannot express. -/
theorem Clock.nanos_le_millis [Timer] {d : Duration} (hd : d.seconds < Timer.unreachableSeconds) :
    d.nanos ≤ millis d * nanosPerMilli ∧ millis d * nanosPerMilli < d.nanos + nanosPerMilli := by
  rw [millis, if_neg (Nat.not_le.mpr hd), Duration.ceilMillis, nanosPerMilli]
  omega

/-- However requests, waits and the steps of either fall, every wake answers all requests since the
last one, and there is no wake for a request without one. On a clock that is never late no wait is
longer than it may be or goes on after a request. In the daemon's loop, where requests may come at
any time, the cycle that a wake begins asks for the fingerprint, and only a pause between two tries
of a store call goes on in spite of a request. -/
theorem Host.requests_answered_once [Timer] (w : World) (e : Engine) :
    (∀ marks s, Slot.Course marks s → Mark.Fair marks ∧ Trigger.Shows marks s.trigger) ∧
    (∀ marks l, Trigger.Timeline.Course marks l → Mark.Fair marks ∧
      Mark.Throughout Mark.IsPrompt marks) ∧
    (∀ marks h, Course (.start w e) marks h →
      Mark.Fair marks ∧ Trigger.Shows marks h.daemon.trigger ∧
      Mark.Throughout Mark.IsPrompt marks ∧ Mark.Throughout (Mark.Serves e.interval) marks ∧
      (h.daemon.activity = .waiting → (Account.of marks).hasQueried ∧
        ∀ time ∈ (Account.of marks).requests.head?, h.now = max h.since time) ∧
      ∀ delay request, h.daemon.activity = .pausing delay request → ¬ h.daemon.cancelled →
        ∀ time < h.since + Clock.millis delay, h.act? time = none) ∧
    ∀ d, d.seconds < Timer.unreachableSeconds →
      d.nanos ≤ Clock.millis d * nanosPerMilli ∧
        Clock.millis d * nanosPerMilli < d.nanos + nanosPerMilli := by
  refine ⟨fun marks s hc => ⟨hc.shows.fair, hc.shows⟩, fun marks l hc => ?_, fun marks h hc => ?_,
    fun d => Clock.nanos_le_millis⟩
  · have htimely := hc.isTimely
    exact ⟨htimely.shows.fair, htimely.prompt⟩
  · have k := hc.isAttentive
    exact ⟨k.shows.fair, k.shows, k.prompt, k.serves, fun hw => ⟨k.hasQueried hw, k.attends hw⟩,
      fun _ _ ha hn _ => act?_of_pausing ha hn⟩

section Loop

/-- A host whose store refuses so many calls for the fingerprint and holds what has been applied
already. -/
def loopHost (refusals : ℕ) (interval : Duration) : Host :=
  .start
    { tree := Course.emptyDirectory
      backend := .standIn
      memory := .empty
      standInStore := ⟨⟨0, none⟩, [], 0, refusals, 0, StandInStore.outage, 0⟩
      database := .new "blocker.db"
      commands := none
      standInServer := .new true }
    { Engine.new (.inDir "maps") interval (.new (.ofMillis 5) (.ofMillis 20)) with
      lastApplied := some ⟨0, none⟩ }

/-- A request during a pause between two tries is answered when the cycle is over, and then the
timer comes; one that comes just after the timer in a wait of its own still counts for that wait. -/
theorem Host.requests_answered_once_of_loopHost :
    (∃ marks h, Course (loopHost 1 (.ofMillis 10)) marks h ∧
      marks = [.query .startup 0, .notify 0, .query .startup 5, .wake .notified (.ofMillis 10) 5 5,
        .query .notified 5, .wake .timer (.ofMillis 10) 5 15, .query .timer 15] ∧
      Mark.Fair marks ∧ Mark.Throughout Mark.IsPrompt marks) ∧
    (∃ marks l, Trigger.Timeline.Course marks l ∧
      marks = [.notify 0, .wake .notified (.ofMillis 1) 0 0] ∧
      Mark.Fair marks) ∧
    ∃ marks s, Slot.Course marks s ∧ marks = [.notify 1, .wake .notified (.ofMillis 1) 0 1] ∧
      Mark.Fair marks := by
  have hstart : Course (loopHost 1 (.ofMillis 10)) [] _ := .start
  have hloop := (hstart.run 0 8).notify.run 15 20
  have htimeline := Trigger.Timeline.Course.start.notify.wait (.ofMillis 1)
  have hslot :=
    ((((((Slot.Course.start.wait (.ofMillis 1)).pass 1).expire
    (Nat.le_refl 1)).notify).drain).leave)
  obtain ⟨hslots, htimelines, hloops, -⟩ := requests_answered_once (loopHost 1 (.ofMillis 10)).world
    (loopHost 1 (.ofMillis 10)).daemon.engine
  obtain ⟨hfair, -, hprompt, -⟩ := hloops _ _ hloop
  exact ⟨⟨_, _, hloop, by decide +kernel, hfair, hprompt⟩,
    ⟨_, _, htimeline, by decide +kernel, (htimelines _ _ htimeline).1⟩,
    ⟨_, _, hslot, rfl, (hslots _ _ hslot).1⟩⟩

/-- The loop sleeps on in a pause in spite of a request, waits two milliseconds for one and a half,
and does not wait for ever. -/
theorem Host.exists_sleep_with_request :
    (∃ marks h, Course (loopHost 1 (.ofMillis 10)) marks h ∧ h.daemon.trigger.pending ∧ h.now = 1 ∧
      ∀ time < 5, h.act? time = none) ∧
    (∃ marks h, Course (loopHost 0 (.ofNanos 1500000)) marks h ∧
      .wake .timer (.ofNanos 1500000) 0 2 ∈ marks ∧
      (Duration.ofNanos 1500000).nanos < 2 * nanosPerMilli) ∧
    ∃ marks l ended, Trigger.Timeline.Course marks l ∧ .wake .timer
      (.ofSeconds (2 ^ 63)) 0 ended ∈ marks ∧
      ended * nanosPerMilli < (Duration.ofSeconds (2 ^ 63)).nanos := by
  have hstart : Course (loopHost 1 (.ofMillis 10)) [] _ := .start
  have hidle : ∀ time < 1, (Host.run 0 8 (loopHost 1 (.ofMillis 10))).act? time = none := by
    decide +kernel
  have hpausing := ((hstart.run 0 8).pass (.inr hidle)).notify
  have hstart' : Course (loopHost 0 (.ofNanos 1500000)) [] _ := .start
  have hrounded := hstart'.run 2 8
  have hendless := Trigger.Timeline.Course.start.wait (.ofSeconds (2 ^ 63))
  exact ⟨⟨_, _, hpausing, rfl, by decide +kernel, by decide +kernel⟩,
    ⟨_, _, hrounded, by decide +kernel, by decide +kernel⟩,
    ⟨_, _, Clock.longestDelay, hendless, by decide +kernel, by decide +kernel⟩⟩

end Loop

end BlocklistSync
