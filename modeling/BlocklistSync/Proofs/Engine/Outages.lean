import BlocklistSync.Proofs.Engine.HandOver
import BlocklistSync.Proofs.Engine.Journal
import BlocklistSync.Proofs.Store.Opening

/-! What an outage of the store comes to. A session whose store refuses calls for a while does the
same as one whose store answers at once, only later, and the engine counts the refusals. -/
namespace BlocklistSync

/-! A refusal that was announced is used up by the call that it meets. -/

theorem MemoryStore.outages_call {α : Type} (s : MemoryStore) (answer : α) :
    (s.call answer).1.outages + (!(s.call answer).2.isOk).toNat = s.outages := by
  unfold call
  dsimp only
  split
  · simp [Except.isOk, Except.toBool]
  · simp only [Except.isOk, Except.toBool, Bool.not_false, Bool.toNat_true]
    omega

namespace StandInStore

variable (s : StandInStore)

theorem outages_connect : s.connect.1.outages + (!s.connect.2.isOk).toNat = s.outages := by
  unfold connect
  simp only [outages]
  split
  · simp [Except.isOk, Except.toBool, *]
  · simp only [Except.isOk, Except.toBool, Bool.not_false, Bool.toNat_true]
    omega

theorem outages_fetchFingerprint :
    s.fetchFingerprint.1.outages + (!s.fetchFingerprint.2.isOk).toNat = s.outages := by
  unfold fetchFingerprint
  simp only [outages]
  split
  · simp [Except.isOk, Except.toBool, *]
  · simp only [Except.isOk, Except.toBool, Bool.not_false, Bool.toNat_true]
    omega

theorem outages_fetchEntries :
    s.fetchEntries.1.outages + (!s.fetchEntries.2.isOk).toNat = s.outages := by
  unfold fetchEntries
  simp only [outages]
  split
  · simp [Except.isOk, Except.toBool, *]
  · simp only [Except.isOk, Except.toBool, Bool.not_false, Bool.toNat_true]
    omega

end StandInStore

theorem DatabaseStore.dropped_of_not_isOk {α : Type} (s : DatabaseStore) (t : FileTree)
    {q : Table → Except QueryError α} (hr : (s.query t q).2.isOk = false) :
    (s.query t q).1 = s ∨ (s.held.isSome ∧ (s.query t q).1.held = none) := by
  rw [query_of_not_isOk hr]
  cases hheld : s.held with
  | none => exact .inl (by rw [new, ← hheld])
  | some => exact .inr ⟨rfl, rfl⟩

namespace World

/-- A store call is refused a number of times, and then served. -/
inductive Obtains (paths : MapPaths) (request : Request) : World → ℕ → request.Reply → World → Prop
  | served {w : World} (hs : Exchange.refusal? ⟨request, (w.perform paths request).reply⟩ = none) :
    Obtains paths request w 0 (w.perform paths request).reply (w.perform paths request).world
  | refused {w w' : World} {f : Fault} {n : ℕ} {reply : request.Reply}
    (hf : Exchange.refusal? ⟨request, (w.perform paths request).reply⟩ = some f)
    (hr : Obtains paths request (w.perform paths request).world n reply w') :
    Obtains paths request w (n + 1) reply w'

/-- A connection to a database that may turn out to be of no use. -/
def spare (w : World) : ℕ := if w.backend = .database then w.database.store.held.isSome.toNat else 0

variable {paths : MapPaths} {request : Request} {w w' : World} {n : ℕ} {reply : request.Reply}

/-- The world after a call. If that was refused, a refusal that was announced is used up, or a
connection, or else nothing has changed. -/
def Wears (w : World) (isOk : Bool) (w' : World) : Prop :=
  w'.outages ≤ w.outages ∧ (isOk = false → w'.outages + w'.spare + 1 ≤ w.outages + w.spare ∨ w' = w)

theorem wears_memory {s : MemoryStore} {isOk : Bool}
    (hs : s.outages + (!isOk).toNat = w.memory.outages) :
    w.Wears isOk { w with memory := s } := by
  simp only [Wears, outages, spare]
  refine ⟨by omega, ?_⟩
  rintro rfl
  rw [Bool.not_false, Bool.toNat_true] at hs
  omega

theorem wears_standIn {s : StandInStore} {isOk : Bool}
    (hs : s.outages + (!isOk).toNat = w.standInStore.outages) :
    w.Wears isOk { w with standInStore := s } := by
  simp only [Wears, outages, spare]
  refine ⟨by omega, ?_⟩
  rintro rfl
  rw [Bool.not_false, Bool.toNat_true] at hs
  omega

theorem wears_database {s : DatabaseStore} {isOk : Bool} (hb : w.backend = .database)
    (hs : isOk = false → s = w.database.store ∨ (w.database.store.held.isSome ∧ s.held = none)) :
    w.Wears isOk { w with database.store := s } := by
  refine ⟨Nat.le_refl _, fun hr => ?_⟩
  rcases hs hr with rfl | ⟨hsome, hnone⟩
  · exact .inr rfl
  · left
    simp [outages, spare, hb, hsome, hnone]

theorem wears_connect (w : World) : w.Wears w.connect.reply.isOk w.connect.world := by
  cases hb : w.backend with
  | memory =>
    have hw : w.connect.world = { w with memory := w.memory.connect.1 } := by
      simp only [connect, hb]
    have hr : w.connect.reply = w.memory.connect.2 := by simp only [connect, hb]
    exact hw ▸ hr ▸ wears_memory (w.memory.outages_call _)
  | standIn =>
    have hw : w.connect.world = { w with standInStore := w.standInStore.connect.1 } := by
      simp only [connect, hb]
    have hr : w.connect.reply = w.standInStore.connect.2 := by simp only [connect, hb]
    exact hw ▸ hr ▸ wears_standIn w.standInStore.outages_connect
  | database =>
    have hw : w.connect.world = { w with
        database.store := (w.database.store.connect w.tree).1 } := by simp only [connect, hb]
    have hr : w.connect.reply = (w.database.store.connect w.tree).2 := by simp only [connect, hb]
    exact hw ▸ hr ▸ wears_database hb fun hr => .inl (DatabaseStore.connect_of_not_isOk hr)

theorem wears_fetchFingerprint (w : World) :
    w.Wears w.fetchFingerprint.2.isOk w.fetchFingerprint.1 := by
  cases hb : w.backend with
  | memory =>
    have hw : w.fetchFingerprint.1 = { w with memory := w.memory.fetchFingerprint.1 } := by
      simp only [fetchFingerprint, hb]
    have hr : w.fetchFingerprint.2 = w.memory.fetchFingerprint.2 := by
      simp only [fetchFingerprint, hb]
    exact hw ▸ hr ▸ wears_memory (w.memory.outages_call _)
  | standIn =>
    have hw : w.fetchFingerprint.1 =
        { w with standInStore := w.standInStore.fetchFingerprint.1 } := by
      simp only [fetchFingerprint, hb]
    have hr : w.fetchFingerprint.2 = w.standInStore.fetchFingerprint.2 := by
      simp only [fetchFingerprint, hb]
    exact hw ▸ hr ▸ wears_standIn w.standInStore.outages_fetchFingerprint
  | database =>
    have hw : w.fetchFingerprint.1 =
        { w with database.store := (w.database.store.fetchFingerprint w.tree).1 } := by
      simp only [fetchFingerprint, hb]
    have hr : w.fetchFingerprint.2 = (w.database.store.fetchFingerprint w.tree).2 := by
      simp only [fetchFingerprint, hb]
    exact hw ▸ hr ▸ wears_database hb (w.database.store.dropped_of_not_isOk w.tree)

theorem wears_fetchEntries (w : World) : w.Wears w.fetchEntries.2.isOk w.fetchEntries.1 := by
  cases hb : w.backend with
  | memory =>
    have hw : w.fetchEntries.1 = { w with memory := w.memory.fetchEntries.1 } := by
      simp only [fetchEntries, hb]
    have hr : w.fetchEntries.2 = w.memory.fetchEntries.2 := by simp only [fetchEntries, hb]
    exact hw ▸ hr ▸ wears_memory (w.memory.outages_call _)
  | standIn =>
    have hw : w.fetchEntries.1 = { w with standInStore := w.standInStore.fetchEntries.1 } := by
      simp only [fetchEntries, hb]
    have hr : w.fetchEntries.2 = w.standInStore.fetchEntries.2 := by simp only [fetchEntries, hb]
    exact hw ▸ hr ▸ wears_standIn w.standInStore.outages_fetchEntries
  | database =>
    have hw : w.fetchEntries.1 = { w with
        database.store := (w.database.store.fetchEntriesIn w.database.order w.tree).1 } := by
      simp only [fetchEntries, hb]
    have hr : w.fetchEntries.2 = (w.database.store.fetchEntriesIn w.database.order w.tree).2 := by
      simp only [fetchEntries, hb]
    exact hw ▸ hr ▸ wears_database hb (w.database.store.dropped_of_not_isOk w.tree)

theorem wears_perform (w : World) (paths : MapPaths) (request : Request) :
    w.Wears (Exchange.refusal? ⟨request, (w.perform paths request).reply⟩).isNone
      (w.perform paths request).world := by
  cases request with
  | connect =>
    have hr : ∀ r, (Exchange.refusal? ⟨.connect, r⟩).isNone = r.isOk := fun r => by cases r <;> rfl
    exact hr _ ▸ w.wears_connect
  | fingerprint reason =>
    have hr : ∀ r, (Exchange.refusal? ⟨.fingerprint reason, r⟩).isNone = r.isOk := fun r => by
      cases r <;> rfl
    exact hr _ ▸ w.wears_fetchFingerprint
  | entries found =>
    have hr : ∀ r, (Exchange.refusal? ⟨.entries found, r⟩).isNone = r.isOk := fun r => by
      cases r <;> rfl
    exact hr _ ▸ w.wears_fetchEntries
  | write => exact ⟨Nat.le_refl _, fun h => by cases h⟩
  | probe =>
    simp only [perform, probe]
    split <;> exact ⟨Nat.le_refl _, fun h => by cases h⟩
  | apply | reapply =>
    simp only [perform, apply]
    split <;> exact ⟨Nat.le_refl _, fun h => by cases h⟩

namespace Obtains

theorem reply_served (ho : Obtains paths request w n reply w') :
    Exchange.refusal? ⟨request, reply⟩ = none := by
  induction ho with
  | served hs => exact hs
  | refused _ _ ih => exact ih

theorem alike (ho : Obtains paths request w n reply w') (hr : request.isStoreCall) :
    w'.Alike w := by
  induction ho with
  | served => exact alike_perform _ paths hr
  | refused _ _ ih => exact ih.trans (alike_perform _ paths hr)

theorem ne_of_refusal {f : Fault} (ho : Obtains paths request w n reply w')
    (hf : Exchange.refusal? ⟨request, (w.perform paths request).reply⟩ = some f) :
    (w.perform paths request).world ≠ w := by
  intro hw
  induction ho with
  | served hs => simp [hs] at hf
  | refused _ _ ih => exact ih (by rw [hw]; exact hf) (by rw [hw, hw])

/-- All refusals but one were announced. -/
theorem add_outages_le (ho : Obtains paths request w n reply w') :
    n + w'.outages ≤ w.outages + 1 := by
  have hspare : n + w'.outages ≤ w.outages + w.spare := by
    induction ho with
    | @served w =>
      have := (w.wears_perform paths request).1
      omega
    | @refused w _ _ _ _ hf hr ih =>
      rcases (w.wears_perform paths request).2 (by rw [hf]; rfl) with hlt | heq
      · omega
      · exact absurd heq ((Obtains.refused hf hr).ne_of_refusal hf)
  have hle : w.spare ≤ 1 := by
    unfold spare
    split
    · exact Bool.toNat_le _
    · omega
  omega

end Obtains
end World

namespace Session

/-- Two sessions that differ in their stores, their clocks and their logs, and in one of them the
engine has counted `n` more refusals. -/
structure Alike (n : ℕ) (s s' : Session) : Prop where
  engine : s.engine = s'.engine.retried n
  world : s.world.Alike s'.world

variable {s s₀ s' s₀' : Session} {request : Request} {reply : request.Reply} {next next' : Next}
  {xs : List Exchange}
  {n m : ℕ} {w w₀ : World}

theorem Alike.ask (ha : Alike n s s₀) (hr : request.isStoreCall = false) :
    Alike n (s.ask request).1 (s₀.ask request).1 ∧ (s.ask request).2 = (s₀.ask request).2 ∧
      s.exchange request = s₀.exchange request := by
  have hpaths : s.engine.paths = s₀.engine.paths := by rw [ha.engine]; rfl
  obtain ⟨hreply, hworld⟩ := ha.world.perform s₀.engine.paths hr
  have hstep : s.engine.receive request (s.world.perform s.engine.paths request).reply =
      (s₀.engine.receive request (s₀.world.perform s₀.engine.paths request).reply).retried n := by
    rw [hpaths, hreply, ha.engine, Engine.receive_retried]
  refine ⟨⟨congrArg Step.engine hstep, ?_⟩, (congrArg Step.next hstep :), ?_⟩
  · change (s.world.perform s.engine.paths request).world.Alike _
    rw [hpaths]
    exact hworld
  · simp only [exchange, hpaths, hreply]

theorem fuel_none (s : Session) : s.fuel none = 2 * s.world.outages + 16 := by
  simp [fuel]

/-- The store tells a cycle all that it asks for: the fingerprint, refused `n` times before, and if
that is another one than that of the maps applied last, the entries, refused `m` times before. -/
inductive Tells (s : Session) (reason : WakeReason) (found : Fingerprint) (entries : List Entry) :
    ℕ → ℕ → Prop
  | same {n : ℕ} {w : World} (hl : s.engine.lastApplied = some found)
    (ho : World.Obtains s.engine.paths (.fingerprint reason) s.world n (.ok found) w) :
    Tells s reason found entries n 0
  | changed {n m : ℕ} {w w' : World} (hl : s.engine.lastApplied ≠ some found)
    (ho : World.Obtains s.engine.paths (.fingerprint reason) s.world n (.ok found) w)
    (ho' : World.Obtains s.engine.paths (.entries found) w m (.ok entries) w') :
    Tells s reason found entries n m

variable {reason : WakeReason} {found : Fingerprint} {entries : List Entry}

theorem Tells.add_outages_le (ht : s.Tells reason found entries n m) :
    n + m ≤ s.world.outages + 2 := by
  cases ht with
  | same _ ho =>
    have := ho.add_outages_le
    omega
  | changed _ ho ho' =>
    have := ho.add_outages_le
    have := ho'.add_outages_le
    omega

theorem Tells.obtains (ht : s.Tells reason found entries n m) :
    ∃ w, World.Obtains s.engine.paths (.fingerprint reason) s.world n (.ok found) w ∧
      (s.engine.lastApplied ≠ some found →
        ∃ w', World.Obtains s.engine.paths (.entries found) w m (.ok entries) w') ∧
      (s.engine.lastApplied = some found → m = 0) := by
  cases ht with
  | same hl ho => exact ⟨_, ho, fun hne => absurd hl hne, fun _ => rfl⟩
  | changed hl ho ho' => exact ⟨_, ho, fun _ => ⟨_, ho'⟩, fun h => absurd h hl⟩

section Delays
variable [Timer]

/-- Both sessions get from one thing that the engine is about to do to another, with the same
exchanges but for `n` refusals. Without these there are `k` of them at most. -/
def Lags (n k : ℕ) (s s₀ : Session) (next : Next) (s' s₀' : Session) (next' : Next) : Prop :=
  ∃ xs xs₀, Runs none s next xs s' next' ∧ Runs none s₀ next xs₀ s₀' next' ∧
    xs.filter Exchange.isServed = xs₀ ∧ xs.length = xs₀.length + n ∧ xs₀.length ≤ k

theorem Lags.trans {s₁ s₁₀ : Session} {next₁ : Next} {j k : ℕ}
    (hl : Lags n j s s₀ next s₁ s₁₀ next₁) (hl' : Lags m k s₁ s₁₀ next₁ s' s₀' next') :
    Lags (n + m) (j + k) s s₀ next s' s₀' next' := by
  obtain ⟨xs, xs₀, hr, hr₀, hserved, hlength, hle⟩ := hl
  obtain ⟨ys, ys₀, hr', hr₀', hserved', hlength', hle'⟩ := hl'
  refine ⟨xs ++ ys, xs₀ ++ ys₀, hr.trans hr', hr₀.trans hr₀', ?_, ?_, ?_⟩
  · rw [List.filter_append, hserved, hserved']
  · simp only [List.length_append]
    omega
  · simp only [List.length_append]
    omega

theorem Lags.refl (s s₀ : Session) (next : Next) : Lags 0 0 s s₀ next s s₀ next :=
  ⟨[], [], .still .., .still .., rfl, rfl, Nat.le_refl _⟩

theorem Lags.mono {j k : ℕ} (hl : Lags n j s s₀ next s' s₀' next') (hk : j ≤ k) :
    Lags n k s s₀ next s' s₀' next' := by
  obtain ⟨xs, xs₀, hr, hr₀, hserved, hlength, hle⟩ := hl
  exact ⟨xs, xs₀, hr, hr₀, hserved, hlength, hle.trans hk⟩

theorem Alike.lags_ask (ha : Alike n s s₀) (hr : request.isStoreCall = false) :
    Alike n (s.ask request).1 (s₀.ask request).1 ∧
      Lags 0 1 s s₀ (.ask request) (s.ask request).1 (s₀.ask request).1 (s₀.ask request).2 := by
  obtain ⟨ha', hnext, hexchange⟩ := ha.ask hr
  have hserved : (s₀.exchange request).isServed := by
    rw [Exchange.isServed, Exchange.refusal?_eq_none hr]
    rfl
  refine ⟨ha', [s.exchange request], [s₀.exchange request], ?_, .ask (.still ..), ?_, rfl,
    Nat.le_refl _⟩
  · rw [← hnext]
    exact .ask (.still ..)
  · simp [hexchange, hserved]

/-- A session whose store refuses a call for a while asks again until it is served. -/
theorem runs_of_obtains {paths : MapPaths} (ho : World.Obtains paths request w n reply w₀)
    (hw : s.world = w) (hp : s.engine.paths = paths) :
    ∃ s' xs, Runs none s (.ask request) (xs ++ [⟨request, reply⟩]) s'
        ((s.engine.afterRefusals n).receive request reply).next ∧
      s'.world = w₀ ∧ s'.engine = ((s.engine.afterRefusals n).receive request reply).engine ∧
      xs.length = n ∧ ∀ x ∈ xs, x.isServed = false := by
  induction ho generalizing s with
  | served hs =>
    subst hw hp
    refine ⟨(s.ask request).1, [], .ask ?_, rfl, by simp [ask], rfl, by simp⟩
    rw [Engine.afterRefusals_zero]
    exact .still ..
  | @refused w w₀ f n reply hf _ ih =>
    subst hw hp
    obtain ⟨what, hstep⟩ := s.engine.receive_of_refusal hf
    have hengine : (s.ask request).1.engine = (s.engine.refused what request f).engine :=
      (congrArg Step.engine hstep :)
    have hnext : (s.ask request).2 = .pause s.engine.backoff.current request :=
      (congrArg Step.next hstep :)
    let s₁ : Session := ((s.ask request).1.pause none s.engine.backoff.current request).1
    have hengine₁ : s₁.engine = (s.engine.refused what request f).engine := by
      simp only [s₁, pause_none, hengine]
    obtain ⟨s', xs, hr, hworld, he, hlength, hx⟩ :=
      ih (s := s₁) (by simp only [s₁, pause_none]; rfl)
      (by rw [hengine₁]; rfl)
    rw [hengine₁, Engine.refused_afterRefusals] at hr he
    have hrefused : (s.exchange request).isServed = false := by
      rw [Exchange.isServed, exchange, hf]
      rfl
    refine ⟨s', s.exchange request :: xs, .ask ?_, hworld, he, by simp [hlength],
      by simpa [hrefused] using hx⟩
    rw [hnext]
    refine .pause ?_
    rw [show ((s.ask request).1.pause none s.engine.backoff.current request).2 =
      .ask request by rw [pause_none]]
    exact hr

/-- One store call that is made until it is served, in one session `n` times more often than in the
other. -/
theorem Alike.lags_obtain {paths : MapPaths} (ha : Alike m s s₀) (hr : request.isStoreCall)
    (hp : s₀.engine.paths = paths) (ho : World.Obtains paths request s.world n reply w)
    (ho₀ : World.Obtains paths request s₀.world 0 reply w₀) :
    ∃ s' s₀', Lags n 1 s s₀ (.ask request) s' s₀' (s₀.engine.receive request reply).next ∧
      Alike (m + n) s' s₀' ∧ s'.world = w ∧ s₀'.world = w₀ ∧
      s₀'.engine = (s₀.engine.receive request reply).engine := by
  have hserved := ho.reply_served
  have hpaths : s.engine.paths = paths := by rw [ha.engine, ← hp]; rfl
  obtain ⟨s', xs, hruns, hw, he, hlength, hx⟩ := runs_of_obtains ho rfl hpaths
  obtain ⟨s₀', xs₀, hruns₀, hw₀, he₀, hlength₀, -⟩ := runs_of_obtains ho₀ rfl hp
  obtain rfl := List.length_eq_zero_iff.mp hlength₀
  obtain ⟨hengine, hnext⟩ := s.engine.receive_afterRefusals n hr hserved
  rw [hnext, ha.engine, Engine.receive_retried] at hruns
  rw [hengine, ha.engine, Engine.receive_retried] at he
  rw [Engine.afterRefusals_zero] at hruns₀ he₀
  refine ⟨s', s₀', ⟨_, _, hruns, hruns₀, ?_, ?_, Nat.le_refl _⟩, ⟨?_, ?_⟩, hw, hw₀, he₀⟩
  · simp [List.filter_append, List.filter_eq_nil_iff.mpr (by simpa using hx), Exchange.isServed,
      hserved]
  · simp [hlength, Nat.add_comm]
  · rw [he, he₀]
    exact Engine.retried_retried _ m n
  · rw [hw, hw₀]
    exact ((ho.alike hr).trans ha.world).trans (ho₀.alike hr).symm

/-- Once the store has told all, the sessions come to the same end. -/
theorem Alike.lags_rest (ha : Alike n s s₀)
    (hn : next.isIdle ∨ ∃ request, next = .ask request ∧ request.isStoreCall = false) :
    ∃ s' s₀' next', Lags 0 2 s s₀ next s' s₀' next' ∧ Alike n s' s₀' ∧ next'.isIdle := by
  rcases hn with hi | ⟨request, rfl, hr⟩
  · exact ⟨s, s₀, next, (Lags.refl ..).mono (by omega), ha, hi⟩
  obtain ⟨ha', hl⟩ := ha.lags_ask hr
  by_cases hi : (s₀.ask request).2.isIdle
  · exact ⟨_, _, _, hl.mono (by omega), ha', hi⟩
  -- only a write that went through is not the last request
  obtain ⟨found, total, written, happly⟩ : ∃ found total written,
      (s₀.ask request).2 = .ask (.apply found total written) := by
    cases request with
    | connect | fingerprint | entries => cases hr
    | probe | apply | reapply => exact absurd rfl hi
    | write found entries =>
      have hnext : ∀ r, (s₀.engine.receive (.write found entries) r).next.isIdle ∨
        ∃ found' total written,
          (s₀.engine.receive (.write found entries) r).next =
              .ask (.apply found' total written) := by
        intro r
        cases r with
        | error => exact .inl rfl
        | ok written => exact .inr ⟨found, _, _, rfl⟩
      exact (hnext _).resolve_left hi
  rw [happly] at hl
  obtain ⟨ha'', hl'⟩ := ha'.lags_ask (rfl : (Request.apply found total written).isStoreCall = false)
  exact ⟨_, _, _, hl.trans hl', ha'', rfl⟩

/-- What comes of two sessions is the same, but for `n` refusals that one of them has met and
counted. -/
structure Delayed (n : ℕ) (r r₀ : Session × Next) (xs xs₀ : List Exchange) : Prop where
  next : r.2 = r₀.2
  alike : Alike n r.1 r₀.1
  served : xs.filter Exchange.isServed = xs₀
  refused : xs.length = xs₀.length + n

theorem Lags.delayed {k fuel fuel₀ : ℕ} (hl : Lags n k s s₀ next s' s₀' next') (ha : Alike n s' s₀')
    (hi : next'.isIdle) (hn : next.isPause = false) (hf : 2 * (k + n) ≤ fuel)
    (hf₀ : 2 * k ≤ fuel₀) :
    Delayed n (pursue none fuel s next) (pursue none fuel₀ s₀ next) (journal none fuel s next)
        (journal none fuel₀ s₀ next) ∧ (pursue none fuel s next) = (s', next') := by
  obtain ⟨xs, xs₀, hr, hr₀, hserved, hlength, hle⟩ := hl
  obtain ⟨hp, hj⟩ := hr.pursue_eq hi (by rw [hn, Bool.toNat_false]; omega : _ ≤ fuel)
  obtain ⟨hp₀, hj₀⟩ := hr₀.pursue_eq hi (by rw [hn, Bool.toNat_false]; omega : _ ≤ fuel₀)
  rw [hp, hp₀, hj, hj₀]
  exact ⟨⟨rfl, ha, hserved, hlength⟩, rfl⟩

theorem Tells.lags (ht : s.Tells reason found entries n m) (ht₀ : s₀.Tells reason found entries 0 0)
    (he : s.engine = s₀.engine) (hw : s.world.Alike s₀.world) :
    ∃ s' s₀' next', Lags (n + m) 4 { s with engine := s.engine.beginCycle }
        { s₀ with engine := s₀.engine.beginCycle } (.ask (.fingerprint reason)) s' s₀' next' ∧
      Alike (n + m) s' s₀' ∧ next'.isIdle := by
  have hbegun : Alike 0 { s with engine := s.engine.beginCycle }
      { s₀ with engine := s₀.engine.beginCycle } :=
    ⟨by simp [he], hw⟩
  obtain ⟨w, ho, hentries, hsame⟩ := ht.obtains
  obtain ⟨w₀, ho₀, hentries₀, -⟩ := ht₀.obtains
  rw [← he] at ho₀ hentries₀
  obtain ⟨s₁, s₁₀, hlags, ha, rfl, rfl, hengine⟩ := hbegun.lags_obtain rfl (by rw [he]; rfl) ho ho₀
  rw [Nat.zero_add] at ha
  by_cases hl : s₀.engine.beginCycle.served.lastApplied = some found
  · obtain rfl := hsame (he ▸ hl)
    have hnext : (s₀.engine.beginCycle.receive (.fingerprint reason) (.ok found)).next.isIdle ∨
      ∃ request,
        (s₀.engine.beginCycle.receive (.fingerprint reason) (.ok found)).next = .ask request ∧
          request.isStoreCall = false := by
      rcases Engine.compareFingerprint_next_of_eq hl reason with hn | hn
      · exact .inr ⟨.reapply, hn, rfl⟩
      · exact .inl (congrArg Next.isIdle hn)
    obtain ⟨s', s₀', next', hrest, ha', hi⟩ := ha.lags_rest hnext
    exact ⟨s', s₀', next', (hlags.trans hrest).mono (by omega), ha', hi⟩
  · obtain ⟨w', ho'⟩ := hentries (he ▸ hl)
    obtain ⟨w₀', ho₀'⟩ := hentries₀ (he ▸ hl)
    have hnext : (s₀.engine.beginCycle.receive (.fingerprint reason) (.ok found)).next =
        .ask (.entries found) :=
      Engine.compareFingerprint_next_of_ne hl reason
    rw [hnext] at hlags
    have hpaths : s₁₀.engine.paths = s.engine.paths := by
      rw [hengine, Engine.receive_paths, he]
      rfl
    obtain ⟨s₂, s₂₀, hlags', ha', -, -, -⟩ := ha.lags_obtain rfl hpaths ho' ho₀'
    obtain ⟨s', s₀', next', hrest, ha'', hi⟩ :=
      ha'.lags_rest (.inr ⟨_, Engine.prepare_next .., rfl⟩)
    exact ⟨s', s₀', next', (hlags.trans hlags').trans hrest, ha'', hi⟩

theorem Tells.delayed_cycle (ht : s.Tells reason found entries n m)
    (ht₀ : s₀.Tells reason found entries 0 0) (he : s.engine = s₀.engine)
    (hw : s.world.Alike s₀.world) :
    Delayed (n + m) (s.cycle reason none) (s₀.cycle reason none) (s.cycleJournal reason none)
        (s₀.cycleJournal reason none) ∧ (s.cycle reason none).2.isIdle := by
  obtain ⟨s', s₀', next', hlags, ha, hi⟩ := ht.lags ht₀ he hw
  have hle := ht.add_outages_le
  have hf : 2 * (4 + (n + m)) ≤ s.fuel none := by
    rw [fuel_none]
    omega
  have hf₀ : 2 * 4 ≤ s₀.fuel none := by
    rw [fuel_none]
    omega
  obtain ⟨hdelayed, hcycle⟩ := hlags.delayed ha hi rfl hf hf₀
  exact ⟨hdelayed, (congrArg (·.2.isIdle) hcycle).trans hi⟩

/-- A cycle that is delayed only comes to its outcome, and the delays start anew. -/
theorem Delayed.finished
    (hd : Delayed n (s.cycle reason none) (s₀.cycle reason none) (s.cycleJournal reason none)
    (s₀.cycleJournal reason none)) (hi : (s.cycle reason none).2.isIdle) :
    (s.cycle reason none).1.engine.backoff = s.engine.backoff.reset ∧
      ∃ o, (s.cycle reason none).2 = .finished o ∧ o ≠ .cancelled := by
  obtain ⟨o, ho, hends⟩ := cycleEnds hi
  obtain ⟨o₀, ho₀, hends₀⟩ := cycleEnds (hd.next ▸ hi)
  obtain rfl : o = o₀ := Next.finished.inj (ho.symm.trans (hd.next.trans ho₀))
  -- the other session has met no refusal
  have hcancelled : o ≠ .cancelled := by
    rintro rfl
    refine hends₀.refused_of_cancelled ?_
    rw [← hd.served]
    simp [Exchange.isServed]
  exact ⟨hends.backoff hcancelled, o, ho, hcancelled⟩

theorem delayed_start (he : s.engine = s₀.engine) (hw : s.world.Alike s₀.world)
    (ho : World.Obtains s.engine.paths .connect s.world n (.ok ()) w)
    (ho₀ : World.Obtains s.engine.paths .connect s₀.world 0 (.ok ()) w₀) :
    Delayed n (s.start none) (s₀.start none) (s.startJournal none) (s₀.startJournal none) ∧
      (s.start none).1.engine.backoff = s.engine.backoff.reset ∧
        (s.start none).2 = .started true := by
  have hsame : Alike 0 s s₀ := ⟨by simp [he], hw⟩
  obtain ⟨s₁, s₁₀, hlags, ha, -, -, hengine⟩ := hsame.lags_obtain rfl (by rw [he]) ho ho₀
  rw [Nat.zero_add] at ha
  obtain ⟨ha', hprobe⟩ := ha.lags_ask (rfl : Request.probe.isStoreCall = false)
  have hle := ho.add_outages_le
  have hf : 2 * (1 + 1 + (n + 0)) ≤ s.fuel none := by
    rw [fuel_none]
    omega
  have hf₀ : 2 * (1 + 1) ≤ s₀.fuel none := by
    rw [fuel_none]
    omega
  obtain ⟨hdelayed, hstart⟩ := (hlags.trans hprobe).delayed ha' rfl rfl hf hf₀
  have hlast : (s.start none).1 = (s₁.ask .probe).1 := congrArg Prod.fst hstart
  refine ⟨hdelayed, ?_, congrArg Prod.snd hstart⟩
  calc (s.start none).1.engine.backoff = s₁.engine.backoff := by rw [hlast]; rfl
    _ = s₁₀.engine.backoff := by rw [ha.engine]; rfl
    _ = s.engine.backoff.reset := by rw [hengine, he]; rfl

/-- A store that refuses calls for a while makes no difference but for the time that it takes and
the count of the refusals. In a course the refusals are left out of what happened, in a session they
are left out of the store. -/
theorem outage_only_delays :
    (∀ (h : History) (c c' : Course) (ev : Event) (events : List Event) (xs : List Exchange),
      Course.trace? h (ev :: events) c = some (xs, c') → ev.begins →
      (∀ ev ∈ events, ev.begins = false ∧ ev ≠ .giveUp) → c'.next.isIdle →
      ∃ c₀, Course.trace? h (ev :: events.filter (!·.isDelay)) c =
        some (xs.filter Exchange.isServed, c₀) ∧
        c' = c₀.retried (xs.countP (!·.isServed))) ∧
    ∀ s s₀ : Session, s.engine = s₀.engine → s.world.Alike s₀.world →
      (∀ reason found entries n m, s.Tells reason found entries n m →
        s₀.Tells reason found entries 0 0 →
        Delayed (n + m) (s.cycle reason none) (s₀.cycle reason none) (s.cycleJournal reason none)
            (s₀.cycleJournal reason none) ∧
          (s.cycle reason none).1.engine.backoff = s.engine.backoff.reset ∧
          ∃ o, (s.cycle reason none).2 = .finished o ∧ o ≠ .cancelled) ∧
      (∀ n w w₀, World.Obtains s.engine.paths .connect s.world n (.ok ()) w →
        World.Obtains s.engine.paths .connect s₀.world 0 (.ok ()) w₀ →
        Delayed n (s.start none) (s₀.start none) (s.startJournal none) (s₀.startJournal none) ∧
          (s.start none).1.engine.backoff = s.engine.backoff.reset ∧
            (s.start none).2 = .started true) := by
  refine ⟨fun _ _ _ _ _ _ => Course.catchesUp_of_trace?,
    fun s s₀ he hw => ⟨?_, fun n w w₀ => delayed_start he hw⟩⟩
  intro reason found entries n m ht ht₀
  obtain ⟨hd, hi⟩ := ht.delayed_cycle ht₀ he hw
  exact ⟨hd, hd.finished hi⟩

end Delays

section Refused

/-- A session at its beginning, with a store that refuses so many calls to connect, for the
fingerprint and for the entries. -/
def refusedSession (connects fingerprints fetches : ℕ) : Session where
  world :=
    { tree := Course.emptyDirectory
      backend := .standIn
      memory := .empty
      standInStore := ⟨⟨1, none⟩, Course.literalRule, connects, fingerprints, fetches,
        StandInStore.outage, 0⟩
      database := .new "blocker.db"
      commands := none
      standInServer := .new true }
  engine := .new (.inDir "maps") (.ofSeconds 60) (.new (.ofSeconds 1) (.ofSeconds 30))
  now := 0
  log := []

/-- A cycle in which the store refuses the fingerprint twice and the entries once. -/
def refusedCycle : List Event :=
  [.refuse StandInStore.outage, .resume, .refuse StandInStore.outage, .resume, .serve,
    .refuse StandInStore.outage, .resume, .serve, .write MapWriter.noFaults, .apply ⟨[], .done⟩]

theorem outage_only_delays_of_refusedSession :
    Delayed 5 ((refusedSession 1 2 3).cycle .startup none)
      ((refusedSession 0 0 0).cycle .startup none)
      ((refusedSession 1 2 3).cycleJournal .startup none)
      ((refusedSession 0 0 0).cycleJournal .startup none) ∧
    Delayed 1 ((refusedSession 1 2 3).start none) ((refusedSession 0 0 0).start none)
      ((refusedSession 1 2 3).startJournal none) ((refusedSession 0 0 0).startJournal none) ∧
    ∃ xs c c₀, Course.trace? (fun _ => .ofEntries Course.literalRule)
        (.cycle .startup :: refusedCycle) Course.firstCourse = some (xs, c) ∧
      Course.trace? (fun _ => .ofEntries Course.literalRule) [.cycle .startup, .serve, .serve,
        .write MapWriter.noFaults, .apply ⟨[], .done⟩] Course.firstCourse =
          some (xs.filter Exchange.isServed, c₀) ∧
      c = c₀.retried 3 := by
  have hcalm : (refusedSession 0 0 0).Tells .startup ⟨1, none⟩ Course.literalRule 0 0 :=
    .changed (by decide) (.served rfl) (.served rfl)
  have hrefused : (refusedSession 1 2 3).Tells .startup ⟨1, none⟩ Course.literalRule 2 3 :=
    .changed (by decide) (.refused rfl (.refused rfl (.served rfl)))
      (.refused rfl (.refused rfl (.refused rfl (.served rfl))))
  have he : (refusedSession 1 2 3).engine = (refusedSession 0 0 0).engine := rfl
  have hw : (refusedSession 1 2 3).world.Alike (refusedSession 0 0 0).world := ⟨rfl, rfl, rfl⟩
  have hrun : (Course.trace? (fun _ => .ofEntries Course.literalRule)
      (.cycle .startup :: refusedCycle) Course.firstCourse).any
        (fun p => p.2.next.isIdle ∧ p.1.countP (!·.isServed) = 3) = true := by
    decide +kernel
  obtain ⟨⟨xs, c⟩, ht, hrun⟩ := (Option.any_eq_true ..).mp hrun
  obtain ⟨hi, hcount⟩ := of_decide_eq_true hrun
  obtain ⟨hcourse, hsession⟩ := outage_only_delays
  obtain ⟨hcycle, hstart⟩ := hsession _ _ he hw
  obtain ⟨c₀, ht₀, hsame⟩ := hcourse _ _ c _ _ xs ht rfl (by simp [refusedCycle, Event.begins]) hi
  refine ⟨(hcycle _ _ _ 2 3 hrefused hcalm).1,
    (hstart 1 _ _ (.refused rfl (.served rfl)) (.served rfl)).1, xs, c, c₀, ht, ht₀, ?_⟩
  rw [hsame, hcount]

end Refused

end Session
end BlocklistSync
