import BlocklistSync.Proofs.Engine.Pauses
import BlocklistSync.Proofs.Number.Doubles
import BlocklistSync.Settings.Load
import Mathlib.Algebra.Order.Field.Rat
import Mathlib.Tactic.GCongr
import Mathlib.Tactic.Linarith

/-! The pace of a daemon whose settings have passed the checks. The interval that they are checked
for is the one that the engine waits for, and no sleep of the engine is shorter than a millisecond,
so that it never polls in a busy loop. -/
namespace BlocklistSync

section Seconds

/-- Below `2 ^ 64` seconds the longest duration is too short by less than a nanosecond. -/
theorem Duration.abs_nanos_sub_lt {n den : ℕ} (hden : 0 < den) (hn : n < UInt64.size * den) :
    |((ofNanos (Number.roundHalfEven (n * nanosPerSecond) den)).nanos : ℚ) - n / den *
      nanosPerSecond| < 1 := by
  obtain ⟨hlow, hhigh⟩ := Number.roundHalfEven_within_half (n * nanosPerSecond) den hden
  generalize Number.roundHalfEven (n * nanosPerSecond) den = rounded at hlow hhigh ⊢
  have hden' : (0 : ℚ) < den := by exact_mod_cast hden
  have hlow' : (n / den * nanosPerSecond : ℚ) ≤ rounded + 1 / 2 := by
    rw [div_mul_eq_mul_div, div_le_iff₀ hden']
    have : (2 * (n * nanosPerSecond) : ℚ) ≤ (2 * rounded + 1) * den := by exact_mod_cast hlow
    linarith
  have hhigh' : (rounded : ℚ) ≤ n / den * nanosPerSecond + 1 / 2 := by
    have : (2 * rounded * den : ℚ) ≤ 2 * (n * nanosPerSecond) + den := by exact_mod_cast hhigh
    rw [div_mul_eq_mul_div, ← sub_le_iff_le_add, le_div_iff₀ hden']
    linarith
  have hrange : (n / den * nanosPerSecond : ℚ) < limit + 1 := by
    have : (n : ℚ) < UInt64.size * den := by exact_mod_cast hn
    have hlimit : (limit : ℚ) + 1 = UInt64.size * nanosPerSecond := by
      norm_num [limit, nanosPerSecond, UInt64.size]
    rw [hlimit]
    gcongr
    · norm_num [nanosPerSecond]
    · rwa [div_lt_iff₀ hden']
  rw [nanos_ofNanos, abs_lt]
  rcases Nat.le_total rounded limit with h | h
  · rw [Nat.min_eq_left h]
    constructor <;> linarith
  · have h' : (limit : ℚ) ≤ rounded := by exact_mod_cast h
    rw [Nat.min_eq_right h]
    constructor <;> linarith

/-- Only a finite number makes a duration, and it is that many seconds to within a nanosecond. -/
theorem Duration.of_ofBinarySeconds {x : Number.Binary64} {d : Duration}
    (h : ofBinarySeconds x = .ok d) (hpos : 0 < d.nanos) :
    ∃ m e, x = .finite false m e ∧ (m * 2 ^ e : ℚ) < UInt64.size ∧
      |(d.nanos : ℚ) - m * 2 ^ e * nanosPerSecond| < 1 := by
  cases x with
  | nan => cases h
  | infinite negative => cases negative <;> cases h
  | finite negative m e =>
    obtain ⟨hden, hvalue⟩ := Number.scaleBy_one m e
    simp only [ofBinarySeconds] at h
    generalize Number.scaleBy m 1 e = r at hden hvalue h
    have hden' : (0 : ℚ) < r.2 := by exact_mod_cast hden
    have hquotient : (m * 2 ^ e : ℚ) = r.1 / r.2 := by
      rw [hvalue, mul_div_cancel_right₀ _ hden'.ne']
    split at h
    · cases h
    · next hsign =>
      split at h
      · cases h
      · next hrange =>
        obtain rfl := Except.ok.inj h
        have hlt := Nat.lt_of_not_le hrange
        have hnear := abs_nanos_sub_lt hden hlt
        rw [← hquotient] at hnear
        refine ⟨m, e, ?_, ?_, hnear⟩
        · -- Zero may be negative, but then there is no nanosecond.
          cases negative with
          | false => rfl
          | true =>
            obtain rfl : m = 0 := by simpa using hsign
            have hone :
                (1 : ℚ) ≤ (ofNanos (Number.roundHalfEven (r.1 * nanosPerSecond) r.2)).nanos := by
              exact_mod_cast hpos
            rw [Nat.cast_zero, zero_mul, zero_mul, sub_zero] at hnear
            exact absurd (abs_lt.mp hnear).2 (not_lt.mpr hone)
        · rw [hquotient, div_lt_iff₀ hden']
          exact_mod_cast hlt

end Seconds

theorem Clock.one_le_millis [Timer] {d : Duration} (h : nanosPerMilli ≤ d.nanos) :
    1 ≤ millis d := by
  rw [millis]
  split
  · decide
  · rw [Duration.ceilMillis, Nat.one_le_div_iff (by decide)]
    omega

namespace Settings

variable {s : Settings}

/-- The delay that comes next after so many failures in a row. -/
def delay (s : Settings) (failures : ℕ) : Duration :=
  (Backoff.failed^[failures] s.newBackoff).current

theorem validate_of_fromEnvironment {t : FileTree} {env : Environment}
    (h : fromEnvironment t env = .ok s) :
    s.validate = .ok () := by
  simp only [fromEnvironment, bind, Except.bind] at h
  split at h
  · cases h
  · split at h
    · next hv =>
      split at h
      · cases h
      · next u hvalid =>
        obtain rfl := Except.ok.inj h
        exact hvalid
    · cases h

/-- The defaults pass the check, and the interval that stands in for one that cannot be read is the
default one. -/
theorem validate_default : ({} : Settings).validate = .ok () ∧
    Duration.ofBinarySeconds Default.checkSeconds = .ok defaultCheckInterval := by
  constructor <;> decide +kernel

/-- What is checked is what the engine waits for: neither the default nor the shortest interval
stands in for it. -/
theorem ofBinarySeconds_of_validate (h : s.validate = .ok ()) :
    Duration.ofBinarySeconds s.checkSeconds = .ok s.checkInterval ∧
      nanosPerMilli ≤ s.checkInterval.nanos := by
  have hinterval := ((validate_eq_ok_iff s).mp h).1
  rw [validateInterval] at hinterval
  rw [checkInterval]
  split at hinterval
  · cases hinterval
  · next d hd =>
    split at hinterval
    · cases hinterval
    · next hmin =>
      have hle : minCheckInterval.nanos ≤ d.nanos := Nat.le_of_not_lt hmin
      have hmax : d.max minCheckInterval = d := Duration.ext (by simp [hle])
      rw [hd]
      dsimp only
      rw [hmax]
      exact ⟨rfl, hle⟩

theorem initialMs_of_validate (h : s.validate = .ok ()) :
    s.backoff.initialMs ≠ 0 ∧ s.backoff.initialMs ≤ s.backoff.ceilingMs := by
  have hbackoff := ((validate_eq_ok_iff s).mp h).2
  rw [validateBackoff] at hbackoff
  split at hbackoff
  · cases hbackoff
  · next hzero =>
    split at hbackoff
    · cases hbackoff
    · next hlt => exact ⟨hzero, UInt64.not_lt.mp hlt⟩

theorem initialDelay_of_validate (h : s.validate = .ok ()) :
    nanosPerMilli ≤ s.initialDelay.nanos ∧ s.initialDelay.nanos ≤ s.delayCeiling.nanos := by
  obtain ⟨hzero, hle⟩ := initialMs_of_validate h
  have hpos : s.backoff.initialMs.toNat ≠ 0 := UInt64.toNat_inj.not.mpr hzero
  exact ⟨Nat.le_mul_of_pos_left _ (Nat.pos_of_ne_zero hpos),
    Nat.mul_le_mul_right _ (UInt64.le_iff_toNat_le.mp hle)⟩

theorem le_delay_of_validate (h : s.validate = .ok ()) (n : ℕ) :
    s.initialDelay.nanos ≤ (s.delay n).nanos ∧ nanosPerMilli ≤ (s.delay n).nanos := by
  obtain ⟨hmin, hle⟩ := initialDelay_of_validate h
  have hdelay := Backoff.initial_le_delay hle n
  exact ⟨hdelay, hmin.trans hdelay⟩

/-- A sleep of the daemon is a wait for the interval or a pause for a delay, neither of which is
short. -/
theorem le_of_timeout? [Timer] (hv : s.validate = .ok ()) {w : World} {marks : List Mark} {h : Host}
    (hc : Host.Course (.start w (.ofSettings s)) marks h) {length : Duration}
    (hd : h.daemon.timeout? = some length) : nanosPerMilli ≤ length.nanos := by
  unfold Daemon.timeout? at hd
  split at hd
  · next delay request ha =>
    obtain rfl := Option.some.inj hd
    obtain ⟨n, -, rfl⟩ := (hc.keepsPace rfl).pausing _ _ ha
    exact (le_delay_of_validate hv n).2
  · next ha =>
    obtain rfl := Option.some.inj hd
    rw [hc.isAttentive.paced]
    exact (ofBinarySeconds_of_validate hv).2
  all_goals cases hd

/-- The engine of settings that were accepted, whatever the document and the environment say, is in
no hurry: its interval is the number of seconds that was asked for, its delays keep between the two
that were asked for and do not become shorter, and whatever happens while it runs, it sleeps for a
millisecond or longer unless shutdown or, between two cycles, a request to refresh wakes it. -/
theorem engine_never_spins [Timer] {t : FileTree} {env : Environment}
    (hs : fromEnvironment t env = .ok s) :
    Duration.ofBinarySeconds s.checkSeconds = .ok (Engine.ofSettings s).interval ∧
    (∃ m e, s.checkSeconds = .finite false m e ∧ (m * 2 ^ e : ℚ) < UInt64.size ∧
      |((Engine.ofSettings s).interval.nanos : ℚ) - m * 2 ^ e * nanosPerSecond| < 1) ∧
    nanosPerMilli ≤ (Engine.ofSettings s).interval.nanos ∧
    (∀ n, (s.delay n).nanos ≤ (s.delay (n + 1)).nanos ∧ nanosPerMilli ≤ (s.delay n).nanos ∧
      s.backoff.initialMs.toNat * nanosPerMilli ≤ (s.delay n).nanos ∧
      (s.delay n).nanos ≤ s.backoff.ceilingMs.toNat * nanosPerMilli) ∧
    ∀ w marks h, Host.Course (.start w (.ofSettings s)) marks h →
      h.daemon.engine.interval = (Engine.ofSettings s).interval ∧
      (∀ delay request, h.daemon.activity = .pausing delay request → ∃ n, delay = s.delay n ∧
        h.daemon.engine.backoff = Backoff.failed^[n + 1] s.newBackoff) ∧
      (∀ length ∈ h.daemon.timeout?, nanosPerMilli ≤ length.nanos) ∧
      (∀ length ∈ h.daemon.timeout?, ∀ time, ∀ h' ∈ h.act? time,
        h.daemon.cancelled ∨ (h.daemon.activity = .waiting ∧ h.daemon.trigger.pending) ∨
          h.since + 1 ≤ h'.now) ∧
      ∀ reason waited began ended, .wake reason waited began ended ∈ marks →
        waited = (Engine.ofSettings s).interval ∧ (reason = .notified ∨ began + 1 ≤ ended) := by
  have hv := validate_of_fromEnvironment hs
  obtain ⟨hinterval, hmin⟩ := ofBinarySeconds_of_validate hv
  refine ⟨hinterval, Duration.of_ofBinarySeconds hinterval (Nat.lt_of_lt_of_le (by decide) hmin),
    hmin, fun n => ?_, fun w marks h hc => ?_⟩
  · obtain ⟨hinitial, hmilli⟩ := le_delay_of_validate hv n
    exact ⟨Backoff.delay_le_succ .., hmilli, hinitial, Backoff.delay_le_ceiling ..⟩
  · have k := hc.isAttentive
    refine ⟨k.paced, fun delay request ha => ?_, fun _ => le_of_timeout? hv hc,
      fun length hd time h' ha => ?_, fun reason waited began ended hm => ?_⟩
    · obtain ⟨n, hbackoff, hdelay⟩ := (hc.keepsPace rfl).pausing delay request ha
      exact ⟨n, hdelay, hbackoff⟩
    · have hone := Clock.one_le_millis (le_of_timeout? hv hc hd)
      refine (Host.now_of_act? ha hd).imp_right (Or.imp_right fun hnow => ?_)
      omega
    · obtain ⟨before, after, rfl⟩ := List.append_of_mem hm
      obtain ⟨rfl, -⟩ := k.serves before _ after rfl
      refine ⟨rfl, (k.shows.answers before _ after rfl).imp And.left fun htimer => ?_⟩
      have hone := Clock.one_le_millis hmin
      exact Nat.le_trans (Nat.add_le_add_left hone began) htimer.2.2

section Example

def quarterSecondTree : FileTree :=
  ⟨[(["settings.toml"], .file 0)],
    [(0, ⟨.ofText "check_interval_secs = 0.25\n[stats]\nenable = false\n", 0o644⟩)], []⟩

def quarterSecondEnvironment : Environment
  | "BLOCKER_CONFIG" => some "/settings.toml"
  | "BLOCKER_BACKOFF_INITIAL_MS" => some " 5\n"
  | _ => none

def quarterSecondSettings : Settings :=
  { checkSeconds := .ofRatio false 1 4, backoff := { initialMs := 5 },
    stats := { enabled := false } }

def quarterSecondHost : Host :=
  .start (loopHost 1 (.ofMillis 1)).world (.ofSettings quarterSecondSettings)

/-- The daemon that meets a refusal sleeps for five milliseconds, and later for a quarter of a
second at a time. -/
theorem engine_never_spins_of_quarterSecond :
    fromEnvironment quarterSecondTree quarterSecondEnvironment = .ok quarterSecondSettings ∧
    Duration.ofBinarySeconds (.ofRatio false 1 4) =
      .ok (Engine.ofSettings quarterSecondSettings).interval ∧
    (quarterSecondSettings.delay 100).nanos ≤ 30000 * nanosPerMilli ∧
    (∃ marks h, Host.Course quarterSecondHost marks h ∧ h.daemon.timeout? = some (.ofMillis 5) ∧
      ∀ time, ∀ h' ∈ h.act? time, h.daemon.cancelled ∨
        (h.daemon.activity = .waiting ∧ h.daemon.trigger.pending) ∨
        h.since + 1 ≤ h'.now) ∧
    ∃ marks h, Host.Course quarterSecondHost marks h ∧ .wake .timer (.ofMillis 250) 5 255 ∈ marks ∧
      (WakeReason.timer = .notified ∨ 5 + 1 ≤ 255) := by
  have hs : fromEnvironment quarterSecondTree quarterSecondEnvironment =
      .ok quarterSecondSettings := by decide +kernel
  obtain ⟨hinterval, -, -, hdelays, hcourses⟩ := engine_never_spins hs
  have hstart : Host.Course quarterSecondHost [] _ := .start
  have hpausing := hstart.run 0 8
  have hpause : (quarterSecondHost.run 0 8).daemon.timeout? = some (.ofMillis 5) := by
    decide +kernel
  have hpolling := hstart.run 300 20
  have hwake : .wake .timer (.ofMillis 250) 5 255 ∈ [] ++ quarterSecondHost.runMarks 300 20 := by
    decide +kernel
  obtain ⟨-, -, -, hrests, -⟩ := hcourses _ _ _ hpausing
  obtain ⟨-, -, -, -, hwakes⟩ := hcourses _ _ _ hpolling
  exact ⟨hs, hinterval, (hdelays 100).2.2.2, ⟨_, _, hpausing, hpause, hrests _ hpause⟩,
    ⟨_, _, hpolling, hwake, (hwakes _ _ _ _ hwake).2⟩⟩

end Example

end Settings
end BlocklistSync
