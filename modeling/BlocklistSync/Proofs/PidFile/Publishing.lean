import BlocklistSync.PidFile
import BlocklistSync.Proofs.Notify.Signals
import Mathlib.Data.List.Induction

/-! Processes that publish their ids at one path, and get in each other's way. The file names the
one that came last, so that a request to refresh goes to it, and is gone once that one has left;
those that came before have no part in it. To create and to drop the file are whole steps here: what
happens between the look at the file and its removal, or while it is half written, is left out. -/
namespace BlocklistSync.PidFile

/-- What a process does with its pid file. -/
inductive Deed
  | create (pid : ℕ)
  | drop (pid : ℕ)
  deriving DecidableEq

/-- The process created its file after all others did, and has not dropped it since. -/
def Publishes (deeds : List Deed) (pid : ℕ) : Prop :=
  ∃ before after, deeds = before ++ .create pid :: after ∧ (∀ pid', .create pid' ∉ after) ∧
    .drop pid ∉ after

section Deeds
variable {deeds : List Deed} {pid pid' : ℕ}

theorem not_publishes_nil : ¬ Publishes [] pid := fun ⟨_, _, h, _⟩ => by simp at h

/-- A deed among some that end with `last` is the last one, or there were more after it before. -/
theorem deed_snoc {before after : List Deed} {deed last : Deed}
    (h : deeds ++ [last] = before ++ deed :: after) :
    (after = [] ∧ deed = last) ∨ ∃ after', after = after' ++ [last] ∧
      deeds = before ++ deed :: after' := by
  rcases List.eq_nil_or_concat after with rfl | ⟨after', last', rfl⟩
  · exact .inl ⟨rfl, (List.singleton_inj.mp (List.append_inj' h rfl).2).symm⟩
  · rw [List.concat_eq_append, ← List.cons_append, ← List.append_assoc] at h
    obtain ⟨hdeeds, hlast⟩ := List.append_inj' h rfl
    obtain rfl := List.singleton_inj.mp hlast
    exact .inr ⟨after', List.concat_eq_append, hdeeds⟩

theorem publishes_create : Publishes (deeds ++ [.create pid]) pid' ↔ pid' = pid := by
  constructor
  · rintro ⟨before, after, h, hnone, -⟩
    rcases deed_snoc h with ⟨-, hlast⟩ | ⟨after, rfl, -⟩
    · exact Deed.create.inj hlast
    · exact absurd (List.mem_append_right _ (List.mem_singleton_self _)) (hnone pid)
  · rintro rfl
    exact ⟨deeds, [], rfl, by simp, by simp⟩

theorem publishes_drop :
    Publishes (deeds ++ [.drop pid]) pid' ↔ Publishes deeds pid' ∧ pid' ≠ pid := by
  constructor
  · rintro ⟨before, after, h, hnone, hkept⟩
    rcases deed_snoc h with ⟨-, hlast⟩ | ⟨after, rfl, hdeeds⟩
    · cases hlast
    · refine ⟨⟨before, after, hdeeds, fun q hq => hnone q (List.mem_append_left _ hq),
        fun hq => hkept (List.mem_append_left _ hq)⟩, ?_⟩
      rintro rfl
      exact hkept (List.mem_append_right _ (List.mem_singleton_self _))
  · rintro ⟨⟨before, after, rfl, hnone, hkept⟩, hne⟩
    exact ⟨before, after ++ [.drop pid], by simp, by simpa using hnone, by simp [hkept, hne]⟩

theorem Publishes.unique (h : Publishes deeds pid) (h' : Publishes deeds pid') : pid = pid' := by
  induction deeds using List.reverseRecOn with
  | nil => exact absurd h not_publishes_nil
  | append_singleton deeds deed ih =>
    cases deed with
    | create => rw [publishes_create.mp h, publishes_create.mp h']
    | drop => exact ih (publishes_drop.mp h).1 (publishes_drop.mp h').1

end Deeds

section Text
variable {t : FileTree} {path : String} {pid : ℕ}

theorem contents_eq (pid : ℕ) : contents pid = toString pid ++ "\n" := rfl

theorem readText_of_absent (h : t.pathExists path = false) : ∃ e, t.readText path = .error e := by
  rcases hr : t.read path with e | bytes
  · exact ⟨e, by simp only [FileTree.readText, hr, bind, Except.bind]⟩
  · cases h.symm.trans (FileTree.pathExists_of_read hr)

theorem pidOfText_contents (h : 0 < pid ∧ pid ≤ Notify.maxPid) :
    Notify.pidOfText (contents pid) = some pid := by
  obtain ⟨n, rfl⟩ := Nat.exists_eq_succ_of_ne_zero (Nat.ne_of_gt h.1)
  rw [Notify.pidOfText, contents_eq, Number.trim_toString, Number.readNatural_toString h.2]
  rfl

/-- Whoever asks for a refresh sends the signal to the process that the file names. -/
theorem refresh_of_read (h : t.read path = .ok (Text.Utf8.encode (contents pid)))
    (hpid : 0 < pid ∧ pid ≤ Notify.maxPid) (alive : ℕ → Bool) :
    Notify.refresh t alive path = .ok (some ⟨pid, alive pid⟩) := by
  rw [Notify.refresh_of_text h, pidOfText_contents hpid, Option.map_some]

theorem refresh_of_absent (h : t.pathExists path = false) (alive : ℕ → Bool)
    (s : Notify.Signalled) :
    Notify.refresh t alive path ≠ .ok (some s) := by
  obtain ⟨e, he⟩ := readText_of_absent h
  simp only [Notify.refresh, Notify.target, he]
  split <;> simp [bind, Except.bind, pure, Except.pure]

end Text

section Operations
variable {t : FileTree} {path : String} {pid : ℕ} {f : PidFile}

theorem create_of_written (h : (create t path pid).2.1.written) :
    (create t path pid).2.1 = ⟨path, pid, true⟩ ∧
      (create t path pid).1.read path = .ok (Text.Utf8.encode (contents pid)) := by
  unfold create at h ⊢
  rcases hw : writePid t path pid with ⟨t', _ | e⟩
  · refine ⟨rfl, ?_⟩
    unfold writePid at hw
    split at hw
    · split at hw
      · next hwritten =>
        cases hw
        exact FileTree.read_of_write hwritten
      · cases hw
    · next hfailed => exact absurd hw (hfailed t')
  · simp [hw] at h

theorem remove_of_read (hf : f.written)
    (h : t.read f.path = .ok (Text.Utf8.encode (contents f.pid))) :
    (f.remove t).pathExists f.path = false := by
  obtain ⟨t', hunlink, habsent⟩ := FileTree.exists_unlink h
  have hremove : f.remove t = t' := by
    simp only [remove, hf, FileTree.readText_of_read h, contents_eq, Number.trim_toString, hunlink]
    rfl
  rwa [hremove]

theorem remove_of_ne (h : t.read f.path = .ok (Text.Utf8.encode (contents pid)))
    (hne : pid ≠ f.pid) :
    f.remove t = t := by
  have htext : Text.trim (contents pid) ≠ toString f.pid := by
    rw [contents_eq, Number.trim_toString]
    exact fun he => hne (Number.toString_injective he)
  rw [remove, FileTree.readText_of_read h]
  simp only [htext, if_false, ite_self]

theorem remove_of_absent (h : t.pathExists f.path = false) : f.remove t = t := by
  obtain ⟨e, he⟩ := readText_of_absent h
  simp [remove, he]

end Operations

/-- Processes, each known by its id, create and drop pid files at the path, and nobody else makes or
changes what is found there. Creating goes well each time. -/
inductive Course (path : String) (start : FileTree) : List Deed → FileTree → List PidFile → Prop
  | start : Course path start [] start []
  | create {deeds : List Deed} {t : FileTree} {held : List PidFile}
    (hc : Course path start deeds t held) (pid : ℕ) (hpid : 0 < pid ∧ pid ≤ Notify.maxPid)
    (hw : (create t path pid).2.1.written) :
    Course path start (deeds ++ [.create pid]) (create t path pid).1
      ((create t path pid).2.1 :: held)
  | drop {deeds : List Deed} {t : FileTree} {held : List PidFile}
    (hc : Course path start deeds t held) {f : PidFile} (hf : f ∈ held) :
    Course path start (deeds ++ [.drop f.pid]) (f.remove t) (held.erase f)
  | other {deeds : List Deed} {t t' : FileTree} {held : List PidFile}
    (hc : Course path start deeds t held) (he : t'.pathExists path = t.pathExists path)
    (hr : t'.read path = t.read path) : Course path start deeds t' held

/-- What there is at the path after so many deeds. -/
structure IsPublished (path : String) (deeds : List Deed) (t : FileTree) (held : List PidFile) :
    Prop where
  held : ∀ f ∈ held, f.path = path ∧ f.written
  names : ∀ pid, Publishes deeds pid →
    (0 < pid ∧ pid ≤ Notify.maxPid) ∧ t.read path = .ok (Text.Utf8.encode (contents pid))
  absent : (∀ pid, ¬ Publishes deeds pid) → t.pathExists path = false

namespace IsPublished
variable {path : String} {deeds : List Deed} {t : FileTree} {held : List PidFile}

/-- Whoever was superseded has nothing to remove. -/
theorem remove_eq (k : IsPublished path deeds t held) {f : PidFile} (hf : f ∈ held)
    (hp : ¬ Publishes deeds f.pid) :
    f.remove t = t := by
  obtain ⟨rfl, -⟩ := k.held f hf
  by_cases hany : ∃ pid, Publishes deeds pid
  · obtain ⟨pid, hpid⟩ := hany
    refine remove_of_ne (k.names pid hpid).2 ?_
    rintro rfl
    exact hp hpid
  · exact remove_of_absent (k.absent (not_exists.mp hany))

theorem create (k : IsPublished path deeds t held) {pid : ℕ} (hpid : 0 < pid ∧ pid ≤ Notify.maxPid)
    (hw : (create t path pid).2.1.written) :
    IsPublished path (deeds ++ [.create pid]) (PidFile.create t path pid).1
      ((PidFile.create t path pid).2.1 :: held) := by
  obtain ⟨hfile, hread⟩ := create_of_written hw
  refine ⟨fun f hf => ?_, fun pid' hp => ?_,
    fun hnone => absurd (publishes_create.mpr rfl) (hnone pid)⟩
  · rcases List.mem_cons.mp hf with rfl | hf
    · rw [hfile]
      exact ⟨rfl, rfl⟩
    · exact k.held f hf
  · obtain rfl := publishes_create.mp hp
    exact ⟨hpid, hread⟩

theorem drop (k : IsPublished path deeds t held) {f : PidFile} (hf : f ∈ held) :
    IsPublished path (deeds ++ [.drop f.pid]) (f.remove t) (held.erase f) := by
  have hheld : ∀ f' ∈ held.erase f, f'.path = path ∧ f'.written :=
    fun f' h => k.held f' (List.mem_of_mem_erase h)
  by_cases hp : Publishes deeds f.pid
  · -- The publisher leaves, and nobody takes its place.
    obtain ⟨rfl, hw⟩ := k.held f hf
    have hgone := remove_of_read hw (k.names f.pid hp).2
    refine ⟨hheld, fun pid h => ?_, fun _ => hgone⟩
    obtain ⟨h, hne⟩ := publishes_drop.mp h
    exact absurd (h.unique hp) hne
  · rw [k.remove_eq hf hp]
    refine ⟨hheld, fun pid h => k.names pid (publishes_drop.mp h).1,
      fun hnone => k.absent fun pid h => ?_⟩
    refine hnone pid (publishes_drop.mpr ⟨h, ?_⟩)
    rintro rfl
    exact hp h

end IsPublished

variable {path : String} {start t : FileTree} {deeds : List Deed} {held : List PidFile}

theorem Course.isPublished (h₀ : start.pathExists path = false)
    (hc : Course path start deeds t held) :
    IsPublished path deeds t held := by
  induction hc with
  | start => exact ⟨by simp, fun pid h => absurd h not_publishes_nil, fun _ => h₀⟩
  | create _ pid hpid hw ih => exact ih.create hpid hw
  | drop _ hf ih => exact ih.drop hf
  | other _ he hr ih => exact ⟨ih.held, fun pid h => hr ▸ ih.names pid h, fun h => he ▸ ih.absent h⟩

/-- At any time there is a file at the path just if the process that came last has not left yet.
Then the file holds the id of that process on a line, and a request to refresh goes to that process;
otherwise it goes to none. A process that is not the last changes nothing when it leaves. -/
theorem Course.names_latest (h₀ : start.pathExists path = false)
    (hc : Course path start deeds t held) :
    (t.pathExists path ↔ ∃ pid, Publishes deeds pid) ∧
    (∀ pid, Publishes deeds pid → t.read path = .ok (Text.Utf8.encode (toString pid ++ "\n")) ∧
      ∀ alive, Notify.refresh t alive path = .ok (some ⟨pid, alive pid⟩)) ∧
    ((∀ pid, ¬ Publishes deeds pid) → ∀ alive s, Notify.refresh t alive path ≠ .ok (some s)) ∧
    ∀ f ∈ held, ¬ Publishes deeds f.pid → f.remove t = t := by
  have k := hc.isPublished h₀
  refine ⟨⟨fun he => ?_, fun ⟨pid, hp⟩ => FileTree.pathExists_of_read (k.names pid hp).2⟩,
    fun pid hp => ?_, fun hnone => refresh_of_absent (k.absent hnone), fun f hf => k.remove_eq hf⟩
  · by_contra hnone
    cases he.symm.trans (k.absent (not_exists.mp hnone))
  · obtain ⟨hpid, hread⟩ := k.names pid hp
    exact ⟨hread, refresh_of_read hread hpid⟩

section Example

/-- Process 7 comes, 12 takes the path over, and 7 leaves late. -/
def takeOver : List Deed := [.create 7, .create 12, .drop 7]

def bareTree : FileTree := ⟨[], [], []⟩

theorem Course.names_latest_of_takeOver :
    bareTree.pathExists "run/blocker.pid" = false ∧
    (∃ t held, Course "run/blocker.pid" bareTree takeOver t held ∧ Publishes takeOver 12 ∧
      t.read "run/blocker.pid" = .ok (Text.Utf8.encode "12\n") ∧
      Notify.refresh t (· == 12) "run/blocker.pid" = .ok (some ⟨12, true⟩)) ∧
    ∃ t held, Course "run/blocker.pid" bareTree (takeOver ++ [.drop 12]) t held ∧
      ¬ t.pathExists "run/blocker.pid" := by
  have h₀ : bareTree.pathExists "run/blocker.pid" = false := by decide +kernel
  have hfirst : Course "run/blocker.pid" bareTree [.create 7] _ _ :=
    Course.start.create 7 (by decide) (by decide +kernel)
  have hsecond : Course "run/blocker.pid" bareTree [.create 7, .create 12] _ _ :=
    hfirst.create 12 (by decide) (by decide +kernel)
  have hlate : Course "run/blocker.pid" bareTree takeOver _ _ :=
    hsecond.drop (f := ⟨"run/blocker.pid", 7, true⟩) (by decide +kernel)
  have hgone := hlate.drop (f := ⟨"run/blocker.pid", 12, true⟩) (by decide +kernel)
  have hlatest : Publishes takeOver 12 := ⟨[.create 7], [.drop 7], rfl, by simp, by simp⟩
  obtain ⟨-, hnames, -, -⟩ := hlate.names_latest h₀
  obtain ⟨hexists, -, -, -⟩ := hgone.names_latest h₀
  refine ⟨h₀, ⟨_, _, hlate, hlatest, (hnames 12 hlatest).1, (hnames 12 hlatest).2 (· == 12)⟩, _, _,
    hgone, fun he => ?_⟩
  obtain ⟨pid, hp⟩ := hexists.mp he
  obtain ⟨hp, hne⟩ := publishes_drop.mp hp
  exact hne (hp.unique hlatest)

end Example

end BlocklistSync.PidFile
