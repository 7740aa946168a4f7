import BlocklistSync.Notify
import BlocklistSync.Proofs.FileTree.Presence
import BlocklistSync.Proofs.Number.Natural
import BlocklistSync.Proofs.Text.Decoding
import Mathlib.Algebra.GroupWithZero.Nat

/-! Where a request to refresh goes, over all contents of a pid file. Only the number of a process
is ever signalled: neither a whole group of processes, which zero and the numbers below it stand
for, nor whatever a garbled file might be taken for. Bytes that are no text are not taken for a
garbled file, though. -/
namespace BlocklistSync.Notify

/-- The file holds the number of a process and, apart from white space around it, nothing else. -/
def NamesProcess (bytes : Bytes) (pid : ℕ) : Prop :=
  ∃ before numeral after, bytes = Text.Utf8.encode (String.ofList (before ++ numeral ++ after)) ∧
    (∀ c ∈ before, Text.isBlank c) ∧ (∀ c ∈ after, Text.isBlank c) ∧
    Number.IsNumeral numeral pid ∧ 1 ≤ pid ∧ pid ≤ 2 ^ 31 - 1

/-- The bytes are a text as it stands in a file. -/
def IsText (bytes : Bytes) : Prop := ∃ s, bytes = Text.Utf8.encode s

theorem isTrimmed_of_isNumeral {cs : List Char} {n : ℕ} (h : Number.IsNumeral cs n) :
    Text.IsTrimmed cs := by
  obtain ⟨digits, hcs, hne, hdigit, -⟩ := h
  have hdigits := Number.isTrimmed_of_forall_isDigit hdigit
  rcases hcs with rfl | rfl
  · exact hdigits
  · refine ⟨fun c hc => ?_, fun c hc => hdigits.2 c ?_⟩
    · obtain rfl := Option.some.inj hc
      decide
    · rwa [List.getLast?_cons_of_ne_nil hne] at hc

theorem pidOfText_eq_some_iff {s : String} {pid : ℕ} :
    pidOfText s = some pid ↔ Number.IsNumeral (Text.trimChars s.toList) pid ∧ 1 ≤ pid ∧
      pid ≤ 2 ^ 31 - 1 := by
  have hread (n : ℕ) : Number.readNatural maxPid (Text.trim s) = .ok n ↔
      Number.IsNumeral (Text.trimChars s.toList) n ∧ n ≤ 2 ^ 31 - 1 := by
    rw [Number.readNatural_eq_ok_iff, Text.trim, String.toList_ofList]
    exact Iff.rfl
  unfold pidOfText
  split
  · next hzero =>
    refine iff_of_false (by simp) ?_
    rintro ⟨hn, hpos, hle⟩
    obtain rfl := Except.ok.inj (hzero.symm.trans ((hread pid).mpr ⟨hn, hle⟩))
    exact absurd hpos (by decide)
  · next n hne hn =>
    rw [Option.some.injEq]
    constructor
    · rintro rfl
      obtain ⟨hnumeral, hle⟩ := (hread n).mp hn
      exact ⟨hnumeral, Nat.pos_of_ne_zero hne, hle⟩
    · rintro ⟨hnumeral, -, hle⟩
      exact Except.ok.inj (hn.symm.trans ((hread pid).mpr ⟨hnumeral, hle⟩))
  · next e he =>
    refine iff_of_false (by simp) ?_
    rintro ⟨hn, -, hle⟩
    cases he.symm.trans ((hread pid).mpr ⟨hn, hle⟩)

theorem namesProcess_encode_iff {s : String} {pid : ℕ} :
    NamesProcess (Text.Utf8.encode s) pid ↔ pidOfText s = some pid := by
  rw [pidOfText_eq_some_iff]
  constructor
  · rintro ⟨before, numeral, after, htext, hbefore, hafter, hnumeral, hbounds⟩
    obtain rfl := Text.Utf8.encode_injective htext
    rw [String.toList_ofList, Text.trimChars_append (isTrimmed_of_isNumeral hnumeral) hbefore
      hafter]
    exact ⟨hnumeral, hbounds⟩
  · rintro ⟨hnumeral, hbounds⟩
    obtain ⟨before, after, hs, hbefore, hafter⟩ := Text.exists_trimChars_append s.toList
    refine ⟨before, _, after, ?_, hbefore, hafter, hnumeral, hbounds⟩
    rw [← hs, String.ofList_toList]

theorem isText_iff {bytes : Bytes} : IsText bytes ↔ ∃ s, Text.Utf8.decode bytes = .ok s :=
  exists_congr fun _ => Text.Utf8.decode_eq_ok_iff.symm

theorem NamesProcess.isText {bytes : Bytes} {pid : ℕ} (h : NamesProcess bytes pid) :
    IsText bytes := by
  obtain ⟨before, numeral, after, htext, -⟩ := h
  exact ⟨_, htext⟩

section Refresh
variable {t : FileTree} {path : String} {bytes : Bytes}

theorem refresh_of_text {s : String} (h : t.read path = .ok (Text.Utf8.encode s))
    (alive : ℕ → Bool) :
    refresh t alive path = .ok ((pidOfText s).map fun pid => ⟨pid, alive pid⟩) := by
  simp only [refresh, target, FileTree.readText_of_read h, bind, Except.bind, pure, Except.pure]

theorem refresh_of_not_isText (h : t.read path = .ok bytes) (hb : ¬ IsText bytes)
    (alive : ℕ → Bool) :
    refresh t alive path = .error ⟨path, .notText⟩ := by
  have hdecode : Text.Utf8.decode? bytes = none := by
    rw [Text.Utf8.decode?]
    cases hd : Text.Utf8.decode bytes with
    | error => rfl
    | ok s => exact absurd (isText_iff.mpr ⟨s, hd⟩) hb
  simp only [refresh, target, FileTree.readText, h, bind, Except.bind, hdecode]
  rfl

end Refresh

/-- One signal goes out, to the process that the file names, and whoever asked is told whether there
is one. From a file that names none no signal goes out, and if it is a text that is all: nobody is
notified. Only for bytes that are no text whoever asked gets an error. -/
theorem signal_only_named {t : FileTree} {path : String} {bytes : Bytes}
    (h : t.read path = .ok bytes) (alive : ℕ → Bool) :
    (∀ pid, NamesProcess bytes pid → refresh t alive path = .ok (some ⟨pid, alive pid⟩) ∧
      (refresh t alive path).map delivered = .ok (alive pid)) ∧
    (∀ signalled, refresh t alive path = .ok (some signalled) → NamesProcess bytes signalled.pid) ∧
    ((∀ pid, ¬ NamesProcess bytes pid) → IsText bytes →
      refresh t alive path = .ok none ∧ (refresh t alive path).map delivered = .ok false) ∧
    (¬ IsText bytes → refresh t alive path = .error ⟨path, .notText⟩) := by
  by_cases hb : IsText bytes
  · obtain ⟨s, rfl⟩ := hb
    rw [refresh_of_text h alive]
    refine ⟨fun pid hp => ?_, fun signalled hs => ?_, fun hnone _ => ?_,
      fun hn => absurd ⟨s, rfl⟩ hn⟩
    · rw [namesProcess_encode_iff.mp hp]
      exact ⟨rfl, rfl⟩
    · obtain ⟨pid, hpid, rfl⟩ := Option.map_eq_some_iff.mp (Except.ok.inj hs)
      exact namesProcess_encode_iff.mpr hpid
    · have hpid : pidOfText s = none :=
        Option.eq_none_iff_forall_ne_some.mpr fun pid hpid =>
          hnone pid (namesProcess_encode_iff.mpr hpid)
      rw [hpid]
      exact ⟨rfl, rfl⟩
  · rw [refresh_of_not_isText h hb alive]
    exact ⟨fun pid hp => absurd hp.isText hb, fun _ hs => (by cases hs), fun _ ht => absurd ht hb,
      fun _ => rfl⟩

section Example

def pidFileTree (bytes : Bytes) : FileTree :=
  ⟨[(["b.pid"], .file 0)], [(0, ⟨.bytes bytes, 0o644⟩)], []⟩

theorem signal_only_named_of_padded :
    (pidFileTree (Text.Utf8.encode "\u3000+0042\n")).read "b.pid" =
      .ok (Text.Utf8.encode "\u3000+0042\n") ∧
    NamesProcess (Text.Utf8.encode "\u3000+0042\n") 42 ∧
    refresh (pidFileTree (Text.Utf8.encode "\u3000+0042\n")) (· == 42) "b.pid" =
      .ok (some ⟨42, true⟩) ∧
    (∀ pid, ¬ NamesProcess (Text.Utf8.encode "-7") pid) ∧
    refresh (pidFileTree (Text.Utf8.encode "-7")) (· == 42) "b.pid" = .ok none := by
  have hread : (pidFileTree (Text.Utf8.encode "\u3000+0042\n")).read "b.pid" =
      .ok (Text.Utf8.encode "\u3000+0042\n") := by decide +kernel
  have hnegative : (pidFileTree (Text.Utf8.encode "-7")).read "b.pid" =
      .ok (Text.Utf8.encode "-7") := by decide +kernel
  have hnames : NamesProcess (Text.Utf8.encode "\u3000+0042\n") 42 :=
    namesProcess_encode_iff.mpr (by decide +kernel)
  have hnone (pid : ℕ) : ¬ NamesProcess (Text.Utf8.encode "-7") pid := by
    rw [namesProcess_encode_iff, show pidOfText "-7" = none by decide +kernel]
    simp
  exact ⟨hread, hnames, ((signal_only_named hread (· == 42)).1 42 hnames).1, hnone,
    ((signal_only_named hnegative (· == 42)).2.2.1 hnone ⟨_, rfl⟩).1⟩

/-- A file of one stray byte names no process, and is an error nevertheless. -/
theorem exists_refused_garble : ∃ (t : FileTree) (path : String) (bytes : Bytes),
    t.read path = .ok bytes ∧ (∀ pid, ¬ NamesProcess bytes pid) ∧
    ∀ alive, refresh t alive path = .error ⟨path, .notText⟩ := by
  have hread : (pidFileTree [0xff]).read "b.pid" = .ok [0xff] := by decide +kernel
  have hb : ¬ IsText [0xff] := by
    rw [isText_iff]
    rintro ⟨s, hs⟩
    rw [show Text.Utf8.decode [0xff] = .error ⟨0, some 1⟩ by decide +kernel] at hs
    cases hs
  exact ⟨_, _, _, hread, fun pid hp => hb hp.isText, refresh_of_not_isText hread hb⟩

end Example

end BlocklistSync.Notify
