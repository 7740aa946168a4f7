import BlocklistSync.Proofs.FileTree.Presence
import BlocklistSync.Store.DatabaseStore

/-! How a connection is come by and lost. Names are followed to the database in a way of its own,
which comes to the same file as the system does wherever the system finds one; a connect that fails
changes nothing, and a query that fails leaves no connection behind. -/
namespace BlocklistSync

namespace FileTree

/-- What has a name stands in a directory, and relative paths start at one. -/
structure IsRooted (t : FileTree) : Prop where
  parent (p : Place) (name : String) (node : Node) : t.node? (p ++ [name]) = some node →
    t.node? p = some .directory
  home : t.node? t.home = some .directory

variable {t : FileTree} {here : Place}

theorem IsRooted.dropLast (ht : t.IsRooted) (h : t.node? here = some .directory) :
    t.node? here.dropLast = some .directory := by
  rcases List.eq_nil_or_concat here with rfl | ⟨p, name, rfl⟩
  · rfl
  · rw [List.concat_eq_append] at h ⊢
    rw [List.dropLast_concat]
    exact ht.parent p name _ h

theorem node?_startOf (h : t.node? here = some .directory) (path : String) :
    t.node? (startOf here path) = some .directory := by
  unfold startOf
  split
  · rfl
  · exact h

theorem exists_walk_of_fileNumber {path : String} {n : Nat} (h : t.fileNumber path = .ok n) :
    ∃ p, t.walk maxLinks (startOf t.home path) true (Path.endsWithSlash path) (steps path) =
      .ok ⟨p, some (.file n)⟩ := by
  rcases hr : t.resolve true path with e | ⟨p, _ | ⟨_ | target | m⟩⟩
  all_goals simp only [fileNumber, hr, fail, bind, Except.bind, pure, Except.pure, reduceCtorEq,
    Except.ok.injEq] at h
  exact ⟨p, h ▸ resolve_eq_ok hr⟩

end FileTree

namespace DatabaseStore

open FileTree

variable {t : FileTree} {here p : Place} {directory : Bool} {names : List String} {n links : Nat}

/-- What a stretch of the way to a file tells of the place that opening looks at. -/
def Leads (t : FileTree) (links : Nat) (place : Option Place) : Stretch → Prop
  | .ended (.ok ⟨p, some (.file _)⟩) => place = some p
  | .ended _ => True
  | .link here target rest =>
    t.node? here = some .directory ∧
      place = canonical t links (startOf here target) (steps target ++ rest)

theorem leads_stretch (ht : t.IsRooted) (hh : t.node? here = some .directory) (links : Nat)
    (directory : Bool) (names : List String) :
    Leads t links (canonical t (links + 1) here names) (t.stretch here true directory names) := by
  induction names generalizing here with
  | nil => trivial
  | cons name names ih =>
    rw [stretch, canonical]
    split
    · exact ih hh
    split
    · exact ih (ht.dropLast hh)
    split
    · trivial
    cases hn : t.node? (here ++ [name]) with
    | none =>
      simp only [hh, hn]
      split <;> trivial
    | some node =>
      cases node with
      | directory => simpa only [hh, hn] using ih hn
      | link target =>
        simp only [hh, hn, Bool.not_true, Bool.and_false, Bool.false_eq_true, if_false]
        exact ⟨hh, rfl⟩
      | file k =>
        simp only [hh, hn]
        split
        · next hlast =>
          rw [Bool.and_eq_true, List.isEmpty_iff] at hlast
          rw [hlast.1, canonical]
          rfl
        · trivial

/-- A file that the system finds within forty links is found by opening too, which follows a
hundred. -/
theorem canonical_of_walk (ht : t.IsRooted) (hh : t.node? here = some .directory)
    (hw : t.walk links here true directory names = .ok ⟨p, some (.file n)⟩) (more : Nat) :
    canonical t (links + (more + 1)) here names = some p := by
  -- The links that are left on both sides go down together, so that the distance between them
  -- stays.
  induction links generalizing here directory names with
  | zero =>
    have hleads := leads_stretch ht hh more directory names
    rw [walk] at hw
    rcases hs : t.stretch here true directory names with result | ⟨here', target, rest⟩
    · simp only [hs] at hw hleads
      rw [hw] at hleads
      rwa [Nat.zero_add]
    · simp [hs] at hw
  | succ links ih =>
    have hleads := leads_stretch ht hh (links + (more + 1)) directory names
    rw [walk] at hw
    rw [Nat.add_right_comm]
    rcases hs : t.stretch here true directory names with result | ⟨here', target, rest⟩
    · simp only [hs] at hw hleads
      rwa [hw] at hleads
    · by_cases htarget : target.isEmpty
      · simp [hs, htarget] at hw
      · simp only [hs, htarget, Bool.false_eq_true, if_false] at hw hleads
        rw [hleads.2]
        exact ih (node?_startOf hleads.1 target) hw

/-- Opening goes to the file that the system finds at the path. -/
theorem number_eq_of_openFile {path : String} {k : Nat} (ht : t.IsRooted)
    (hn : t.fileNumber path = .ok n) (hk : openFile t path = .ok (.file k)) : k = n := by
  obtain ⟨p, hw⟩ := exists_walk_of_fileNumber hn
  have hcanonical : canonical t maxLinks (startOf t.home path) (steps path) = some p :=
    canonical_of_walk ht (node?_startOf ht.home path) hw 59
  have hnode : t.node? p = some (.file n) := (node?_of_walk hw).resolve_left (by simp)
  unfold openFile at hk
  split at hk
  · cases hk
  split at hk
  · cases hk
  simp only [hcanonical, hnode] at hk
  cases hk
  rfl

variable {s : DatabaseStore} {α : Type} {q : Table → Except QueryError α}

theorem connect_of_not_isOk (hr : (s.connect t).2.isOk = false) : (s.connect t).1 = s := by
  unfold connect at hr ⊢
  split
  · next hc => simp [hc, Except.isOk, Except.toBool] at hr
  · rfl

/-- A query that fails leaves the store as it was when it was new. -/
theorem query_of_not_isOk (hr : (s.query t q).2.isOk = false) : (s.query t q).1 = new s.path := by
  unfold query at hr ⊢
  split
  · next hc =>
    unfold current at hc
    split at hc
    · cases hc
    · next hheld => rw [new, ← hheld]
  · next c hc =>
    split
    · next a ha => simp [hc, ha, Except.isOk, Except.toBool] at hr
    · rfl

end DatabaseStore
end BlocklistSync
