import BlocklistSync.Proofs.FileTree.Trail
import BlocklistSync.Proofs.Text.Utf8

/-! A file that was written is found at its path with what was written, and one that was unlinked is
not found any more, whatever links the path goes through: of these only the one in last place, if
there is one, is unlinked. -/
namespace BlocklistSync.FileTree

variable {t t' : FileTree} {links : Nat} {here p : Place} {directory : Bool} {names : List String}
  {path : String}

section Ended
variable {follow : Bool} {target : Target}

theorem node?_of_stretch (hs : t.stretch here follow directory names = .ended (.ok target)) :
    target.node = some .directory ∨ t.node? target.place = target.node := by
  induction names generalizing here with
  | nil =>
    cases hs
    exact .inl rfl
  | cons name names ih =>
    simp only [stretch] at hs
    split at hs
    · exact ih hs
    split at hs
    · exact ih hs
    split at hs
    · cases hs
    split at hs
    · next hn =>
      split at hs
      · cases hs
        exact .inr hn
      · cases hs
    · exact ih hs
    · next hn =>
      split at hs
      · cases hs
        exact .inr hn
      · cases hs
    · next hn =>
      split at hs
      · cases hs
        exact .inr hn
      · cases hs

/-- A walk tells what stands at its end; only the directory that it began in may be none. -/
theorem node?_of_walk (hw : t.walk links here follow directory names = .ok target) :
    target.node = some .directory ∨ t.node? target.place = target.node := by
  induction links generalizing here directory names with
  | zero =>
    rw [walk] at hw
    rcases hs : t.stretch here follow directory names with result | ⟨here', link, rest⟩
    · simp only [hs] at hw
      exact node?_of_stretch (hs.trans (congrArg _ hw))
    · simp [hs] at hw
  | succ links ih =>
    rw [walk] at hw
    rcases hs : t.stretch here follow directory names with result | ⟨here', link, rest⟩
    · simp only [hs] at hw
      exact node?_of_stretch (hs.trans (congrArg _ hw))
    · by_cases hlink : link.isEmpty
      · simp [hs, hlink] at hw
      · simp only [hs, hlink, Bool.false_eq_true, if_false] at hw
        exact ih hw

theorem ne_nil_of_node? {n : Option Node} (h : t.node? p = n) (hn : n ≠ some .directory) :
    p ≠ [] := by
  rintro rfl
  exact hn (h.symm.trans (if_pos rfl))

end Ended

section Added
variable {n : Nat}

/-- A way that leads to a place where nothing is comes by no other such place before. -/
theorem stretch_added (hn : t'.node? p = some (.file n)) (hp : t.node? p = none)
    (hother : ∀ q ≠ p, t'.node? q = t.node? q) (here : Place) (names : List String) :
    (t'.stretch here true false names = t.stretch here true false names ∧
      t.stretch here true false names ≠ .ended (.ok ⟨p, none⟩)) ∨
    (t.stretch here true false names = .ended (.ok ⟨p, none⟩) ∧
      t'.stretch here true false names = .ended (.ok ⟨p, some (.file n)⟩)) ∨
    ∃ code, t.stretch here true false names = .ended (.error code) := by
  induction names generalizing here with
  | nil => exact .inl ⟨rfl, by simp [stretch]⟩
  | cons name names ih =>
    simp only [stretch]
    by_cases hdot : name = "."
    · simpa only [hdot, if_true] using ih here
    by_cases hup : name = ".."
    · simpa [hdot, hup] using ih here.dropLast
    by_cases hlong : maxNameBytes < name.utf8ByteSize
    · exact .inr (.inr ⟨SystemError.nameTooLong, by simp [hdot, hup, hlong]⟩)
    simp only [hdot, hup, hlong, if_false]
    by_cases hplace : here ++ [name] = p
    · rw [hplace, hn, hp]
      cases names with
      | nil => exact .inr (.inl ⟨rfl, rfl⟩)
      | cons => exact .inr (.inr ⟨_, rfl⟩)
    · rw [hother _ hplace]
      rcases t.node? (here ++ [name]) with _ | ⟨_ | target | k⟩
      · exact .inl ⟨rfl, by cases names <;> simp [hplace]⟩
      · exact ih _
      · exact .inl ⟨rfl, by simp⟩
      · exact .inl ⟨rfl, by cases names <;> simp⟩

/-- A walk to where nothing is goes on from a directory by a name. -/
theorem walk_concat_eq_none {name : String}
    (hw : t.walk links here true true (names ++ [name]) = .ok ⟨p, none⟩) :
    name ≠ "." ∧ name ≠ ".." ∧
      ∃ d, t.walk links here true true names = .ok ⟨d, some .directory⟩ := by
  have hname {d : Place} {s : Stretch} (hs : t.stretch d true true [name] = s)
      (hd : ∀ q, s ≠ .ended (.ok ⟨q, some .directory⟩)) : name ≠ "." ∧ name ≠ ".." := by
    constructor <;> rintro rfl <;> simp [stretch, ← hs] at hd
  induction links generalizing here names with
  | zero =>
    rw [walk, stretch_snoc] at hw
    rw [walk]
    rcases hs : t.stretch here true true names with (e | ⟨d, _ | ⟨_ | target | k⟩⟩) |
      ⟨here', target, rest⟩
    all_goals simp only [hs, reduceCtorEq] at hw ⊢
    have hdots := hname (d := d) rfl fun q hq => by simp [hq] at hw
    exact ⟨hdots.1, hdots.2, d, rfl⟩
  | succ links ih =>
    rw [walk, stretch_snoc] at hw
    rw [walk]
    rcases hs : t.stretch here true true names with (e | ⟨d, _ | ⟨_ | target | k⟩⟩) |
      ⟨here', target, rest⟩
    all_goals simp only [hs, reduceCtorEq] at hw ⊢
    · have hdots := hname (d := d) rfl fun q hq => by simp [hq] at hw
      exact ⟨hdots.1, hdots.2, d, rfl⟩
    · by_cases htarget : target.isEmpty
      · simp [htarget] at hw
      · simp only [htarget, Bool.false_eq_true, if_false, Bool.true_or] at hw ⊢
        rw [← List.append_assoc] at hw
        exact ih hw

theorem lastHasSlash_of_walk (hw : t.walk links here true true names = .ok ⟨p, none⟩) :
    t.lastHasSlash links here true names := by
  rcases List.eq_nil_or_concat names with rfl | ⟨names, name, rfl⟩
  · rw [walk] at hw
    simp [stretch] at hw
  · rw [List.concat_eq_append] at hw ⊢
    obtain ⟨hdot, hup, d, hd⟩ := walk_concat_eq_none hw
    rw [lastHasSlash]
    simp [hd, hdot, hup]

theorem walk_added (hn : t'.node? p = some (.file n)) (hp : t.node? p = none)
    (hother : ∀ q ≠ p, t'.node? q = t.node? q)
    (hw : t.walk links here true directory names = .ok ⟨p, none⟩)
    (hslash : t.lastHasSlash links here directory names = false) :
    t'.walk links here true directory names = .ok ⟨p, some (.file n)⟩ := by
  -- The walk passes the new file by, or ends where it stands now, or fails.
  induction links generalizing here directory names with
  | zero =>
    cases directory with
    | true => simp [lastHasSlash_of_walk hw] at hslash
    | false =>
      rw [walk] at hw ⊢
      rcases stretch_added hn hp hother here names with ⟨hsame, hne⟩ | ⟨hs, hs'⟩ | ⟨code, hs⟩
      · rcases hs : t.stretch here true false names with result | ⟨here', target, rest⟩
        · simp only [hs] at hw
          exact absurd (hs.trans (congrArg _ hw)) hne
        · simp [hs] at hw
      · rw [hs']
      · simp [hs] at hw
  | succ links ih =>
    cases directory with
    | true => simp [lastHasSlash_of_walk hw] at hslash
    | false =>
      rw [walk] at hw ⊢
      rw [lastHasSlash] at hslash
      rcases stretch_added hn hp hother here names with ⟨hsame, hne⟩ | ⟨hs, hs'⟩ | ⟨code, hs⟩
      · rw [hsame]
        rcases hs : t.stretch here true false names with result | ⟨here', target, rest⟩
        · simp only [hs] at hw
          exact absurd (hs.trans (congrArg _ hw)) hne
        · by_cases htarget : target.isEmpty
          · simp [hs, htarget] at hw
          · simp only [hs, htarget, Bool.false_eq_true, if_false, Bool.false_or, Bool.not_false,
              Bool.true_and] at hw hslash ⊢
            exact ih hw hslash
      · rw [hs']
      · simp [hs] at hw

end Added

section Unfollowed

/-- To leave a link in last place alone makes no difference unless there is one. -/
theorem stretch_unfollowed (t : FileTree) (here : Place) (directory : Bool) (names : List String) :
    t.stretch here false directory names = t.stretch here true directory names ∨
      ∃ p target, t.stretch here false directory names = .ended (.ok ⟨p, some (.link target)⟩) := by
  induction names generalizing here with
  | nil => exact .inl rfl
  | cons name names ih =>
    simp only [stretch]
    by_cases hdot : name = "."
    · simpa only [hdot, if_true] using ih here
    by_cases hup : name = ".."
    · simpa [hdot, hup] using ih here.dropLast
    by_cases hlong : maxNameBytes < name.utf8ByteSize
    · simp [hdot, hup, hlong]
    simp only [hdot, hup, hlong, if_false]
    rcases t.node? (here ++ [name]) with _ | ⟨_ | target | k⟩
    · exact .inl rfl
    · exact ih _
    · cases hlast : names.isEmpty && !directory with
      | true => exact .inr ⟨here ++ [name], target, by simp⟩
      | false => exact .inl (by simp)
    · exact .inl rfl

theorem walk_unfollowed {n : Nat}
    (hw : t.walk links here true directory names = .ok ⟨p, some (.file n)⟩) :
    ∃ q node, t.walk links here false directory names = .ok ⟨q, some node⟩ ∧ node ≠ .directory := by
  induction links generalizing here directory names with
  | zero =>
    rw [walk] at hw ⊢
    rcases stretch_unfollowed t here directory names with hs | ⟨q, target, hs⟩
    · rw [hs]
      exact ⟨p, .file n, hw, by simp⟩
    · rw [hs]
      exact ⟨q, .link target, rfl, by simp⟩
  | succ links ih =>
    rw [walk] at hw ⊢
    rcases stretch_unfollowed t here directory names with hs | ⟨q, target, hs⟩
    · rw [hs]
      rcases hs' : t.stretch here true directory names with result | ⟨here', target, rest⟩
      · simp only [hs'] at hw
        exact ⟨p, .file n, hw, by simp⟩
      · by_cases htarget : target.isEmpty
        · simp [hs', htarget] at hw
        · simp only [hs', htarget, Bool.false_eq_true, if_false] at hw ⊢
          exact ih hw
    · rw [hs]
      exact ⟨q, .link target, rfl, by simp⟩

end Unfollowed

section Erased

/-- Nothing stands where the way ends. -/
def IsVacant (result : Except Int Target) : Prop :=
  ∀ target, result = .ok target → target.node = none

theorem isVacant_error (code : Int) : IsVacant (.error code) := fun _ h => by cases h

/-- A way either comes by the place that was emptied, or goes on as before. -/
theorem stretch_erased (hp : t'.node? p = none) (hother : ∀ q ≠ p, t'.node? q = t.node? q)
    (here : Place) (directory : Bool) (names : List String) :
    (∃ result, t'.stretch here true directory names = .ended result ∧ IsVacant result) ∨
    (t'.stretch here true directory names = t.stretch here false directory names ∧
      ∀ node, t.stretch here false directory names = .ended (.ok ⟨p, some node⟩) →
        node = .directory) ∨
    ∃ q target, q ≠ p ∧ t.stretch here false directory names =
      .ended (.ok ⟨q, some (.link target)⟩) := by
  induction names generalizing here with
  | nil =>
    refine .inr (.inl ⟨rfl, fun node h => ?_⟩)
    cases h
    rfl
  | cons name names ih =>
    simp only [stretch]
    by_cases hdot : name = "."
    · simpa only [hdot, if_true] using ih here
    by_cases hup : name = ".."
    · simpa [hdot, hup] using ih here.dropLast
    by_cases hlong : maxNameBytes < name.utf8ByteSize
    · simp [hdot, hup, hlong]
    simp only [hdot, hup, hlong, if_false]
    -- This is the only place at which the trees differ.
    by_cases hplace : here ++ [name] = p
    · rw [hplace, hp]
      refine .inl ⟨_, rfl, ?_⟩
      cases names with
      | nil =>
        intro target ht
        rw [← Except.ok.inj ht]
      | cons => exact isVacant_error _
    · rw [hother _ hplace]
      rcases t.node? (here ++ [name]) with _ | ⟨_ | target | k⟩
      · exact .inr (.inl ⟨rfl, fun node h => by cases names <;> simp at h⟩)
      · exact ih _
      · cases hlast : names.isEmpty && !directory with
        | true => exact .inr (.inr ⟨_, target, hplace, by simp⟩)
        | false => exact .inr (.inl ⟨by simp, fun node h => by simp at h⟩)
      · refine .inr (.inl ⟨rfl, fun node h => ?_⟩)
        dsimp only at h
        split at h <;> simp [hplace] at h

theorem walk_erased {node : Node} (hp : t'.node? p = none)
    (hother : ∀ q ≠ p, t'.node? q = t.node? q)
    (hw : t.walk links here false directory names = .ok ⟨p, some node⟩)
    (hnode : node ≠ .directory) :
    IsVacant (t'.walk links here true directory names) := by
  induction links generalizing here directory names with
  | zero =>
    rw [walk] at hw ⊢
    rcases stretch_erased hp hother here directory names with ⟨result, hs, hv⟩ | ⟨hs, hdir⟩ |
      ⟨q, target, hq, hs⟩
    · rwa [hs]
    · rw [hs]
      rcases hs' : t.stretch here false directory names with result | ⟨here', target, rest⟩
      · simp only [hs'] at hw
        exact absurd (hdir node (hs'.trans (congrArg _ hw))) hnode
      · exact isVacant_error _
    · simp [hs, hq] at hw
  | succ links ih =>
    rw [walk] at hw ⊢
    rcases stretch_erased hp hother here directory names with ⟨result, hs, hv⟩ | ⟨hs, hdir⟩ |
      ⟨q, target, hq, hs⟩
    · rwa [hs]
    · rw [hs]
      rcases hs' : t.stretch here false directory names with result | ⟨here', target, rest⟩
      · simp only [hs'] at hw
        exact absurd (hdir node (hs'.trans (congrArg _ hw))) hnode
      · by_cases htarget : target.isEmpty
        · simp [hs', htarget] at hw
        · simp only [hs', htarget, Bool.false_eq_true, if_false] at hw ⊢
          exact ih hw
    · simp [hs, hq] at hw

end Erased

section Operations

variable {content : Content} {bytes : Bytes} {place : Place} {number : Nat}

theorem write_eq_ok (h : t.write path content = .ok t') : t.asksForDirectory path = false ∧
    ∃ place, (∃ number mode, t.resolve true path = .ok ⟨place, some (.file number)⟩ ∧
      t' = t.setBody number ⟨content, mode⟩) ∨
      (t.resolve true path = .ok ⟨place, none⟩ ∧ t' = t.addFile place ⟨content, defaultMode⟩) := by
  unfold write at h
  cases hslash : t.asksForDirectory path with
  | true => simp [hslash, fail, bind, Except.bind] at h
  | false =>
    rcases hr : t.resolve true path with e | ⟨place, _ | ⟨_ | target | number⟩⟩
    all_goals simp only [hslash, hr, fail, bind, Except.bind, pure, Except.pure, Bool.false_eq_true,
      if_false, reduceCtorEq, Except.ok.injEq] at h
    · exact ⟨rfl, place, .inr ⟨rfl, h.symm⟩⟩
    · exact ⟨rfl, place, .inl ⟨number, _, rfl, h.symm⟩⟩

theorem lastHasSlash_of_resolve {follow : Bool} {target : Target}
    (hr : t.resolve follow path = .ok target) (h : t.asksForDirectory path = false) :
    t.lastHasSlash maxLinks (startOf t.home path) (Path.endsWithSlash path)
      (steps path) = false := by
  unfold resolve at hr
  split at hr
  · cases hr
  split at hr
  · cases hr
  split at hr
  · cases hr
  · next hnul _ hlong =>
    rw [Nat.not_lt] at hlong
    simp only [asksForDirectory, hnul, hlong, decide_true, Bool.not_false, Bool.true_and] at h
    exact h

theorem read_of_resolve (hr : t.resolve true path = .ok ⟨place, some (.file number)⟩) :
    t.read path = .ok (((t.body? number).map (·.content.toBytes)).getD []) := by
  simp only [read, fileNumber, hr, bind, Except.bind, pure, Except.pure]

theorem read_of_write (h : t.write path content = .ok t') : t'.read path = .ok content.toBytes := by
  obtain ⟨hslash, place, ⟨number, mode, hr, rfl⟩ | ⟨hr, rfl⟩⟩ := write_eq_ok h
  · have hsame := @resolve_congr t (t.setBody number ⟨content, mode⟩) rfl (fun _ => rfl) true path
    rw [read_of_resolve (hsame.trans hr), body?_setBody, if_pos rfl]
    rfl
  · have hnone : t.node? place = none := (node?_of_walk (resolve_eq_ok hr)).resolve_left (by simp)
    have hplace := ne_nil_of_node? hnone (by simp)
    have hwalk : (t.addFile place ⟨content, defaultMode⟩).walk maxLinks (startOf t.home path) true
        (Path.endsWithSlash path) (steps path) = .ok ⟨place, some (.file t.freshNumber)⟩ :=
      walk_added (by simp [node?_addFile hplace]) hnone
        (fun q hq => by simp [node?_addFile hplace, hq])
        (resolve_eq_ok hr) (lastHasSlash_of_resolve hr hslash)
    rw [read_of_resolve (resolve_of_walk hr hwalk), body?_addFile, if_pos rfl]
    rfl

theorem read_eq_ok (h : t.read path = .ok bytes) :
    ∃ place number, t.resolve true path = .ok ⟨place, some (.file number)⟩ := by
  rcases hr : t.resolve true path with e | ⟨place, _ | ⟨_ | target | number⟩⟩
  case ok.some.file => exact ⟨place, number, rfl⟩
  all_goals
    simp only [read, fileNumber, hr, fail, bind, Except.bind] at h
    cases h

theorem pathExists_of_read (h : t.read path = .ok bytes) : t.pathExists path := by
  obtain ⟨place, number, hr⟩ := read_eq_ok h
  simp [pathExists, hr]

theorem readText_of_read {s : String} (h : t.read path = .ok (Text.Utf8.encode s)) :
    t.readText path = .ok s := by
  simp only [readText, h, bind, Except.bind, Text.Utf8.decode?_encode]
  rfl

theorem pathExists_eq_false
    (h : IsVacant (t.walk maxLinks (startOf t.home path) true (Path.endsWithSlash path)
    (steps path))) : t.pathExists path = false := by
  rw [pathExists]
  split
  · next target hr => simp [h target (resolve_eq_ok hr)]
  · rfl

theorem exists_unlink (h : t.read path = .ok bytes) :
    ∃ t', t.unlink path = .ok t' ∧ t'.pathExists path = false := by
  obtain ⟨place, number, hr⟩ := read_eq_ok h
  obtain ⟨q, node, hw, hnode⟩ := walk_unfollowed (resolve_eq_ok hr)
  have hq : q ≠ [] :=
    ne_nil_of_node? ((node?_of_walk hw).resolve_left (by simpa using hnode)) (by simpa using hnode)
  have hunlink : t.unlink path = .ok (t.eraseNode q) := by
    rw [unlink, resolve_of_walk hr hw]
    cases node with
    | directory => exact absurd rfl hnode
    | «link» | file => rfl
  refine ⟨t.eraseNode q, hunlink, pathExists_eq_false ?_⟩
  exact walk_erased (by simp [node?_eraseNode, hq]) (fun r hr => by simp [node?_eraseNode, hq, hr])
    hw hnode

end Operations

end BlocklistSync.FileTree
