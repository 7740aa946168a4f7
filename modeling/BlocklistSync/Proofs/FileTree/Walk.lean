import BlocklistSync.Proofs.FileTree.Names

/-! Where a path leads depends on the directories and links of the tree alone: putting files at
places where no directory is can stop a walk short, but cannot send it elsewhere. A path into a
directory leads to the entry of that name in it. -/
namespace BlocklistSync.FileTree

/-- The second tree is the first with files put at places that held no directory. -/
structure Covers (t t' : FileTree) : Prop where
  home : t'.home = t.home
  node : ∀ p, t'.node? p = t.node? p ∨
    (∃ n, t'.node? p = some (.file n)) ∧ t.node? p ≠ some .directory

variable {t t' : FileTree}

theorem stretch_congr (h : ∀ p, t'.node? p = t.node? p) (here : Place) (follow directory : Bool)
    (names : List String) :
    t'.stretch here follow directory names = t.stretch here follow directory names := by
  induction names generalizing here with
  | nil => rfl
  | cons name rest ih => simp only [stretch, ih, h]

theorem walk_congr (h : ∀ p, t'.node? p = t.node? p) (links : Nat) (here : Place)
    (follow directory : Bool) (names : List String) :
    t'.walk links here follow directory names = t.walk links here follow directory names := by
  induction links generalizing here directory names with
  | zero => rw [walk, walk, stretch_congr h]
  | succ links ih =>
    rw [walk, walk, stretch_congr h]
    simp only [ih]

theorem resolve_congr (hh : t'.home = t.home) (h : ∀ p, t'.node? p = t.node? p) (follow : Bool)
    (path : String) :
    t'.resolve follow path = t.resolve follow path := by
  rw [resolve, resolve, hh, walk_congr h]

theorem stretch_link_of_covers (h : Covers t t') {here : Place} {follow directory : Bool}
    {names : List String} {here' : Place} {target : String} {rest : List String}
    (hs : t'.stretch here follow directory names = .link here' target rest) :
    t.stretch here follow directory names = .link here' target rest := by
  induction names generalizing here with
  | nil => simp [stretch] at hs
  | cons name names ih =>
    simp only [stretch] at hs ⊢
    by_cases hdot : name = "."
    · simp only [hdot, if_true] at hs ⊢
      exact ih hs
    by_cases hup : name = ".."
    · simp only [hup] at hs ⊢
      exact ih hs
    by_cases hlong : maxNameBytes < name.utf8ByteSize
    · simp [hdot, hup, hlong] at hs
    simp only [hdot, hup, hlong, if_false] at hs ⊢
    rcases h.node (here ++ [name]) with hsame | ⟨⟨n, hfile⟩, -⟩
    · rw [← hsame]
      rcases hn : t'.node? (here ++ [name]) with _ | ⟨_ | link | n⟩
      · simp [hn] at hs
      · simp only [hn] at hs ⊢
        exact ih hs
      · simpa only [hn] using hs
      · simp [hn] at hs
    · simp [hfile] at hs

/-- The walk ends at the same place, if it does not follow a link there that a file took the place
of. -/
theorem stretch_ok_of_covers (h : Covers t t') {here : Place} {follow directory : Bool}
    {names : List String} {p : Place} {n : Option Node}
    (hs : t'.stretch here follow directory names = .ended (.ok ⟨p, n⟩))
    (hf : follow = false ∨ n = some .directory) :
    ∃ m, t.stretch here follow directory names = .ended (.ok ⟨p, m⟩) ∧
      (n = some .directory → m = some .directory) := by
  induction names generalizing here with
  | nil =>
    simp only [stretch, Stretch.ended.injEq, Except.ok.injEq, Target.mk.injEq] at hs ⊢
    exact ⟨_, ⟨hs.1, rfl⟩, fun _ => rfl⟩
  | cons name names ih =>
    simp only [stretch] at hs ⊢
    by_cases hdot : name = "."
    · simp only [hdot, if_true] at hs ⊢
      exact ih hs
    by_cases hup : name = ".."
    · simp only [hup] at hs ⊢
      exact ih hs
    by_cases hlong : maxNameBytes < name.utf8ByteSize
    · simp [hdot, hup, hlong] at hs
    simp only [hdot, hup, hlong, if_false] at hs ⊢
    -- The trees agree at this place, or a file took the place of what is no directory.
    rcases h.node (here ++ [name]) with hsame | ⟨⟨k, hfile⟩, hdir⟩
    · rw [← hsame]
      rcases hn : t'.node? (here ++ [name]) with _ | ⟨_ | link | k⟩
      · simp only [hn] at hs ⊢
        exact ⟨n, hs, id⟩
      · simp only [hn] at hs ⊢
        exact ih hs
      · simp only [hn] at hs ⊢
        exact ⟨n, hs, id⟩
      · simp only [hn] at hs ⊢
        exact ⟨n, hs, id⟩
    · simp only [hfile] at hs
      split at hs
      · next hlast =>
        simp only [Stretch.ended.injEq, Except.ok.injEq, Target.mk.injEq] at hs
        obtain ⟨rfl, rfl⟩ := hs
        simp only [Bool.and_eq_true, Bool.not_eq_eq_eq_not, Bool.not_true] at hlast
        have hfollow : follow = false := by simpa using hf
        rcases hn : t.node? (here ++ [name]) with _ | ⟨_ | link | k'⟩
        · exact ⟨none, by simp [hlast.1]⟩
        · exact absurd hn hdir
        · exact ⟨some (.link link), by simp [hlast.1, hlast.2, hfollow]⟩
        · exact ⟨some (.file k'), by simp [hlast.1, hlast.2]⟩
      · simp at hs

theorem walk_of_covers (h : Covers t t') {links : Nat} {here : Place} {follow directory : Bool}
    {names : List String} {p : Place} {n : Option Node}
    (hw : t'.walk links here follow directory names = .ok ⟨p, n⟩)
    (hf : follow = false ∨ n = some .directory) :
    ∃ m, t.walk links here follow directory names = .ok ⟨p, m⟩ ∧
      (n = some .directory → m = some .directory) := by
  induction links generalizing here directory names with
  | zero =>
    rw [walk] at hw ⊢
    rcases hs : t'.stretch here follow directory names with result | ⟨here', target, rest⟩
    · simp only [hs] at hw
      subst hw
      obtain ⟨m, hm, hd⟩ := stretch_ok_of_covers h hs hf
      exact ⟨m, by rw [hm], hd⟩
    · simp [hs] at hw
  | succ links ih =>
    rw [walk] at hw ⊢
    rcases hs : t'.stretch here follow directory names with result | ⟨here', target, rest⟩
    · simp only [hs] at hw
      subst hw
      obtain ⟨m, hm, hd⟩ := stretch_ok_of_covers h hs hf
      exact ⟨m, by rw [hm], hd⟩
    · simp only [hs] at hw
      simp only [stretch_link_of_covers h hs]
      split at hw
      · simp at hw
      · next htarget =>
        simp only [htarget, Bool.false_eq_true, if_false]
        exact ih hw

end BlocklistSync.FileTree
