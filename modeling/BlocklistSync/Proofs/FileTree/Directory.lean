import BlocklistSync.Proofs.FileTree.Walk

/-! A path that ends in a name leads to the entry of that name in the directory that the names
before it lead to, whatever links there are on the way to that directory. -/
namespace BlocklistSync.FileTree

variable {t t' : FileTree}

/-- The directory that a path leads to; the empty path leads to where relative paths start. -/
def directory? (t : FileTree) (path : String) : Option Place :=
  match t.walk maxLinks (startOf t.home path) true true (steps path) with
  | .ok ⟨place, some .directory⟩ => some place
  | _ => none

theorem directory?_eq_some {path : String} {d : Place} : t.directory? path = some d ↔
    t.walk maxLinks (startOf t.home path) true true (steps path) = .ok ⟨d, some .directory⟩ := by
  unfold directory?
  split
  · next hw => simp [hw]
  · next hw =>
    constructor
    · simp
    · exact fun h => absurd h (hw d)

theorem directory?_of_covers (h : Covers t t') {path : String} {d : Place}
    (hd : t'.directory? path = some d) : t.directory? path = some d := by
  rw [directory?_eq_some] at hd ⊢
  rw [h.home] at hd
  obtain ⟨m, hm, hdir⟩ := walk_of_covers h hd (.inr rfl)
  rw [hm, hdir rfl]

/-- The entry of a directory, where one may be made if there is none. -/
def entry (t : FileTree) (d : Place) (name : String) : Except Int Target :=
  if maxNameBytes < name.utf8ByteSize then .error SystemError.nameTooLong
  else .ok ⟨d ++ [name], t.node? (d ++ [name])⟩

theorem stretch_singleton {name : String} (hdot : name ≠ ".") (hup : name ≠ "..") {follow : Bool}
    {d : Place} (hl : follow = false ∨ ∀ target, t.node? (d ++ [name]) ≠ some (.link target)) :
    t.stretch d follow false [name] = .ended (t.entry d name) := by
  simp only [stretch, entry, hdot, hup, if_false]
  split
  · rfl
  · rcases hn : t.node? (d ++ [name]) with _ | ⟨_ | target | n⟩
    · simp
    · simp
    · have hf : follow = false := by simpa [hn] using hl
      simp [hf]
    · simp

theorem stretch_snoc (t : FileTree) (name : String) (here : Place) (follow directory : Bool)
    (names : List String) :
    t.stretch here follow directory (names ++ [name]) = match t.stretch here true true names with
      | .link here' target rest => .link here' target (rest ++ [name])
      | .ended (.ok ⟨d, some .directory⟩) => t.stretch d follow directory [name]
      | .ended (.ok _) => .ended (.error SystemError.notFound)
      | .ended (.error e) => .ended (.error e) := by
  induction names generalizing here with
  | nil => rfl
  | cons x names ih =>
    rw [List.cons_append, stretch]
    conv => rhs; rw [stretch]
    by_cases hdot : x = "."
    · simp only [hdot, if_true, ih]
    by_cases hup : x = ".."
    · simp only [hup, ih]
      simp
    by_cases hlong : maxNameBytes < x.utf8ByteSize
    · simp [hdot, hup, hlong]
    simp only [hdot, hup, hlong, if_false]
    rcases hn : t.node? (here ++ [x]) with _ | ⟨_ | target | n⟩
    · cases names <;> simp
    · exact ih _
    · simp
    · simp

/-- The walk along a path into a directory is the walk to the directory, then one look at the
entry. -/
theorem walk_snoc {name : String} (hdot : name ≠ ".") (hup : name ≠ "..") {follow : Bool}
    {links : Nat} {here : Place} {names : List String}
    (hl : follow = false ∨ ∀ d, t.walk links here true true names = .ok ⟨d, some .directory⟩ →
      ∀ target, t.node? (d ++ [name]) ≠ some (.link target)) :
    t.walk links here follow false (names ++ [name]) = match t.walk links here true true names with
      | .ok ⟨d, some .directory⟩ => t.entry d name
      | .ok _ => .error SystemError.notFound
      | .error e => .error e := by
  induction links generalizing here names with
  | zero =>
    rw [walk] at hl ⊢
    rw [walk, stretch_snoc]
    rcases hs : t.stretch here true true names with (e | ⟨d, _ | ⟨_ | target | n⟩⟩) |
      ⟨here', target, rest⟩
    all_goals simp only [hs] at hl ⊢
    rw [stretch_singleton hdot hup (hl.imp id fun h => h d rfl)]
  | succ links ih =>
    rw [walk] at hl ⊢
    rw [walk, stretch_snoc]
    rcases hs : t.stretch here true true names with (e | ⟨d, _ | ⟨_ | target | n⟩⟩) |
      ⟨here', target, rest⟩
    all_goals simp only [hs] at hl ⊢
    · rw [stretch_singleton hdot hup (hl.imp id fun h => h d rfl)]
    · by_cases ht : target.isEmpty
      · simp [ht]
      · have hmore : (rest ++ [name]).isEmpty = false := by cases rest <;> rfl
        simp only [ht, hmore, Bool.false_eq_true, if_false, Bool.true_or, Bool.false_and,
          Bool.or_false] at hl ⊢
        rw [← List.append_assoc, ih hl]

theorem resolve_eq_ok {follow : Bool} {path : String} {target : Target}
    (h : t.resolve follow path = .ok target) :
    t.walk maxLinks (startOf t.home path) follow (Path.endsWithSlash path)
      (steps path) = .ok target := by
  unfold resolve at h
  split at h
  · simp at h
  split at h
  · simp at h
  split at h
  · simp at h
  split at h
  · next hw =>
    rw [hw]
    exact congrArg _ (Except.ok.inj h)
  · simp at h

theorem walk_eq_entry {path name : String} {names : List String} (hdot : name ≠ ".")
    (hup : name ≠ "..") (hsteps : steps path = names ++ [name])
    (hslash : Path.endsWithSlash path = false) {target : Target}
    (h : t.resolve false path = .ok target) :
    ∃ d, t.walk maxLinks (startOf t.home path) true true names = .ok ⟨d, some .directory⟩ ∧
      target = ⟨d ++ [name], t.node? (d ++ [name])⟩ := by
  have hw := resolve_eq_ok h
  rw [hslash, hsteps, walk_snoc hdot hup (.inl rfl)] at hw
  split at hw
  · next d hd =>
    refine ⟨d, hd, ?_⟩
    unfold entry at hw
    split at hw
    · simp at hw
    · exact (Except.ok.inj hw).symm
  · simp at hw
  · simp at hw

theorem resolve_join {dir name : String} (hname : IsName name) (hdot : name ≠ ".")
    (hup : name ≠ "..") {target : Target} (h : t.resolve false (Path.join dir name) = .ok target) :
    ∃ d, t.directory? dir = some d ∧ target = ⟨d ++ [name], t.node? (d ++ [name])⟩ := by
  obtain ⟨d, hd, ht⟩ := walk_eq_entry hdot hup (steps_join hname) (endsWithSlash_join hname) h
  rw [startOf_join hname] at hd
  exact ⟨d, directory?_eq_some.mpr hd, ht⟩

theorem resolve_endsInName {path : String} (hname : endsInName path)
    (hslash : Path.endsWithSlash path = false) {target : Target}
    (h : t.resolve false path = .ok target) :
    target.node = t.node? target.place ∧ target.place ≠ [] ∧
      target.place.getLast? = (steps path).getLast? := by
  unfold endsInName at hname
  split at hname
  · next name hl =>
    obtain ⟨names, hsteps⟩ := List.getLast?_eq_some_iff.mp hl
    simp only [ne_eq, decide_not, Bool.and_eq_true, Bool.not_eq_eq_eq_not, Bool.not_true,
      decide_eq_false_iff_not] at hname
    obtain ⟨d, -, rfl⟩ := walk_eq_entry hname.1 hname.2 hsteps hslash h
    exact ⟨rfl, by simp, by simp [hl]⟩
  · simp at hname

end BlocklistSync.FileTree
