import BlocklistSync.Proofs.FileTree.Sight

/-! The places that a walk along a path looks at. A path leads where it did, and its file reads as
it did, as long as nothing has changed at any of these places; and a file that is put at its last
place is what it leads to then, if nothing has changed on the way to that place. -/
namespace BlocklistSync.FileTree

/-- The places that are looked at up to the first link. -/
def stretchTrail (t : FileTree) (here : Place) : List String → List Place
  | [] => []
  | name :: rest =>
    if name = "." then stretchTrail t here rest
    else if name = ".." then stretchTrail t here.dropLast rest
    else if maxNameBytes < name.utf8ByteSize then []
    else
      (here ++ [name]) :: match t.node? (here ++ [name]) with
        | some .directory => stretchTrail t (here ++ [name]) rest
        | _ => []

def walkTrail (t : FileTree) (links : Nat) (here : Place) (follow directory : Bool)
    (names : List String) :
    List Place :=
  t.stretchTrail here names ++ match t.stretch here follow directory names with
    | .ended _ => []
    | .link here target rest =>
      match links with
      | 0 => []
      | links + 1 =>
        if target.isEmpty then []
        else
          walkTrail t links (startOf here target) follow
            (directory || (rest.isEmpty && Path.endsWithSlash target)) (steps target ++ rest)

def trail (t : FileTree) (follow : Bool) (path : String) : List Place :=
  t.walkTrail maxLinks (startOf t.home path) follow (Path.endsWithSlash path) (steps path)

/-- Those on the way to the directory that the last name of the path is in. -/
def approach (t : FileTree) (path : String) : List Place :=
  t.walkTrail maxLinks (startOf t.home path) true true (steps path).dropLast

variable {t t' : FileTree} {here : Place} {follow directory : Bool} {names : List String}
  {links : Nat}

section Same

theorem stretch_of_trail (h : ∀ p ∈ t.stretchTrail here names, t'.node? p = t.node? p) :
    t'.stretch here follow directory names = t.stretch here follow directory names := by
  induction names generalizing here with
  | nil => rfl
  | cons name names ih =>
    rw [stretchTrail] at h
    rw [stretch, stretch]
    by_cases hdot : name = "."
    · rw [if_pos hdot] at h
      rw [if_pos hdot, if_pos hdot, ih h]
    by_cases hup : name = ".."
    · rw [if_neg hdot, if_pos hup] at h
      rw [if_neg hdot, if_neg hdot, if_pos hup, if_pos hup, ih h]
    by_cases hlong : maxNameBytes < name.utf8ByteSize
    · simp only [hdot, hup, hlong, if_true, if_false]
    · simp only [hdot, hup, hlong, if_false, List.forall_mem_cons] at h ⊢
      rw [h.1]
      rcases hn : t.node? (here ++ [name]) with _ | ⟨_ | target | n⟩
      · rfl
      · simp only [hn] at h
        exact ih h.2
      · rfl
      · rfl

theorem walk_of_trail (h : ∀ p ∈ t.walkTrail links here follow directory names,
    t'.node? p = t.node? p) :
    t'.walk links here follow directory names = t.walk links here follow directory names := by
  induction links generalizing here directory names with
  | zero =>
    rw [walkTrail] at h
    rw [walk, walk, stretch_of_trail fun p hp => h p (List.mem_append_left _ hp)]
  | succ links ih =>
    rw [walkTrail] at h
    rw [walk, walk, stretch_of_trail fun p hp => h p (List.mem_append_left _ hp)]
    rcases hs : t.stretch here follow directory names with result | ⟨here', target, rest⟩
    · rfl
    · by_cases htarget : target.isEmpty
      · simp only [htarget, if_true]
      · simp only [hs, htarget, Bool.false_eq_true, if_false] at h ⊢
        exact ih fun p hp => h p (List.mem_append_right _ hp)

theorem resolve_of_trail {path : String} (hh : t'.home = t.home)
    (h : ∀ p ∈ t.trail follow path, t'.node? p = t.node? p) :
    t'.resolve follow path = t.resolve follow path := by
  rw [resolve, resolve, hh, walk_of_trail h]

end Same

section Found

theorem mem_stretchTrail_of_file {p : Place} {n : Nat}
    (h : t.stretch here follow directory names = .ended (.ok ⟨p, some (.file n)⟩)) :
    p ∈ t.stretchTrail here names ∧ t.node? p = some (.file n) := by
  induction names generalizing here with
  | nil => simp [stretch] at h
  | cons name names ih =>
    rw [stretch] at h
    rw [stretchTrail]
    by_cases hdot : name = "."
    · rw [if_pos hdot] at h ⊢
      exact ih h
    by_cases hup : name = ".."
    · rw [if_neg hdot, if_pos hup] at h ⊢
      exact ih h
    by_cases hlong : maxNameBytes < name.utf8ByteSize
    · simp [hdot, hup, hlong] at h
    · simp only [hdot, hup, hlong, if_false] at h ⊢
      rcases hn : t.node? (here ++ [name]) with _ | ⟨_ | target | m⟩
      · cases hr : names.isEmpty <;> simp [hn, hr] at h
      · simp only [hn] at h ⊢
        exact ⟨List.mem_cons_of_mem _ (ih h).1, (ih h).2⟩
      · simp only [hn] at h
        split at h <;> simp at h
      · simp only [hn] at h
        split at h
        · obtain ⟨rfl, rfl⟩ : here ++ [name] = p ∧ m = n := by simpa using h
          exact ⟨List.mem_cons_self, hn⟩
        · simp at h

theorem mem_walkTrail_of_file {p : Place} {n : Nat}
    (h : t.walk links here follow directory names = .ok ⟨p, some (.file n)⟩) :
    p ∈ t.walkTrail links here follow directory names ∧ t.node? p = some (.file n) := by
  induction links generalizing here directory names with
  | zero =>
    rw [walk] at h
    rw [walkTrail]
    rcases hs : t.stretch here follow directory names with result | ⟨here', target, rest⟩
    · simp only [hs] at h
      obtain ⟨hm, hn⟩ := mem_stretchTrail_of_file (h ▸ hs)
      exact ⟨List.mem_append_left _ hm, hn⟩
    · simp [hs] at h
  | succ links ih =>
    rw [walk] at h
    rw [walkTrail]
    rcases hs : t.stretch here follow directory names with result | ⟨here', target, rest⟩
    · simp only [hs] at h
      obtain ⟨hm, hn⟩ := mem_stretchTrail_of_file (h ▸ hs)
      exact ⟨List.mem_append_left _ hm, hn⟩
    · simp only [hs] at h ⊢
      by_cases htarget : target.isEmpty
      · simp [htarget] at h
      · simp only [htarget, Bool.false_eq_true, if_false] at h ⊢
        obtain ⟨hm, hn⟩ := ih h
        exact ⟨List.mem_append_right _ hm, hn⟩

theorem exists_sight?_of_file {p : Place} {n : Nat} (h : t.node? p = some (.file n)) :
    ∃ mode, t.sight? p = some (.file mode (((t.body? n).map (·.content.toBytes)).getD [])) := by
  rw [sight?, h, Option.map_some, listedKind]
  cases t.body? n with
  | none => exact ⟨_, rfl⟩
  | some b => exact ⟨_, rfl⟩

theorem read_of_sight? {path : String} {p : Place} {n mode : Nat} {bytes : Bytes}
    (hr : t.resolve true path = .ok ⟨p, some (.file n)⟩) (hn : t.node? p = some (.file n))
    (hs : t.sight? p = some (.file mode bytes)) : t.read path = .ok bytes := by
  obtain ⟨mode', hs'⟩ := exists_sight?_of_file hn
  obtain ⟨-, rfl⟩ : mode = mode' ∧ bytes = _ := by simpa [hs] using hs'
  simp only [read, fileNumber, hr, bind, Except.bind, pure, Except.pure]

theorem read_of_trail {path : String} (hh : t'.home = t.home)
    (h : ∀ p ∈ t.trail true path, t'.node? p = t.node? p ∧ t'.sight? p = t.sight? p) :
    t'.read path = t.read path := by
  have hr := resolve_of_trail hh fun p hp => (h p hp).1
  rcases ht : t.resolve true path with e | ⟨p, _ | ⟨_ | target | n⟩⟩
  case ok.some.file =>
    obtain ⟨hp, hn⟩ := mem_walkTrail_of_file (resolve_eq_ok ht)
    obtain ⟨mode, hs⟩ := exists_sight?_of_file hn
    rw [read_of_sight? ht hn hs, read_of_sight? (hr.trans ht) ((h p hp).1.trans hn)
      ((h p hp).2.trans hs)]
  all_goals
    rw [read, read, fileNumber, fileNumber, hr, ht]
    rfl

end Found

section Approach

theorem mem_stretchTrail_append {p : Place} (more : List String)
    (h : p ∈ t.stretchTrail here names) :
    p ∈ t.stretchTrail here (names ++ more) := by
  induction names generalizing here with
  | nil => simp [stretchTrail] at h
  | cons name names ih =>
    rw [stretchTrail] at h
    rw [List.cons_append, stretchTrail]
    by_cases hdot : name = "."
    · rw [if_pos hdot] at h ⊢
      exact ih h
    by_cases hup : name = ".."
    · rw [if_neg hdot, if_pos hup] at h ⊢
      exact ih h
    by_cases hlong : maxNameBytes < name.utf8ByteSize
    · simp [hdot, hup, hlong] at h
    · simp only [hdot, hup, hlong, if_false] at h ⊢
      rcases List.mem_cons.mp h with rfl | h
      · exact List.mem_cons_self
      · refine List.mem_cons_of_mem _ ?_
        rcases hn : t.node? (here ++ [name]) with _ | ⟨_ | target | n⟩
        · simp [hn] at h
        · simp only [hn] at h ⊢
          exact ih h
        · simp [hn] at h
        · simp [hn] at h

theorem mem_walkTrail_snoc {p : Place} {name : String}
    (h : p ∈ t.walkTrail links here true true names) :
    p ∈ t.walkTrail links here true directory (names ++ [name]) := by
  induction links generalizing here directory names with
  | zero =>
    rw [walkTrail] at h ⊢
    rcases List.mem_append.mp h with h | h
    · exact List.mem_append_left _ (mem_stretchTrail_append _ h)
    · split at h <;> simp at h
  | succ links ih =>
    rw [walkTrail] at h ⊢
    rcases List.mem_append.mp h with h | h
    · exact List.mem_append_left _ (mem_stretchTrail_append _ h)
    · refine List.mem_append_right _ ?_
      rw [stretch_snoc]
      rcases hs : t.stretch here true true names with result | ⟨here', target, rest⟩
      · simp [hs] at h
      · by_cases htarget : target.isEmpty
        · simp [hs, htarget] at h
        · simp only [hs, htarget, Bool.false_eq_true, if_false, Bool.true_or] at h ⊢
          rw [← List.append_assoc]
          exact ih h

theorem mem_trail_of_approach {p : Place} {path : String} (h : p ∈ t.approach path) :
    p ∈ t.trail true path := by
  unfold approach at h
  unfold trail
  rcases List.eq_nil_or_concat (steps path) with hs | ⟨names, name, hs⟩
  · rw [hs, List.dropLast_nil, walkTrail] at h
    simp [stretchTrail, stretch] at h
  · rw [List.concat_eq_append] at hs
    rw [hs, List.dropLast_concat] at h
    rw [hs]
    exact mem_walkTrail_snoc h

theorem entry_eq_ok {d : Place} {name : String} {target : Target}
    (h : t.entry d name = .ok target) :
    ¬ maxNameBytes < name.utf8ByteSize ∧ target.place = d ++ [name] := by
  unfold entry at h
  split at h
  · cases h
  · next hlong => exact ⟨hlong, (congrArg Target.place (Except.ok.inj h)).symm⟩

/-- What the text of a path alone rules out does not depend on the tree. -/
theorem resolve_of_walk {follow' : Bool} {path : String} {target target' : Target}
    (hr : t.resolve follow path = .ok target)
    (hw : t'.walk maxLinks (startOf t'.home path) follow' (Path.endsWithSlash path) (steps path) =
      .ok target') :
    t'.resolve follow' path = .ok target' := by
  unfold resolve at hr ⊢
  simp only [hw]
  split at hr
  · cases hr
  split at hr
  · cases hr
  split at hr
  · cases hr
  · simp_all

/-- A file in last place is found whatever was there before, be it a link. -/
theorem resolve_of_approach {path : String} {target : Target} {n : Nat} (hname : endsInName path)
    (hslash : Path.endsWithSlash path = false) (hr : t.resolve false path = .ok target)
    (hh : t'.home = t.home) (h : ∀ p ∈ t.approach path, t'.node? p = t.node? p)
    (hn : t'.node? target.place = some (.file n)) :
    t'.resolve true path = .ok ⟨target.place, some (.file n)⟩ := by
  obtain ⟨name, hl⟩ : ∃ name, (steps path).getLast? = some name := by
    rcases hl : (steps path).getLast? with _ | name
    · simp [endsInName, hl] at hname
    · exact ⟨name, rfl⟩
  obtain ⟨names, hsteps⟩ := List.getLast?_eq_some_iff.mp hl
  obtain ⟨hdot, hup⟩ : name ≠ "." ∧ name ≠ ".." := by simpa [endsInName, hl] using hname
  obtain ⟨d, hd, -⟩ := walk_eq_entry hdot hup hsteps hslash hr
  have hentry : t.entry d name = .ok target := by
    have hw := resolve_eq_ok hr
    rw [hslash, hsteps, walk_snoc hdot hup (.inl rfl), hd] at hw
    exact hw
  obtain ⟨hlong, hplace⟩ := entry_eq_ok hentry
  rw [hplace] at hn ⊢
  rw [approach, hsteps, List.dropLast_concat] at h
  have hd' := (walk_of_trail h).trans hd
  refine resolve_of_walk hr ?_
  rw [hh, hslash, hsteps, walk_snoc hdot hup (.inr fun d' hw link hlink => ?_), hd']
  · simp only [entry, hlong, if_false]
    rw [hn]
  · obtain rfl : d = d' := by simpa using hd'.symm.trans hw
    rw [hn] at hlink
    cases hlink

end Approach

end BlocklistSync.FileTree
