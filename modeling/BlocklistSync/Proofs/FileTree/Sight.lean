import BlocklistSync.FileTree.Listing
import BlocklistSync.Proofs.FileTree.Directory

/-! What the single operations on files do to what stands at each place. A new file has a number of
its own, so nothing that was there before changes with it. -/
namespace BlocklistSync.FileTree

variable {t t' : FileTree}

theorem lt_freshNumber {n : Nat} (h : n ∈ t.numbers) : n < t.freshNumber := by
  unfold freshNumber
  generalize t.numbers = ns at h
  induction ns with
  | nil => simp at h
  | cons k ns ih =>
    simp only [List.foldr_cons]
    rcases List.mem_cons.mp h with rfl | h
    · omega
    · have := ih h
      omega

theorem lt_freshNumber_of_node? {p : Place} {n : Nat} (h : t.node? p = some (.file n)) :
    n < t.freshNumber := by
  unfold node? at h
  split at h
  · simp at h
  · exact lt_freshNumber (List.mem_append_left _
      (List.mem_filterMap.mpr ⟨(p, .file n), Keyed.mem_of_get? h, rfl⟩))

theorem node?_ne_freshNumber (p : Place) : t.node? p ≠ some (.file t.freshNumber) :=
  fun h => Nat.lt_irrefl _ (lt_freshNumber_of_node? h)

theorem node?_addFile {p : Place} (hp : p ≠ []) (b : FileBody) (q : Place) :
    (t.addFile p b).node? q = if q = p then some (.file t.freshNumber) else t.node? q := by
  simp [addFile, node?_setNode, hp]

theorem body?_addFile (p : Place) (b : FileBody) (k : Nat) :
    (t.addFile p b).body? k = if k = t.freshNumber then some b else t.body? k := by
  rw [addFile, body?_setBody]
  rfl

@[simp] theorem home_eraseNode (p : Place) : (t.eraseNode p).home = t.home := rfl

@[simp] theorem body?_eraseNode (p : Place) (k : Nat) : (t.eraseNode p).body? k = t.body? k := rfl

theorem listedKind_congr {node : Node} (h : ∀ k, node = .file k → t'.body? k = t.body? k) :
    t'.listedKind node = t.listedKind node := by
  rcases node with _ | target | k
  · rfl
  · rfl
  · simp [listedKind, h k rfl]

theorem sight?_congr {p : Place} (hn : t'.node? p = t.node? p)
    (hb : ∀ k, t.node? p = some (.file k) → t'.body? k = t.body? k) : t'.sight? p = t.sight? p := by
  rw [sight?, sight?, hn]
  rcases hp : t.node? p with _ | node
  · rfl
  · exact congrArg some (listedKind_congr fun k hk => hb k (hk ▸ hp))

theorem sight?_file {p : Place} {k : Nat} {b : FileBody} (hn : t.node? p = some (.file k))
    (hb : t.body? k = some b) : t.sight? p = some (.file b.mode b.content.toBytes) := by
  simp [sight?, hn, listedKind, hb]

theorem sight?_eq_none {p : Place} (h : t.node? p = none) : t.sight? p = none := by simp [sight?, h]

theorem sight?_addFile_of_ne {p q : Place} (hp : p ≠ []) (b : FileBody) (hq : q ≠ p) :
    (t.addFile p b).sight? q = t.sight? q := by
  apply sight?_congr
  · simp [node?_addFile hp, hq]
  · intro k hk
    have hne : k ≠ t.freshNumber := fun he => node?_ne_freshNumber q (he ▸ hk)
    simp [body?_addFile, hne]

/-- The place that a path leads to, links in last place not followed. -/
def place? (t : FileTree) (path : String) : Option Place :=
  (t.resolve false path).toOption.map (·.place)

theorem place?_of_resolve {path : String} {target : Target}
    (h : t.resolve false path = .ok target) :
    t.place? path = some target.place := by simp [place?, h, Except.toOption]

theorem place?_of_covers (h : Covers t t') {path : String} {target : Target}
    (hr : t'.resolve false path = .ok target) : t.place? path = some target.place := by
  obtain ⟨p, n⟩ := target
  have hw := resolve_eq_ok hr
  rw [h.home] at hw
  obtain ⟨m, hm, -⟩ := walk_of_covers h hw (.inl rfl)
  have hresolved : t.resolve false path = .ok ⟨p, m⟩ := by
    unfold resolve at hr ⊢
    simp only [hm]
    split at hr
    · simp at hr
    split at hr
    · simp at hr
    split at hr
    · simp at hr
    · simp_all
  exact (place?_of_resolve hresolved).trans rfl

theorem rename_eq_ok {place : Place} {path : String} (h : t.rename place path = .ok t') :
    ∃ target node, t.resolve false path = .ok target ∧ endsInName path = true ∧
      Path.endsWithSlash path = false ∧ target.node ≠ some .directory ∧ t.node? place = some node ∧
      t' = if target.place = place then t else (t.eraseNode place).setNode target.place node := by
  unfold rename at h
  rcases hr : t.resolve false path with e | target
  · simp [hr, bind, Except.bind] at h
  · simp only [hr, bind, Except.bind] at h
    split at h
    · simp [fail] at h
    · next hname =>
      split at h
      · simp [fail] at h
      · next hslash =>
        split at h
        · simp [fail] at h
        · next hdir =>
          split at h
          · next node hnode =>
            refine ⟨target, node, rfl, by simpa using hname, by simpa using hslash, hdir, hnode, ?_⟩
            exact (Except.ok.inj h).symm
          · simp [fail] at h

/-- The file `n`, and nothing else, has gone from `p` to `q`. -/
structure Moved (t : FileTree) (p q : Place) (n : Nat) (t' : FileTree) : Prop where
  home : t'.home = t.home
  node : ∀ r, t'.node? r = if r = q then some (.file n) else if r = p then none else t.node? r
  body : ∀ k, t'.body? k = t.body? k

theorem moved {p q : Place} {n : Nat} (hp : p ≠ []) (hq : q ≠ []) :
    Moved t p q n ((t.eraseNode p).setNode q (.file n)) where
  home := rfl
  node r := by rw [node?_setNode _ _ _ _ hq, node?_eraseNode _ _ _ hp]
  body _ := rfl

end BlocklistSync.FileTree
