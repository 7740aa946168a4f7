import BlocklistSync.Proofs.FileTree.Trail
import BlocklistSync.Proofs.Maps.InDirectory

/-! What those who read the maps while they are written can see. After each single operation a map
is as it was or has its new text, all four texts are staged before the first map changes, and in the
end nothing is left of the staging. -/
namespace BlocklistSync.MapWriter

/-- A place that a temporary file may take. -/
def IsSpare (t : FileTree) (p : Place) : Prop :=
  t.node? p = none ∧ ∃ n, p.getLast? = some (temporaryName n)

variable {t : FileTree} {paths : MapPaths} {maps : CompiledMaps} {faults : Faults} {d : Drafts}
  {s s' : Stage}
  {kinds : List MapKind} {tree : FileTree}

section Recorded

/-- The temporary files have names of their own kind, and the maps that are in place have names at
all. -/
structure Staged (t : FileTree) (paths : MapPaths) (d : Drafts) (s : Stage) : Prop
    extends Drafted t paths d s where
  temporary : ∀ x ∈ s.temporaries, ∃ n, x.2.getLast? = some (temporaryName n)
  ending : ∀ x ∈ d.placed, FileTree.endsInName (paths.get x.1) ∧
    Path.endsWithSlash (paths.get x.1) = false

theorem perform_staged {a : Action} (h : Staged t paths d s)
    (hfree : a.operation = .create → d.pending a.kind = none)
    (hp : perform paths maps s a = .ok s') : Staged t paths (d.advance maps a) s' := by
  refine ⟨perform_drafted h.toDrafted hfree hp, ?_, ?_⟩
  · obtain ⟨operation, kind⟩ := a
    cases operation with
    | create =>
      obtain ⟨p, n, -, -, hn, -, rfl⟩ := perform_create hp
      intro x hx
      rcases List.mem_cons.mp hx with rfl | hx
      · exact ⟨n, hn⟩
      · exact h.temporary x (Keyed.mem_erase.mp hx).1
    | fill | sync | setMode =>
      obtain ⟨p, -, hs⟩ := onTemporary_eq_ok hp
      obtain rfl := Except.ok.inj hs
      exact h.temporary
    | rename =>
      obtain ⟨p, -, hs⟩ := onTemporary_eq_ok hp
      rcases hr : s.tree.rename p (paths.get kind) with e | tree
      · simp [hr, bind, Except.bind] at hs
      · simp only [hr, bind, Except.bind] at hs
        obtain rfl := Except.ok.inj hs
        exact fun x hx => h.temporary x (Keyed.mem_erase.mp hx).1
  · obtain ⟨operation, kind⟩ := a
    cases operation with
    | create | fill | sync | setMode => exact h.ending
    | rename =>
      obtain ⟨p, -, hs⟩ := onTemporary_eq_ok hp
      rcases hr : s.tree.rename p (paths.get kind) with e | tree
      · simp [hr, bind, Except.bind] at hs
      obtain ⟨-, -, -, hname, hslash, -⟩ := FileTree.rename_eq_ok hr
      simp only [Drafts.advance, Drafts.place]
      split
      · intro x hx
        rcases List.mem_cons.mp hx with rfl | hx
        · exact ⟨hname, hslash⟩
        · exact h.ending x hx
      · exact h.ending

/-- A run got as far as it says: the trees are those after the actions, one by one, and the failure
is that of the action after them. -/
structure Recorded (faults : Faults) (t : FileTree) (paths : MapPaths) (maps : CompiledMaps)
    (actions : List Action) (d : Drafts) (p : Progress) : Prop where
  stage : Staged t paths ((actions.take p.trees.length).foldl (Drafts.advance maps) d) p.stage
  failure : actions[p.trees.length]? = p.failure.map Prod.fst
  cause : ∀ a e, p.failure = some (a, e) → faults a = some e ∨
    perform paths maps p.stage a = Except.error e
  tree : ∀ i tree, p.trees[i]? = some tree →
    ∃ s, s.tree = tree ∧ Staged t paths ((actions.take (i + 1)).foldl (Drafts.advance maps) d) s

theorem run_recorded (h : Staged t paths d s) {actions : List Action}
    (ho : Orderly maps d actions) :
    Recorded faults t paths maps actions d (run faults paths maps actions s) := by
  induction actions generalizing d s with
  | nil => exact ⟨h, rfl, by simp [run], by simp [run]⟩
  | cons a actions ih =>
    simp only [run]
    rcases hfault : faults a with _ | e
    · rcases hp : perform paths maps s a with e | s'
      · refine ⟨h, rfl, fun a' e' hf => .inr ?_, by simp⟩
        obtain ⟨rfl, rfl⟩ : a = a' ∧ e = e' := by simpa using hf
        exact hp
      · have hs' := perform_staged h ho.1 hp
        have hrest := ih hs' ho.2
        refine ⟨hrest.stage, ?_, hrest.cause, fun i tree hi => ?_⟩
        · rw [List.length_cons, List.getElem?_cons_succ]
          exact hrest.failure
        · cases i with
          | zero =>
            obtain rfl : s'.tree = tree := by simpa using hi
            exact ⟨s', rfl, hs'⟩
          | succ i =>
            rw [List.getElem?_cons_succ] at hi
            exact hrest.tree i tree hi
    · refine ⟨h, rfl, fun a' e' hf => .inl ?_, by simp⟩
      obtain ⟨rfl, rfl⟩ : a = a' ∧ e = e' := by simpa using hf
      exact hfault

theorem progress_recorded (faults : Faults) (t : FileTree) (paths : MapPaths)
    (maps : CompiledMaps) :
    Recorded faults t paths maps plan .none (progress faults t paths maps) :=
  run_recorded ⟨Drafted.initial t paths, by simp, by simp [Drafts.none]⟩ (plan_orderly maps)

end Recorded

section Amid

/-- The tree is the first one with the maps `kinds` in place, and perhaps with temporary files. -/
structure Amid (t : FileTree) (paths : MapPaths) (maps : CompiledMaps) (kinds : List MapKind)
    (tree : FileTree) :
    Prop where
  home : tree.home = t.home
  node : ∀ q, ¬ IsSpare t q → (∀ kind ∈ kinds, t.place? (paths.get kind) ≠ some q) →
    tree.node? q = t.node? q
  sight : ∀ q, ¬ IsSpare t q → tree.sight? q = overwritten t paths maps kinds q

theorem Staged.isSpare (h : Staged t paths d s) {kind : MapKind} {q : Place}
    (hk : Keyed.get? kind s.temporaries = some q) : IsSpare t q :=
  ⟨(h.isNew kind q hk).2.1, h.temporary _ (Keyed.mem_of_get? hk)⟩

theorem Staged.amid (h : Staged t paths d s)
    (hp : d.placed = kinds.reverse.map fun kind => (kind, mapBody maps kind)) :
    Amid t paths maps kinds s.tree where
  home := h.home
  node q hq hk := by
    rcases h.node q with he | ⟨-, -, ⟨kind, hkind⟩ | ⟨x, hx, hxq⟩⟩
    · exact he
    · exact absurd (h.isSpare hkind) hq
    · rw [hp] at hx
      obtain ⟨kind, hkind, rfl⟩ := List.mem_map.mp hx
      exact absurd hxq (hk kind (List.mem_reverse.mp hkind))
  sight q hq := by
    rw [← laid_eq_overwritten, ← hp]
    exact h.elsewhere q fun kind hkind => hq (h.isSpare hkind)

theorem Amid.eraseNode (h : Amid t paths maps kinds tree) {p : Place} (hp : IsSpare t p) :
    Amid t paths maps kinds (tree.eraseNode p) := by
  have hroot : p ≠ [] := by
    rintro rfl
    obtain ⟨-, n, hn⟩ := hp
    cases hn
  have hother : ∀ q, ¬ IsSpare t q → (tree.eraseNode p).node? q = tree.node? q := by
    intro q hq
    have hqp : q ≠ p := fun he => hq (he ▸ hp)
    rw [FileTree.node?_eraseNode _ _ _ hroot, if_neg hqp]
  exact {
    home := h.home
    node := fun q hq hk => (hother q hq).trans (h.node q hq hk)
    sight := fun q hq => (FileTree.sight?_congr (hother q hq) fun _ _ => rfl).trans (h.sight q hq) }

theorem Amid.discard (h : Amid t paths maps kinds tree) {temporaries : List (MapKind × Place)}
    (hs : ∀ x ∈ temporaries, IsSpare t x.2) : ∀ tree' ∈ MapWriter.discard tree temporaries,
      Amid t paths maps kinds tree' := by
  induction temporaries generalizing tree with
  | nil => simp [MapWriter.discard]
  | cons x temporaries ih =>
    have hx := h.eraseNode (hs x List.mem_cons_self)
    intro tree' hm
    rcases List.mem_cons.mp hm with rfl | hm
    · exact hx
    · exact ih hx (fun y hy => hs y (List.mem_cons_of_mem _ hy)) tree' hm

theorem replaced_plan (n : ℕ) (e : IoError) :
    replaced (plan[n]?.map (·, e)) = MapKind.all.take (n - 16) := by
  rcases Nat.lt_or_ge n 20 with h | h
  · interval_cases n <;> rfl
  · have hlen : plan.length ≤ n := h
    have hall : MapKind.all.length ≤ n - 16 := by
      change 4 ≤ n - 16
      omega
    rw [List.getElem?_eq_none hlen, List.take_of_length_le hall]
    rfl

variable (t paths maps faults)

theorem replacedBy_eq_take :
    replacedBy faults t paths maps =
      MapKind.all.take ((progress faults t paths maps).trees.length - 16) := by
  have hf := (progress_recorded faults t paths maps).failure
  rw [← replaced_plan _ .notText, hf, replacedBy]
  cases (progress faults t paths maps).failure <;> rfl

/-- The operation `i` has put the map of the plan's action `i` in place, if that one is a rename. -/
theorem amid_trees {i : ℕ} (hi : (writeWith faults t paths maps).trees[i]? = some tree) :
    Amid t paths maps ((replacedBy faults t paths maps).take (i - 15)) tree := by
  have hrecorded := progress_recorded faults t paths maps
  have htaken := replacedBy_eq_take t paths maps faults
  simp only [writeWith] at hi
  rw [List.getElem?_append] at hi
  split at hi
  · next hlt =>
    obtain ⟨s, rfl, hs⟩ := hrecorded.tree i tree hi
    refine hs.amid ?_
    rw [placed_take, replaced_plan, htaken, List.take_take]
    have hmin : min (i - 15) ((progress faults t paths maps).trees.length - 16) = i + 1 - 16 := by
      omega
    rw [hmin]
  · next hge =>
    have hall : (replacedBy faults t paths maps).length ≤ i - 15 := by
      rw [htaken, List.length_take]
      omega
    rw [List.take_of_length_le hall]
    have hstage := hrecorded.stage
    refine (hstage.amid ?_).discard (fun x hx => hstage.isSpare (hstage.keys x hx)) tree
      (List.mem_of_getElem? hi)
    rw [placed_take, replaced_plan, htaken]

theorem amid_writeWith :
    Amid t paths maps (replacedBy faults t paths maps) (writeWith faults t paths maps).tree where
  home := (covers_writeWith faults t paths maps).home
  node q _ hk := by
    rcases node?_writeWith faults t paths maps q with he | ⟨-, -, kind, hkind, hq⟩
    · exact he
    · exact absurd hq (hk kind hkind)
  sight q _ := sight?_writeWith faults t paths maps q

theorem ending_of_replaced {kind : MapKind} (h : kind ∈ replacedBy faults t paths maps) :
    FileTree.endsInName (paths.get kind) ∧ Path.endsWithSlash (paths.get kind) = false := by
  refine (progress_recorded faults t paths maps).stage.ending (kind, mapBody maps kind) ?_
  rw [placed_take, replaced_plan, ← replacedBy_eq_take]
  exact List.mem_map.mpr ⟨kind, List.mem_reverse.mpr h, rfl⟩

end Amid

section Shown

/-- The four paths name entries that are different. -/
def DistinctEntries (t : FileTree) (paths : MapPaths) : Prop :=
  ∀ kind kind' p, t.place? (paths.get kind) = some p → t.place? (paths.get kind') = some p →
    kind = kind'

/-- No place that one of the four paths leads to or past is taken by a temporary file. -/
def FreshNames (t : FileTree) (paths : MapPaths) : Prop :=
  ∀ kind p, t.place? (paths.get kind) = some p ∨ p ∈ t.trail true (paths.get kind) → ¬ IsSpare t p

/-- Whoever reads the map comes past the entry of no other map, and past its own in the end only. -/
structure Undisturbed (t : FileTree) (paths : MapPaths) (kind : MapKind) : Prop where
  others : ∀ p ∈ t.trail true (paths.get kind), ∀ kind', t.place? (paths.get kind') = some p →
    kind' = kind
  own : ∀ p ∈ t.approach (paths.get kind), t.place? (paths.get kind) ≠ some p

instance : Decidable (DistinctEntries t paths) :=
  decidable_of_iff
    (∀ kind ∈ MapKind.all, ∀ kind' ∈ MapKind.all, (t.place? (paths.get kind)).isSome →
      t.place? (paths.get kind') = t.place? (paths.get kind) → kind = kind')
    ⟨fun h kind kind' _ hp hp' => h kind kind.mem_all kind' kind'.mem_all (hp ▸ rfl)
      (hp'.trans hp.symm),
      fun h kind _ kind' _ hsome he =>
        have ⟨p, hp⟩ := Option.isSome_iff_exists.mp hsome
        h kind kind' p hp (he.trans hp)⟩

instance (kind : MapKind) : Decidable (Undisturbed t paths kind) :=
  decidable_of_iff
    ((∀ p ∈ t.trail true (paths.get kind), ∀ kind' ∈ MapKind.all,
      t.place? (paths.get kind') = some p → kind' = kind) ∧
      ∀ p ∈ t.approach (paths.get kind), t.place? (paths.get kind) ≠ some p)
    ⟨fun h => ⟨fun p hp kind' => h.1 p hp kind' kind'.mem_all, h.2⟩,
      fun h => ⟨fun p hp kind' _ => h.others p hp kind', h.own⟩⟩

theorem distinctEntries_inDir (t : FileTree) (dir : String) : DistinctEntries t (.inDir dir) := by
  intro kind kind' p hp hp'
  obtain ⟨d, hd, rfl⟩ := place?_inDir hp
  obtain ⟨d', hd', he⟩ := place?_inDir hp'
  obtain rfl : d = d' := Option.some.inj (hd.symm.trans hd')
  exact mapPlace_injective he

theorem head?_temporaryName (n : ℕ) : (temporaryName n).toList.head? = some '.' := by
  rw [toList_temporaryName]
  rfl

/-- The names of temporary files begin with a dot. -/
theorem freshNames_of_forall (h : ∀ kind ∈ MapKind.all, ∀ p ∈ (t.place? (paths.get kind)).toList ++
    t.trail true (paths.get kind), p.getLast?.all fun name => name.toList.head? ≠ some '.') :
    FreshNames t paths := by
  rintro kind p hp ⟨-, n, hn⟩
  have hm : p ∈ (t.place? (paths.get kind)).toList ++ t.trail true (paths.get kind) := by
    simpa using hp
  simpa [hn, head?_temporaryName] using h kind kind.mem_all p hm

/-- The maps `kinds` have their new texts for every reader, and the others are as they were. -/
structure Shows (t : FileTree) (paths : MapPaths) (maps : CompiledMaps) (kinds : List MapKind)
    (tree : FileTree) :
    Prop where
  entry : ∀ kind p, t.place? (paths.get kind) = some p →
    tree.sight? p = if kind ∈ kinds then some (mapFile maps kind) else t.sight? p
  read : ∀ kind, Undisturbed t paths kind → tree.read (paths.get kind) =
    if kind ∈ kinds then .ok (Text.Utf8.encode (maps.get kind)) else t.read (paths.get kind)

theorem overwritten_of_distinct (hd : DistinctEntries t paths) {kind : MapKind} {p : Place}
    (hp : t.place? (paths.get kind) = some p) :
    overwritten t paths maps kinds p =
      if kind ∈ kinds then some (mapFile maps kind) else t.sight? p := by
  unfold overwritten
  split
  · next kind' ho =>
    obtain rfl : kind' = kind := hd _ _ p (place?_of_occupant? ho) hp
    rw [if_pos (mem_of_occupant? ho)]
  · next ho =>
    have hk : kind ∉ kinds := by
      intro hk
      obtain ⟨kind', ho'⟩ := exists_occupant? hk hp
      rw [ho] at ho'
      cases ho'
    rw [if_neg hk]

theorem overwritten_of_forall_ne {p : Place}
    (h : ∀ kind ∈ kinds, t.place? (paths.get kind) ≠ some p) :
    overwritten t paths maps kinds p = t.sight? p := by
  unfold overwritten
  split
  · next kind ho => exact absurd (place?_of_occupant? ho) (h kind (mem_of_occupant? ho))
  · rfl

theorem node?_of_sight?_file {p : Place} {mode : ℕ} {bytes : Bytes}
    (h : t.sight? p = some (.file mode bytes)) :
    ∃ n, t.node? p = some (.file n) := by
  unfold FileTree.sight? at h
  rcases hn : t.node? p with _ | ⟨_ | target | n⟩
  · simp [hn] at h
  · simp [hn, FileTree.listedKind] at h
  · simp [hn, FileTree.listedKind] at h
  · exact ⟨n, rfl⟩

theorem Amid.read_new (h : Amid t paths maps kinds tree) (hd : DistinctEntries t paths)
    (hf : FreshNames t paths) {kind : MapKind} (hk : kind ∈ kinds) (hu : Undisturbed t paths kind)
    {p : Place}
    (hp : t.place? (paths.get kind) = some p) (hname : FileTree.endsInName (paths.get kind))
    (hslash : Path.endsWithSlash (paths.get kind) = false) :
    tree.read (paths.get kind) = .ok (Text.Utf8.encode (maps.get kind)) := by
  have hsight : tree.sight? p = some (mapFile maps kind) := by
    rw [h.sight p (hf kind p (.inl hp)), overwritten_of_distinct hd hp, if_pos hk]
  obtain ⟨n, hn⟩ := node?_of_sight?_file hsight
  obtain ⟨target, hr, rfl⟩ : ∃ target, t.resolve false (paths.get kind) = .ok target ∧
      target.place = p := by
    unfold FileTree.place? at hp
    rcases hr : t.resolve false (paths.get kind) with e | target
    · simp [hr, Except.toOption] at hp
    · exact ⟨target, rfl, by simpa [hr, Except.toOption] using hp⟩
  have hway : ∀ q ∈ t.approach (paths.get kind), tree.node? q = t.node? q := by
    intro q hq
    have htrail := FileTree.mem_trail_of_approach hq
    refine h.node q (hf kind q (.inr htrail)) fun kind' _ hq' => ?_
    obtain rfl := hu.others q htrail kind' hq'
    exact hu.own q hq hq'
  exact FileTree.read_of_sight? (FileTree.resolve_of_approach hname hslash hr h.home hway hn) hn
    hsight

theorem Amid.read_old (h : Amid t paths maps kinds tree) (hf : FreshNames t paths) {kind : MapKind}
    (hk : kind ∉ kinds) (hu : Undisturbed t paths kind) :
    tree.read (paths.get kind) = t.read (paths.get kind) := by
  refine FileTree.read_of_trail h.home fun q hq => ?_
  have hspare := hf kind q (.inr hq)
  have hother : ∀ kind' ∈ kinds, t.place? (paths.get kind') ≠ some q := by
    intro kind' hk' hq'
    exact hk (hu.others q hq kind' hq' ▸ hk')
  rw [h.sight q hspare, overwritten_of_forall_ne hother]
  exact ⟨h.node q hspare hother, rfl⟩

theorem Amid.shows (h : Amid t paths maps kinds tree) (hd : DistinctEntries t paths)
    (hf : FreshNames t paths) (hk : ∀ kind ∈ kinds, kind ∈ replacedBy faults t paths maps) :
    Shows t paths maps kinds tree where
  entry kind p hp := by rw [h.sight p (hf kind p (.inl hp)), overwritten_of_distinct hd hp]
  read kind hu := by
    split
    · next hkind =>
      obtain ⟨p, hp⟩ := place?_of_replaced faults t paths maps (hk kind hkind)
      obtain ⟨hname, hslash⟩ := ending_of_replaced t paths maps faults (hk kind hkind)
      exact h.read_new hd hf hkind hu hp hname hslash
    · next hkind => exact h.read_old hf hkind hu

end Shown

section Staged

theorem pending_staged (maps : CompiledMaps) (kind : MapKind) :
    ((plan.take 16).foldl (Drafts.advance maps) .none).pending kind = some (mapBody maps kind) := by
  cases kind <;> rfl

/-- Before the first rename all four texts stand beside the maps. -/
theorem exists_staged (h : replacedBy faults t paths maps ≠ []) :
    ∃ staged, (writeWith faults t paths maps).trees[15]? = some staged ∧
      ∃ draft : MapKind → Place, Function.Injective draft ∧
        ∀ kind, t.node? (draft kind) = none ∧ staged.sight? (draft kind) =
          some (mapFile maps kind) := by
  have hlength : 16 < (progress faults t paths maps).trees.length := by
    by_contra hshort
    have hnone : (progress faults t paths maps).trees.length - 16 = 0 := by omega
    exact h (by rw [replacedBy_eq_take, hnone, List.take_zero])
  have hbefore : 15 < (progress faults t paths maps).trees.length := by omega
  have hi := List.getElem?_eq_getElem hbefore
  obtain ⟨s, hs, hstaged⟩ := (progress_recorded faults t paths maps).tree 15 _ hi
  have hplaces : ∀ kind, ∃ p, Keyed.get? kind s.temporaries = some p := by
    intro kind
    rw [← Option.isSome_iff_exists, ← hstaged.pending kind, pending_staged]
    rfl
  choose draft hdraft using hplaces
  refine ⟨s.tree, ?_, draft, fun kind kind' he => ?_,
    fun kind => ⟨(hstaged.isNew kind _ (hdraft kind)).2.1, ?_⟩⟩
  · rw [writeWith, List.getElem?_append_left hbefore, hi, hs]
  · exact hstaged.apart kind kind' _ (hdraft kind) (he ▸ hdraft kind')
  · obtain ⟨n, hn, hb, -⟩ := hstaged.file kind _ (hdraft kind)
    exact FileTree.sight?_file hn (hb.trans (pending_staged maps kind))

end Staged

theorem length_encode (s : String) : (Text.Utf8.encode s).length = s.utf8ByteSize := by
  rw [← List.size_toByteArray, Text.Utf8.toByteArray_encode]
  rfl

/-- A write as it looks from outside, whichever operations fail. After each operation the maps that
have been renamed so far, first ones of the four, have their new texts and the others are as they
were; the first is renamed when all four texts are staged. If the write is reported as done, then
all are new, and the report tells their sizes; if it is aborted, the error names the path of the map
that was being staged or renamed. No other entry has changed then, and no temporary file is left. -/
theorem maps_during_write (hd : DistinctEntries t paths) (hf : FreshNames t paths) (faults : Faults)
    (maps : CompiledMaps) :
    (∀ i tree, (writeWith faults t paths maps).trees[i]? = some tree →
      Shows t paths maps ((replacedBy faults t paths maps).take (i - 15)) tree) ∧
    Shows t paths maps (replacedBy faults t paths maps) (writeWith faults t paths maps).tree ∧
    replacedBy faults t paths maps <+: MapKind.all ∧
    (replacedBy faults t paths maps ≠ [] →
      ∃ staged, (writeWith faults t paths maps).trees[15]? = some staged ∧
      ∃ draft : MapKind → Place, Function.Injective draft ∧
        ∀ kind, t.node? (draft kind) = none ∧ staged.sight? (draft kind) =
          some (mapFile maps kind)) ∧
    (∀ written, (writeWith faults t paths maps).result = .ok written →
      (∀ kind, ∃ p, t.place? (paths.get kind) = some p ∧
        (writeWith faults t paths maps).tree.sight? p =
          some (.file 0o644 (Text.Utf8.encode (maps.get kind)))) ∧
      (∀ kind, Undisturbed t paths kind →
        (writeWith faults t paths maps).tree.read (paths.get kind) =
          .ok (Text.Utf8.encode (maps.get kind))) ∧
      written.maps.map (·.kind) = MapKind.all ∧
      ∀ m ∈ written.maps, m.path = paths.get m.kind ∧
        m.bytes = (Text.Utf8.encode (maps.get m.kind)).length) ∧
    (∀ f, (writeWith faults t paths maps).result = .error f → ∃ a e,
      plan[(progress faults t paths maps).trees.length]? = some a ∧ f =
        .mapWrite (paths.get a.kind) e ∧
      (faults a = some e ∨ perform paths maps (progress faults t paths maps).stage a = .error e)) ∧
    ∀ q, (∀ kind, t.place? (paths.get kind) ≠ some q) →
      (writeWith faults t paths maps).tree.node? q = t.node? q ∧
      (writeWith faults t paths maps).tree.sight? q = t.sight? q := by
  have hfinal := (amid_writeWith t paths maps faults).shows hd hf fun _ hk => hk
  refine ⟨fun i tree hi => ?_, hfinal, ?_, exists_staged, fun written hw => ?_, fun f hw => ?_,
    fun q hq => ?_⟩
  · exact (amid_trees t paths maps faults hi).shows hd hf fun _ hk => List.mem_of_mem_take hk
  · rw [replacedBy_eq_take]
    exact List.take_prefix _ _
  · have hall := replacedBy_of_ok hw
    have hnew : ∀ kind, kind ∈ replacedBy faults t paths maps := fun kind => hall ▸ kind.mem_all
    refine ⟨fun kind => ?_, fun kind hu => ?_, ?_⟩
    · obtain ⟨p, hp⟩ := place?_of_replaced faults t paths maps (hnew kind)
      refine ⟨p, hp, ?_⟩
      rw [hfinal.entry kind p hp, if_pos (hnew kind)]
      rfl
    · rw [hfinal.read kind hu, if_pos (hnew kind)]
    · obtain rfl : report paths maps = written := by
        rw [result_writeWith] at hw
        split at hw
        · cases hw
        · exact Except.ok.inj hw
      refine ⟨by rw [report, List.map_map]; exact List.map_id _, fun m hm => ?_⟩
      obtain ⟨kind, -, rfl⟩ := List.mem_map.mp hm
      exact ⟨rfl, (length_encode _).symm⟩
  · obtain ⟨a, e, hfailure, rfl⟩ := failure_of_error hw
    have hrecorded := progress_recorded faults t paths maps
    refine ⟨a, e, ?_, rfl, hrecorded.cause a e hfailure⟩
    rw [hrecorded.failure, hfailure, Option.map_some]
  · constructor
    · rcases node?_writeWith faults t paths maps q with he | ⟨-, -, kind, -, hkind⟩
      · exact he
      · exact absurd hkind (hq kind)
    · rw [sight?_writeWith, overwritten_of_forall_ne fun kind _ => hq kind]

section Linked

def newRule : List Entry := [⟨2, "new@x.com", false, false, none⟩]

/-- One map that was written before. -/
def oldMap : FileTree where
  nodes := [(["maps"], .directory), (["maps", "blocked_recipients"], .file 0)]
  bodies := [(0, ⟨.ofText "old@x.com REJECT\n", mapMode⟩)]
  home := []

/-- The first map is new as soon as it is renamed, and the second is never there. -/
theorem maps_during_write_of_oldMap :
    let faults : Faults := fun a =>
      if a = ⟨.rename, .enforcePattern⟩ then some (.system 5) else none
    let w := writeWith faults oldMap (.inDir "maps") (compile newRule)
    (∀ i tree, w.trees[i]? = some tree → tree.read "maps/blocked_recipients" =
      if i < 16 then .ok (Text.Utf8.encode "old@x.com REJECT\n")
        else .ok (Text.Utf8.encode "new@x.com REJECT\n")) ∧
    w.tree.read "maps/blocked_recipients.pattern" = .error (.system SystemError.notFound) ∧
    w.result = .error (.mapWrite "maps/blocked_recipients.pattern" (.system 5)) := by
  intro faults w
  have hf : FreshNames oldMap (.inDir "maps") := freshNames_of_forall (by decide +kernel)
  have hliteral : Undisturbed oldMap (.inDir "maps") .enforceLiteral := by decide +kernel
  have hpattern : Undisturbed oldMap (.inDir "maps") .enforcePattern := by decide +kernel
  have hfailure : (progress faults oldMap (.inDir "maps") (compile newRule)).failure =
      some (⟨.rename, .enforcePattern⟩, .system 5) := by decide +kernel
  have hreplaced : replacedBy faults oldMap (.inDir "maps") (compile newRule) =
      [.enforceLiteral] := by
    rw [replacedBy, hfailure]
    rfl
  obtain ⟨htrees, hfinal, -, -, -, -, -⟩ :=
    maps_during_write (distinctEntries_inDir oldMap "maps") hf faults (compile newRule)
  have hresult : w.result = .error (.mapWrite "maps/blocked_recipients.pattern" (.system 5)) := by
    rw [result_writeWith, hfailure]
    rfl
  refine ⟨fun i tree hi => ?_, ?_, hresult⟩
  · have hread := (htrees i tree hi).read .enforceLiteral hliteral
    rw [hreplaced] at hread
    refine Eq.trans hread ?_
    by_cases hlt : i < 16
    · have hnone : i - 15 = 0 := by omega
      rw [hnone, List.take_zero, if_neg List.not_mem_nil, if_pos hlt]
      decide +kernel
    · have hall : [MapKind.enforceLiteral].length ≤ i - 15 := by
        change 1 ≤ i - 15
        omega
      rw [List.take_of_length_le hall, if_pos List.mem_cons_self, if_neg hlt]
      decide +kernel
  · have hread := hfinal.read .enforcePattern hpattern
    rw [hreplaced, if_neg (by decide)] at hread
    refine Eq.trans hread ?_
    decide +kernel

/-- The last map is a link to the first, and a directory stands where the third goes. -/
def linkedMaps : FileTree where
  nodes := (["maps", "blocked_recipients_test"], .directory) ::
    (["maps", "blocked_recipients_test.pattern"], .link "blocked_recipients") :: oldMap.nodes
  bodies := oldMap.bodies
  home := []

/-- A link to another directory stands where the first map goes, whose path leads through it. -/
def windingDirectory : FileTree :=
  ⟨[(["maps"], .directory), (["maps", "sub"], .directory), (["maps", "x"], .link "sub")], [], []⟩

def windingPaths : MapPaths := { MapPaths.inDir "maps" with enforceLiteral := "maps/x/../x" }

/-- Where a reader is disturbed it can be that a map reads neither as before nor as its new text:
the last map reads as the new text of the first after a write that is aborted at the third, or the
first map cannot be read after a write that is reported as done. In neither case is the entry of a
map used as a directory of another. -/
theorem exists_disturbed_reader :
    (DistinctEntries linkedMaps (.inDir "maps") ∧ FreshNames linkedMaps (.inDir "maps") ∧
      (∀ kind ∈ MapKind.all, ∀ kind' ∈ MapKind.all,
        ∀ p ∈ linkedMaps.approach ((MapPaths.inDir "maps").get kind), linkedMaps.place?
          ((MapPaths.inDir "maps").get kind') ≠ some p) ∧
      (write linkedMaps (.inDir "maps") (compile newRule)).result =
        .error (.mapWrite "maps/blocked_recipients_test" (.system SystemError.isDirectory)) ∧
      linkedMaps.read ((MapPaths.inDir "maps").get .testPattern) =
        .ok (Text.Utf8.encode "old@x.com REJECT\n") ∧
      (compile newRule).get .testPattern = "" ∧
      (write linkedMaps (.inDir "maps") (compile newRule)).tree.read
        ((MapPaths.inDir "maps").get .testPattern) =
        .ok (Text.Utf8.encode "new@x.com REJECT\n")) ∧
    DistinctEntries windingDirectory windingPaths ∧ FreshNames windingDirectory windingPaths ∧
      (∀ kind ∈ MapKind.all, ∀ kind' ∈ MapKind.all,
        ∀ p ∈ windingDirectory.approach (windingPaths.get kind), windingDirectory.place?
          (windingPaths.get kind') = some p → kind' = kind) ∧
      (write windingDirectory windingPaths (compile newRule)).result =
        .ok (report windingPaths (compile newRule)) ∧
      (write windingDirectory windingPaths (compile newRule)).tree.read
        (windingPaths.get .enforceLiteral) =
        .error (.system SystemError.notDirectory) := by
  refine ⟨⟨by decide +kernel, freshNames_of_forall (by decide +kernel), by decide +kernel⟩,
    by decide +kernel, freshNames_of_forall (by decide +kernel), by decide +kernel⟩

end Linked

end BlocklistSync.MapWriter
