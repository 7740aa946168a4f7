import BlocklistSync.Proofs.Maps.Drafts
import Mathlib.Tactic.IntervalCases

/-! What a write of the maps leaves behind, for every tree, every choice of paths and every action
that may fail: the new texts of the maps whose renames were carried out, and everything else as it
was. -/
namespace BlocklistSync.MapWriter

/-- The maps whose renames come before an action of the plan. -/
def replacedBefore (a : Action) : List MapKind :=
  if a.operation = .rename then MapKind.all.takeWhile (· ≠ a.kind) else []

/-- The maps whose renames a write carried out, by what it failed at. -/
def replaced : Option (Action × IoError) → List MapKind
  | none => MapKind.all
  | some (a, _) => replacedBefore a

def mapFile (maps : CompiledMaps) (kind : MapKind) : FileTree.ListedKind :=
  .file mapMode (Content.ofText (maps.get kind)).toBytes

/-- The map that is left at a place once the maps `kinds` have been put where their paths lead, the
later over the earlier if they lead to one place. -/
def occupant? (t : FileTree) (paths : MapPaths) (kinds : List MapKind) (p : Place) :
    Option MapKind :=
  kinds.reverse.find? fun kind => t.place? (paths.get kind) = some p

def overwritten (t : FileTree) (paths : MapPaths) (maps : CompiledMaps) (kinds : List MapKind)
    (p : Place) :
    Option FileTree.ListedKind :=
  match occupant? t paths kinds p with
  | some kind => some (mapFile maps kind)
  | none => t.sight? p

variable {t : FileTree} {paths : MapPaths} {maps : CompiledMaps} {faults : Faults} {d : Drafts}
  {s : Stage}

section Occupant

variable {kinds : List MapKind} {p : Place} {kind : MapKind}

theorem place?_of_occupant? (h : occupant? t paths kinds p = some kind) :
    t.place? (paths.get kind) = some p := by
  simpa using List.find?_some h

theorem mem_of_occupant? (h : occupant? t paths kinds p = some kind) : kind ∈ kinds :=
  List.mem_reverse.mp (List.mem_of_find?_eq_some h)

theorem exists_occupant? (hk : kind ∈ kinds) (hp : t.place? (paths.get kind) = some p) :
    ∃ kind', occupant? t paths kinds p = some kind' := by
  rw [← Option.isSome_iff_exists, occupant?, List.find?_isSome]
  exact ⟨kind, List.mem_reverse.mpr hk, by simpa using hp⟩

theorem overwritten_eq_sight?_iff : overwritten t paths maps kinds p = t.sight? p ↔
    ∀ kind, occupant? t paths kinds p = some kind → t.sight? p = some (mapFile maps kind) := by
  unfold overwritten
  split
  · next kind h => simp [h, eq_comm]
  · next h => simp [h]

end Occupant

section Steps

theorem onTemporary_eq_ok {kind : MapKind} {f : Place → Except IoError Stage} {s' : Stage}
    (h : onTemporary s kind f = .ok s') :
    ∃ p, Keyed.get? kind s.temporaries = some p ∧ f p = .ok s' := by
  unfold onTemporary at h
  split at h
  · next p hp => exact ⟨p, hp, h⟩
  · simp [FileTree.fail] at h

theorem createNew_eq_ok {path : String} {mode : Nat} {tree : FileTree} {target : FileTree.Target}
    (hr : t.resolve false path = .ok target) (h : t.createNew path mode = .ok tree) :
    target.node = none ∧ tree = t.addFile target.place ⟨.bytes [], mode⟩ := by
  simp only [FileTree.createNew, hr, bind, Except.bind] at h
  split at h
  · simp [FileTree.fail] at h
  · next hn => exact ⟨hn, (Except.ok.inj h).symm⟩

theorem perform_create {kind : MapKind} {s' : Stage}
    (h : perform paths maps s ⟨.create, kind⟩ = .ok s') :
    ∃ p n, p ≠ [] ∧ s.tree.node? p = none ∧ p.getLast? = some (temporaryName n) ∧
      (∀ k, p.getLast? ≠ (FileTree.steps (paths.get k)).getLast?) ∧
      s' = ⟨s.tree.addFile p ⟨.bytes [], temporaryMode⟩, Keyed.insert kind p s.temporaries⟩ := by
  simp only [perform] at h
  split at h
  · next path hpath =>
    obtain ⟨n, hjoin, hclaim⟩ := freshPath?_eq_some hpath
    rcases hr : s.tree.resolve false path with e | target
    · simp [hr, bind, Except.bind] at h
    simp only [hr, bind, Except.bind] at h
    split at h
    · simp at h
    · next tree htree =>
      obtain ⟨hn, rfl⟩ := createNew_eq_ok hr htree
      obtain ⟨dir, -, rfl⟩ := FileTree.resolve_join (temporaryName_isName n)
        (temporaryName_ne (by decide))
        (temporaryName_ne (by decide)) (hjoin ▸ hr)
      have hlast : (dir ++ [temporaryName n]).getLast? = some (temporaryName n) :=
        List.getLast?_concat
      refine ⟨dir ++ [temporaryName n], n, by simp, hn, hlast, fun k hk => ?_,
        (Except.ok.inj h).symm⟩
      exact hclaim k (by rw [← hk, hlast])
  · simp [FileTree.fail] at h

theorem perform_drafted {a : Action} {s' : Stage} (h : Drafted t paths d s)
    (hfree : a.operation = .create → d.pending a.kind = none)
    (hp : perform paths maps s a = .ok s') :
    Drafted t paths (d.advance maps a) s' := by
  obtain ⟨operation, kind⟩ := a
  cases operation with
  | create =>
    obtain ⟨p, n, hroot, hnode, -, hname, rfl⟩ := perform_create hp
    exact h.create (hfree rfl) hroot hnode hname _
  | fill =>
    obtain ⟨p, hk, hs⟩ := onTemporary_eq_ok hp
    obtain rfl := (Except.ok.inj hs).symm
    exact h.change hk _
  | sync =>
    obtain ⟨p, -, hs⟩ := onTemporary_eq_ok hp
    obtain rfl := (Except.ok.inj hs).symm
    exact h
  | setMode =>
    obtain ⟨p, hk, hs⟩ := onTemporary_eq_ok hp
    obtain rfl := (Except.ok.inj hs).symm
    exact h.change hk _
  | rename =>
    obtain ⟨p, hk, hs⟩ := onTemporary_eq_ok hp
    rcases hr : s.tree.rename p (paths.get kind) with e | tree
    · simp [hr, bind, Except.bind] at hs
    · simp only [hr, bind, Except.bind] at hs
      obtain rfl := (Except.ok.inj hs).symm
      exact h.place hk hr

/-- No temporary file is made for a map that has one already. -/
def Orderly (maps : CompiledMaps) : Drafts → List Action → Prop
  | _, [] => True
  | d, a :: rest => (a.operation = .create → d.pending a.kind = none) ∧
      Orderly maps (d.advance maps a) rest

theorem plan_orderly (maps : CompiledMaps) : Orderly maps .none plan := by
  simp [plan, MapKind.all, staging, Orderly, Drafts.none, Drafts.advance, Drafts.set, Drafts.change]

theorem run_drafted (h : Drafted t paths d s) {actions : List Action}
    (ho : Orderly maps d actions) :
    ∃ performed rest, actions = performed ++ rest ∧
      Drafted t paths (performed.foldl (Drafts.advance maps) d)
        (run faults paths maps actions s).stage ∧
      rest.head? = (run faults paths maps actions s).failure.map Prod.fst := by
  induction actions generalizing d s with
  | nil => exact ⟨[], [], rfl, h, rfl⟩
  | cons a actions ih =>
    simp only [run]
    split
    · exact ⟨[], a :: actions, rfl, h, rfl⟩
    · exact ⟨[], a :: actions, rfl, h, rfl⟩
    · next s' _ hp =>
      obtain ⟨performed, rest, hl, hd, hf⟩ := ih (perform_drafted h ho.1 hp) ho.2
      exact ⟨a :: performed, rest, by rw [hl]; rfl, hd, hf⟩

theorem run_getLast (actions : List Action) (s : Stage) :
    (run faults paths maps actions s).trees.getLast?.getD s.tree =
      (run faults paths maps actions s).stage.tree := by
  induction actions generalizing s with
  | nil => rfl
  | cons a actions ih =>
    simp only [run]
    split
    · rfl
    · rfl
    · next s' _ _ =>
      rw [← ih s', List.getLast?_cons, Option.getD_some]

end Steps

/-- What a temporary file holds when it is renamed. -/
def mapBody (maps : CompiledMaps) (kind : MapKind) : FileBody := ⟨.ofText (maps.get kind), mapMode⟩

theorem placed_take (maps : CompiledMaps) (n : ℕ) :
    ((plan.take n).foldl (Drafts.advance maps) .none).placed =
      (replaced (plan[n]?.map (·, .notText))).reverse.map fun kind =>
        (kind, mapBody maps kind) := by
  rcases Nat.lt_or_ge n 20 with h | h
  · interval_cases n <;> rfl
  · have hlen : plan.length ≤ n := h
    rw [List.take_of_length_le hlen, List.getElem?_eq_none hlen]
    rfl

theorem placed_performed {performed rest : List Action} (h : plan = performed ++ rest)
    {failure : Option (Action × IoError)} (hf : rest.head? = failure.map Prod.fst) :
    (performed.foldl (Drafts.advance maps) .none).placed =
      (replaced failure).reverse.map fun kind => (kind, mapBody maps kind) := by
  have ht : plan.take performed.length = performed := by rw [h, List.take_left]
  have hg : plan[performed.length]? = rest.head? := by
    rw [h, List.getElem?_append_right (Nat.le_refl _), Nat.sub_self, List.head?_eq_getElem?]
  have hp := placed_take maps performed.length
  rw [ht, hg, hf] at hp
  rw [hp]
  cases failure <;> rfl

theorem laid_eq_overwritten (kinds : List MapKind) (q : Place) :
    laid t paths (kinds.reverse.map fun kind => (kind, mapBody maps kind)) q =
      overwritten t paths maps kinds q := by
  simp only [laid, overwritten, occupant?, List.find?_map, Function.comp_def]
  cases kinds.reverse.find? fun kind => decide (t.place? (paths.get kind) = some q) <;> rfl

section Clearing

/-- A tree without the temporary files. -/
def cleared (t : FileTree) (temporaries : List (MapKind × Place)) : FileTree :=
  temporaries.foldl (fun t x => t.eraseNode x.2) t

theorem discard_getLast (t : FileTree) (temporaries : List (MapKind × Place)) :
    (discard t temporaries).getLast?.getD t = cleared t temporaries := by
  induction temporaries generalizing t with
  | nil => rfl
  | cons x temporaries ih =>
    rw [discard, List.getLast?_cons, Option.getD_some]
    exact ih _

theorem node?_cleared {temporaries : List (MapKind × Place)} (hroot : ∀ x ∈ temporaries, x.2 ≠ [])
    (q : Place) :
    (cleared t temporaries).node? q = if q ∈ temporaries.map (·.2) then none else t.node? q := by
  induction temporaries generalizing t with
  | nil => simp [cleared]
  | cons x temporaries ih =>
    have hx := hroot x List.mem_cons_self
    have hrest : ∀ y ∈ temporaries, y.2 ≠ [] := fun y hy => hroot y (List.mem_cons_of_mem _ hy)
    rw [cleared, List.foldl_cons]
    refine (ih hrest).trans ?_
    rw [FileTree.node?_eraseNode _ _ _ hx, List.map_cons]
    by_cases hq : q = x.2
    · simp [hq]
    · simp only [hq, List.mem_cons, false_or, if_false]

theorem body?_cleared (temporaries : List (MapKind × Place)) (k : ℕ) :
    (cleared t temporaries).body? k = t.body? k := by
  induction temporaries generalizing t with
  | nil => rfl
  | cons x temporaries ih => exact ih.trans (FileTree.body?_eraseNode ..)

theorem home_cleared (temporaries : List (MapKind × Place)) :
    (cleared t temporaries).home = t.home := by
  induction temporaries generalizing t with
  | nil => rfl
  | cons x temporaries ih => exact ih.trans (FileTree.home_eraseNode ..)

end Clearing

theorem tree_writeWith (faults : Faults) (t : FileTree) (paths : MapPaths) (maps : CompiledMaps) :
    (writeWith faults t paths maps).tree =
      cleared (progress faults t paths maps).stage.tree
        (progress faults t paths maps).stage.temporaries := by
  have hl : (progress faults t paths maps).trees.getLast?.getD t =
      (progress faults t paths maps).stage.tree :=
    run_getLast plan ⟨t, []⟩
  simp only [writeWith, List.getLast?_append]
  generalize progress faults t paths maps = p at hl ⊢
  rw [← discard_getLast, ← hl]
  cases (discard (p.trees.getLast?.getD t) p.stage.temporaries).getLast? <;> rfl

theorem result_writeWith (faults : Faults) (t : FileTree) (paths : MapPaths) (maps : CompiledMaps) :
    (writeWith faults t paths maps).result = match (progress faults t paths maps).failure with
      | some (a, e) => .error (.mapWrite (paths.get a.kind) e)
      | none => .ok (report paths maps) := rfl

def replacedBy (faults : Faults) (t : FileTree) (paths : MapPaths) (maps : CompiledMaps) :
    List MapKind :=
  replaced (progress faults t paths maps).failure

theorem replacedBy_of_ok {written : WriteReport}
    (h : (writeWith faults t paths maps).result = .ok written) :
    replacedBy faults t paths maps = MapKind.all := by
  rw [result_writeWith] at h
  unfold replacedBy
  split at h
  · cases h
  · next hf => rw [hf, replaced]

theorem failure_of_error {f : Fault} (h : (writeWith faults t paths maps).result = .error f) :
    ∃ a e, (progress faults t paths maps).failure = some (a, e) ∧ f =
      .mapWrite (paths.get a.kind) e := by
  rw [result_writeWith] at h
  split at h
  · next a e hf => exact ⟨a, e, hf, (Except.error.inj h).symm⟩
  · cases h

section Result

variable (faults : Faults) (t : FileTree) (paths : MapPaths) (maps : CompiledMaps)

theorem progress_drafted : ∃ d, Drafted t paths d (progress faults t paths maps).stage ∧
    d.placed = (replacedBy faults t paths maps).reverse.map fun kind =>
      (kind, mapBody maps kind) := by
  have hrun : ∃ performed rest, plan = performed ++ rest ∧
      Drafted t paths (performed.foldl (Drafts.advance maps) .none)
        (progress faults t paths maps).stage ∧
      rest.head? = (progress faults t paths maps).failure.map Prod.fst :=
    run_drafted (Drafted.initial t paths) (plan_orderly maps)
  obtain ⟨performed, rest, hl, hd, hf⟩ := hrun
  exact ⟨_, hd, placed_performed hl hf⟩

theorem mem_temporaries {d : Drafts} (h : Drafted t paths d s) {q : Place} :
    q ∈ s.temporaries.map (·.2) ↔ ∃ kind, Keyed.get? kind s.temporaries = some q := by
  constructor
  · intro hq
    obtain ⟨x, hx, rfl⟩ := List.mem_map.mp hq
    exact ⟨x.1, h.keys x hx⟩
  · rintro ⟨kind, hk⟩
    exact List.mem_map.mpr ⟨_, Keyed.mem_of_get? hk, rfl⟩

/-- The temporary files are gone in the end, so only places where a map went differ from before. -/
theorem node?_writeWith (q : Place) : (writeWith faults t paths maps).tree.node? q = t.node? q ∨
    (∃ n, (writeWith faults t paths maps).tree.node? q = some (.file n)) ∧
      t.node? q ≠ some .directory ∧
      ∃ kind ∈ replacedBy faults t paths maps, t.place? (paths.get kind) = some q := by
  obtain ⟨d, hd, hplaced⟩ := progress_drafted faults t paths maps
  have hroot := fun x hx => (hd.isNew _ _ (hd.keys x hx)).1
  rw [tree_writeWith, node?_cleared hroot]
  split
  · next hq =>
    obtain ⟨kind, hk⟩ := (mem_temporaries t paths hd).mp hq
    exact .inl (hd.isNew kind q hk).2.1.symm
  · next hq =>
    rcases hd.node q with he | ⟨hfile, hdir, htemp | ⟨x, hx, hp⟩⟩
    · exact .inl he
    · exact absurd ((mem_temporaries t paths hd).mpr htemp) hq
    · rw [hplaced] at hx
      obtain ⟨kind, hk, rfl⟩ := List.mem_map.mp hx
      exact .inr ⟨hfile, hdir, kind, List.mem_reverse.mp hk, hp⟩

theorem covers_writeWith : FileTree.Covers t (writeWith faults t paths maps).tree where
  home := by
    obtain ⟨d, hd, -⟩ := progress_drafted faults t paths maps
    rw [tree_writeWith, home_cleared, hd.home]
  node q := (node?_writeWith faults t paths maps q).imp id fun h => ⟨h.1, h.2.1⟩

theorem resolve_writeWith_of_nil (h : replacedBy faults t paths maps = []) (follow : Bool)
    (path : String) :
    (writeWith faults t paths maps).tree.resolve follow path = t.resolve follow path := by
  refine FileTree.resolve_congr (covers_writeWith faults t paths maps).home (fun q => ?_) follow
    path
  rcases node?_writeWith faults t paths maps q with he | ⟨-, -, kind, hk, -⟩
  · exact he
  · simp [h] at hk

/-- The main statement: what stands where after a write, whether it went through or was aborted. -/
theorem sight?_writeWith (q : Place) : (writeWith faults t paths maps).tree.sight? q =
    overwritten t paths maps (replacedBy faults t paths maps) q := by
  obtain ⟨d, hd, hplaced⟩ := progress_drafted faults t paths maps
  have hroot := fun x hx => (hd.isNew _ _ (hd.keys x hx)).1
  have hnode := node?_cleared (t := (progress faults t paths maps).stage.tree) hroot q
  rw [← laid_eq_overwritten, ← hplaced, tree_writeWith]
  by_cases hq : q ∈ (progress faults t paths maps).stage.temporaries.map (·.2)
  · obtain ⟨kind, hk⟩ := (mem_temporaries t paths hd).mp hq
    obtain ⟨-, hnew, hclaim⟩ := hd.isNew kind q hk
    rw [if_pos hq] at hnode
    rw [hd.laid_of_unclaimed hclaim, FileTree.sight?_eq_none hnode, FileTree.sight?_eq_none hnew]
  · rw [if_neg hq] at hnode
    rw [FileTree.sight?_congr hnode fun k _ => body?_cleared _ k]
    exact hd.elsewhere q fun kind hk => hq ((mem_temporaries t paths hd).mpr ⟨kind, hk⟩)

/-- The maps are what they were just if each one left in place had the new text already. -/
theorem kept_iff : (∀ kind p, t.place? (paths.get kind) = some p →
      (writeWith faults t paths maps).tree.sight? p = t.sight? p) ↔
    ∀ kind p, occupant? t paths (replacedBy faults t paths maps) p = some kind →
      t.sight? p = some (mapFile maps kind) := by
  constructor
  · intro h kind p ho
    have hkept := h kind p (place?_of_occupant? ho)
    rw [sight?_writeWith] at hkept
    exact overwritten_eq_sight?_iff.mp hkept kind ho
  · intro h kind p _
    rw [sight?_writeWith]
    exact overwritten_eq_sight?_iff.mpr fun kind' ho => h kind' p ho

theorem place?_of_replaced {kind : MapKind} (h : kind ∈ replacedBy faults t paths maps) :
    ∃ p, t.place? (paths.get kind) = some p := by
  obtain ⟨d, hd, hplaced⟩ := progress_drafted faults t paths maps
  have hm : (kind, mapBody maps kind) ∈ d.placed := by
    rw [hplaced]
    exact List.mem_map.mpr ⟨kind, List.mem_reverse.mpr h, rfl⟩
  obtain ⟨p, hp, -⟩ := hd.placed _ hm
  exact ⟨p, hp⟩

end Result

end BlocklistSync.MapWriter
