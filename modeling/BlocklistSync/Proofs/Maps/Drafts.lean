import BlocklistSync.Maps.Writer
import BlocklistSync.Proofs.FileTree.Sight

/-! A write of the maps, seen without paths and places: what each temporary file holds, and which of
them have been renamed over their maps. Each action on the files does to the tree what it does to
this account. -/
namespace BlocklistSync.MapWriter

/-- What the temporary files hold, and what stands in the place of a map, newest first. -/
structure Drafts where
  pending : MapKind → Option FileBody
  placed : List (MapKind × FileBody)

namespace Drafts

def none : Drafts := ⟨fun _ => .none, []⟩

def set (d : Drafts) (kind : MapKind) (b : Option FileBody) : Drafts :=
  { d with pending := fun k => if k = kind then b else d.pending k }

def change (d : Drafts) (kind : MapKind) (f : FileBody → FileBody) : Drafts :=
  d.set kind ((d.pending kind).map f)

def place (d : Drafts) (kind : MapKind) : Drafts :=
  match d.pending kind with
  | some b => { d.set kind .none with placed := (kind, b) :: d.placed }
  | .none => d

def advance (maps : CompiledMaps) (d : Drafts) (a : Action) : Drafts :=
  match a.operation with
  | .create => d.set a.kind (some ⟨.bytes [], temporaryMode⟩)
  | .fill => d.change a.kind ({ · with content := .ofText (maps.get a.kind) })
  | .sync => d
  | .setMode => d.change a.kind ({ · with mode := mapMode })
  | .rename => d.place a.kind

end Drafts

/-- What stands at a place once files have been renamed to where the paths of their maps lead. -/
def laid (t : FileTree) (paths : MapPaths) (placed : List (MapKind × FileBody)) (p : Place) :
    Option FileTree.ListedKind :=
  match placed.find? fun x => t.place? (paths.get x.1) = some p with
  | some x => some (.file x.2.mode x.2.content.toBytes)
  | none => t.sight? p

/-- Each temporary file that is pending has a place of its own, which was free and to which no path
can lead. -/
structure Registered (t : FileTree) (paths : MapPaths) (pending : MapKind → Option FileBody)
    (temporaries : List (MapKind × Place)) : Prop where
  keys : ∀ x ∈ temporaries, Keyed.get? x.1 temporaries = some x.2
  pending : ∀ kind, (pending kind).isSome = (Keyed.get? kind temporaries).isSome
  isNew : ∀ kind p, Keyed.get? kind temporaries = some p → p ≠ [] ∧ t.node? p = none ∧
    ∀ k, p.getLast? ≠ (FileTree.steps (paths.get k)).getLast?
  apart : ∀ kind kind' p, Keyed.get? kind temporaries = some p →
    Keyed.get? kind' temporaries = some p → kind = kind'

/-- The tree is the first one with the temporary files of `d` in it and the maps of `d` in place. -/
structure Drafted (t : FileTree) (paths : MapPaths) (d : Drafts) (s : Stage) : Prop
    extends Registered t paths d.pending s.temporaries where
  home : s.tree.home = t.home
  node : ∀ q, s.tree.node? q = t.node? q ∨
    (∃ n, s.tree.node? q = some (.file n)) ∧ t.node? q ≠ some .directory ∧
      ((∃ kind, Keyed.get? kind s.temporaries = some q) ∨
        ∃ x ∈ d.placed, t.place? (paths.get x.1) = some q)
  file : ∀ kind p, Keyed.get? kind s.temporaries = some p → ∃ n, s.tree.node? p = some (.file n) ∧
    s.tree.body? n = d.pending kind ∧ ∀ q, s.tree.node? q = some (.file n) → q = p
  placed : ∀ x ∈ d.placed, ∃ p, t.place? (paths.get x.1) = some p ∧
    p.getLast? = (FileTree.steps (paths.get x.1)).getLast?
  elsewhere : ∀ q, (∀ kind, Keyed.get? kind s.temporaries ≠ some q) →
    s.tree.sight? q = laid t paths d.placed q

theorem slash_not_mem_toString (n : Nat) : '/' ∉ (toString n).toList := by
  rw [Nat.toString_eq_repr, Nat.toList_repr]
  exact fun h => absurd (Nat.isDigit_of_mem_toDigits (b := 10) (n := n) (by decide) (by decide) h)
    (by decide)

theorem toList_temporaryName (n : Nat) : (temporaryName n).toList = ".blocked_recipients.".toList ++
    (List.replicate (6 - (toString n).length) '0' ++ ((toString n).toList ++ ".tmp".toList)) := by
  have hz := String.toList_ofList (l := List.replicate (6 - (toString n).length) '0')
  unfold temporaryName
  rw [String.toList_append, String.toList_append, String.toList_append, hz, List.append_assoc,
    List.append_assoc]

theorem temporaryName_length (n : Nat) : 20 ≤ (temporaryName n).toList.length := by
  have hp : ".blocked_recipients.".toList.length = 20 := by decide
  rw [toList_temporaryName, List.length_append, hp]
  exact Nat.le_add_right ..

theorem temporaryName_ne {n : Nat} {name : String} (h : name.toList.length < 20) :
    temporaryName n ≠ name := by
  intro he
  have hl := temporaryName_length n
  rw [he] at hl
  omega

theorem temporaryName_isName (n : Nat) : FileTree.IsName (temporaryName n) := by
  refine ⟨temporaryName_ne (by decide), ?_⟩
  have hs := slash_not_mem_toString n
  have hp : '/' ∉ ".blocked_recipients.".toList := by decide
  have he : '/' ∉ ".tmp".toList := by decide
  have hz : '/' ∉ List.replicate (6 - (toString n).length) '0' :=
    fun h => absurd (List.eq_of_mem_replicate h) (by decide)
  rw [toList_temporaryName]
  simp only [List.mem_append, not_or]
  exact ⟨hp, hz, hs, he⟩

theorem isUnclaimed_iff {paths : MapPaths} {name : String} :
    isUnclaimed paths name = true ↔
      ∀ kind, (FileTree.steps (paths.get kind)).getLast? ≠ some name := by
  simp only [isUnclaimed, List.all_eq_true, bne_iff_ne]
  exact ⟨fun h kind => h kind (MapKind.mem_all kind), fun h kind _ => h kind⟩

theorem freshPath?_eq_some {t : FileTree} {paths : MapPaths} {dir path : String}
    (h : freshPath? t paths dir = some path) :
    ∃ n, path = Path.join dir (temporaryName n) ∧
      ∀ kind, (FileTree.steps (paths.get kind)).getLast? ≠ some (temporaryName n) := by
  have hm : path ∈ (((List.range (t.nodes.length + 5)).map temporaryName).filter
    (isUnclaimed paths)).map
      (Path.join dir) := by
    simp only [freshPath?, Option.or_eq_some_iff] at h
    rcases h with h | ⟨-, h⟩
    · exact List.mem_of_find?_eq_some h
    · exact List.mem_of_head? h
  obtain ⟨name, hname, rfl⟩ := List.mem_map.mp hm
  obtain ⟨hn, hu⟩ := List.mem_filter.mp hname
  obtain ⟨n, -, rfl⟩ := List.mem_map.mp hn
  exact ⟨n, rfl, isUnclaimed_iff.mp hu⟩

namespace Registered

variable {t : FileTree} {paths : MapPaths} {pending : MapKind → Option FileBody}
  {temporaries : List (MapKind × Place)}

theorem insert (h : Registered t paths pending temporaries) (kind : MapKind) {p : Place}
    (hp : p ≠ []) (hnew : t.node? p = none)
    (hname : ∀ k, p.getLast? ≠ (FileTree.steps (paths.get k)).getLast?)
    (hother : ∀ k, Keyed.get? k temporaries ≠ some p) (b : FileBody) :
    Registered t paths (fun k => if k = kind then some b else pending k)
      (Keyed.insert kind p temporaries) where
  keys x hx := by
    rw [Keyed.get?_insert]
    rcases List.mem_cons.mp hx with rfl | hx
    · simp
    · obtain ⟨hx, hne⟩ := Keyed.mem_erase.mp hx
      simp [hne, h.keys x hx]
  pending k := by
    by_cases hk : k = kind
    · simp [Keyed.get?_insert, hk]
    · simpa [Keyed.get?_insert, hk] using h.pending k
  isNew k q hq := by
    rw [Keyed.get?_insert] at hq
    split at hq
    · obtain rfl := Option.some.inj hq
      exact ⟨hp, hnew, hname⟩
    · exact h.isNew k q hq
  apart k k' q hq hq' := by
    rw [Keyed.get?_insert] at hq hq'
    split at hq <;> split at hq'
    · next hk hk' => rw [hk, hk']
    · exact absurd (Option.some.inj hq ▸ hq') (hother k')
    · exact absurd (Option.some.inj hq' ▸ hq) (hother k)
    · exact h.apart k k' q hq hq'

theorem erase (h : Registered t paths pending temporaries) (kind : MapKind) :
    Registered t paths (fun k => if k = kind then none else pending k)
      (Keyed.erase kind temporaries) where
  keys x hx := by
    obtain ⟨hx, hne⟩ := Keyed.mem_erase.mp hx
    simp [Keyed.get?_erase, hne, h.keys x hx]
  pending k := by
    rw [Keyed.get?_erase]
    by_cases hk : k = kind
    · simp [hk]
    · simpa [hk] using h.pending k
  isNew k q hq := by
    rw [Keyed.get?_erase] at hq
    split at hq
    · cases hq
    · exact h.isNew k q hq
  apart k k' q hq hq' := by
    rw [Keyed.get?_erase] at hq hq'
    split at hq <;> split at hq' <;> first
      | cases hq
      | cases hq'
      | exact h.apart k k' q hq hq'

theorem change (h : Registered t paths pending temporaries) (kind : MapKind)
    (f : FileBody → FileBody) :
    Registered t paths (fun k => if k = kind then (pending kind).map f
      else pending k) temporaries :=
  { h with
    pending := fun k => by
      rw [← h.pending k]
      by_cases hk : k = kind <;> simp [hk] }

end Registered

namespace Drafted

variable {t : FileTree} {paths : MapPaths} {maps : CompiledMaps} {d : Drafts} {s : Stage}

/-- Where nothing is drafted and nothing is placed the tree is as it was. -/
theorem initial (t : FileTree) (paths : MapPaths) : Drafted t paths .none ⟨t, []⟩ where
  home := rfl
  node _ := .inl rfl
  keys _ h := by simp at h
  pending _ := rfl
  isNew _ _ h := by simp [Keyed.get?] at h
  apart _ _ _ h := by simp [Keyed.get?] at h
  file _ _ h := by simp [Keyed.get?] at h
  placed _ h := by simp [Drafts.none] at h
  elsewhere _ _ := rfl

theorem covers (h : Drafted t paths d s) : FileTree.Covers t s.tree :=
  ⟨h.home, fun q => (h.node q).imp id fun hq => ⟨hq.1, hq.2.1⟩⟩

theorem laid_of_unclaimed (h : Drafted t paths d s) {p : Place}
    (hp : ∀ k, p.getLast? ≠ (FileTree.steps (paths.get k)).getLast?) :
    laid t paths d.placed p = t.sight? p := by
  unfold laid
  split
  · next x hx =>
    obtain ⟨q, hq, hl⟩ := h.placed x (List.mem_of_find?_eq_some hx)
    have hxp : t.place? (paths.get x.1) = some p := by simpa using List.find?_some hx
    rw [hq, Option.some.injEq] at hxp
    exact absurd (hxp ▸ hl) (hp x.1)
  · rfl

theorem not_temporary (h : Drafted t paths d s) {q : Place} (hq : s.tree.node? q = none)
    (kind : MapKind) :
    Keyed.get? kind s.temporaries ≠ some q := by
  intro hk
  obtain ⟨n, hn, -⟩ := h.file kind q hk
  simp [hn] at hq

section Create

variable {kind : MapKind} {p : Place}

theorem node_create (h : Drafted t paths d s) (hfree : Keyed.get? kind s.temporaries = none)
    (hp : p ≠ []) (hnew : t.node? p = none) (b : FileBody) (q : Place) :
    (s.tree.addFile p b).node? q = t.node? q ∨
      (∃ n, (s.tree.addFile p b).node? q = some (.file n)) ∧ t.node? q ≠ some .directory ∧
        ((∃ k, Keyed.get? k (Keyed.insert kind p s.temporaries) = some q) ∨
          ∃ x ∈ d.placed, t.place? (paths.get x.1) = some q) := by
  rw [FileTree.node?_addFile hp]
  by_cases hq : q = p
  · subst hq
    exact .inr ⟨⟨s.tree.freshNumber, by simp⟩, by simp [hnew],
      .inl ⟨kind, by simp [Keyed.get?_insert]⟩⟩
  · rw [if_neg hq]
    rcases h.node q with he | ⟨hfile, hdir, ⟨k, hk⟩ | hplaced⟩
    · exact .inl he
    · have hkk : k ≠ kind := fun he => by simp [he, hfree] at hk
      exact .inr ⟨hfile, hdir, .inl ⟨k, by simp [Keyed.get?_insert, hkk, hk]⟩⟩
    · exact .inr ⟨hfile, hdir, .inr hplaced⟩

theorem file_create (h : Drafted t paths d s) (hp : p ≠ []) (hnode : s.tree.node? p = none)
    (b : FileBody) (k : MapKind) (q : Place)
    (hq : Keyed.get? k (Keyed.insert kind p s.temporaries) = some q) :
    ∃ n, (s.tree.addFile p b).node? q = some (.file n) ∧
      (s.tree.addFile p b).body? n = (d.set kind (some b)).pending k ∧
      ∀ r, (s.tree.addFile p b).node? r = some (.file n) → r = q := by
  simp only [FileTree.node?_addFile hp, FileTree.body?_addFile]
  rw [Keyed.get?_insert] at hq
  split at hq
  · next hk =>
    obtain rfl := Option.some.inj hq
    refine ⟨s.tree.freshNumber, by simp, by simp [Drafts.set, hk], fun r hr => ?_⟩
    split at hr
    · assumption
    · exact absurd hr (FileTree.node?_ne_freshNumber r)
  · next hk =>
    obtain ⟨n, hn, hb, hown⟩ := h.file k q hq
    have hqp : q ≠ p := fun he => h.not_temporary hnode k (he ▸ hq)
    have hfresh : n ≠ s.tree.freshNumber := fun he => FileTree.node?_ne_freshNumber q (he ▸ hn)
    refine ⟨n, by simp [hqp, hn], by simp [hfresh, hb, Drafts.set, hk], fun r hr => ?_⟩
    split at hr
    · exact absurd (by simpa using hr.symm) hfresh
    · exact hown r hr

theorem create (h : Drafted t paths d s) (hfree : d.pending kind = none) (hp : p ≠ [])
    (hnode : s.tree.node? p = none)
    (hname : ∀ k, p.getLast? ≠ (FileTree.steps (paths.get k)).getLast?) (b : FileBody) :
    Drafted t paths (d.set kind (some b)) ⟨s.tree.addFile p b,
      Keyed.insert kind p s.temporaries⟩ := by
  have hfreeTemp : Keyed.get? kind s.temporaries = none := by
    have := h.pending kind
    simpa [hfree] using this
  have hnew : t.node? p = none := by
    rcases h.node p with he | ⟨⟨n, hn⟩, -⟩
    · rw [← he, hnode]
    · simp [hn] at hnode
  exact {
    toRegistered := h.toRegistered.insert kind hp hnew hname (h.not_temporary hnode) b
    home := h.home
    node := h.node_create hfreeTemp hp hnew b
    file := h.file_create hp hnode b
    placed := h.placed
    elsewhere := fun q hq => by
      have hqp : q ≠ p := fun he => hq kind (by simp [Keyed.get?_insert, he])
      rw [FileTree.sight?_addFile_of_ne hp b hqp]
      refine h.elsewhere q fun k hk => ?_
      have hkk : k ≠ kind := fun he => by simp [he, hfreeTemp] at hk
      exact hq k (by simp [Keyed.get?_insert, hkk, hk]) }

end Create

theorem changeBody_eq {t : FileTree} {p : Place} {n : Nat} {b : FileBody}
    (hn : t.node? p = some (.file n)) (hb : t.body? n = some b) (f : FileBody → FileBody) :
    changeBody t p f = t.setBody n (f b) := by
  simp [changeBody, hn, hb]

theorem change (h : Drafted t paths d s) {kind : MapKind} {p : Place}
    (hk : Keyed.get? kind s.temporaries = some p) (f : FileBody → FileBody) :
    Drafted t paths (d.change kind f) { s with tree := changeBody s.tree p f } := by
  obtain ⟨n, hn, hb, hown⟩ := h.file kind p hk
  have hsome : (d.pending kind).isSome := by rw [h.pending kind, hk]; rfl
  obtain ⟨b, hpend⟩ := Option.isSome_iff_exists.mp hsome
  have hchange := changeBody_eq hn (hb.trans hpend) f
  refine ⟨h.toRegistered.change kind f, ?_, ?_, ?_, h.placed, ?_⟩
  · rw [hchange]
    exact h.home
  · intro q
    rw [hchange, FileTree.node?_setBody]
    exact h.node q
  · intro k q hq
    rw [hchange]
    simp only [FileTree.node?_setBody, FileTree.body?_setBody]
    by_cases hkk : k = kind
    · subst hkk
      obtain rfl : p = q := Option.some.inj (hk ▸ hq)
      exact ⟨n, hn, by simp [Drafts.change, Drafts.set, hpend], hown⟩
    · obtain ⟨m, hm, hbm, hownm⟩ := h.file k q hq
      have hne : m ≠ n := fun he => hkk (h.apart k kind q hq (hown q (he ▸ hm) ▸ hk))
      exact ⟨m, hm, by simp [Drafts.change, Drafts.set, hkk, hne, hbm], hownm⟩
  · intro q hq
    have hqp : q ≠ p := fun he => hq kind (he ▸ hk)
    rw [hchange]
    refine (FileTree.sight?_congr (FileTree.node?_setBody ..) fun m hm => ?_).trans
      (h.elsewhere q hq)
    have hne : m ≠ n := fun he => hqp (hown q (he ▸ hm))
    simp [hne]

section Move

variable {kind : MapKind} {p q : Place} {n : Nat} {b : FileBody} {tree : FileTree}

theorem node_move (h : Drafted t paths d s) (hk : Keyed.get? kind s.temporaries = some p)
    (hm : FileTree.Moved s.tree p q n tree) (hleads : t.place? (paths.get kind) = some q)
    (hdir : t.node? q ≠ some .directory) (r : Place) :
    tree.node? r = t.node? r ∨
      (∃ n, tree.node? r = some (.file n)) ∧ t.node? r ≠ some .directory ∧
        ((∃ k, Keyed.get? k (Keyed.erase kind s.temporaries) = some r) ∨
          ∃ x ∈ (kind, b) :: d.placed, t.place? (paths.get x.1) = some r) := by
  rw [hm.node]
  split
  · next hr =>
    subst hr
    exact .inr ⟨⟨n, rfl⟩, hdir, .inr ⟨(kind, b), List.mem_cons_self, hleads⟩⟩
  · split
    · next hr => exact .inl (by rw [hr, (h.isNew kind p hk).2.1])
    · next hrp =>
      rcases h.node r with he | ⟨hfile, hd, ⟨k, hkr⟩ | ⟨x, hx, hxr⟩⟩
      · exact .inl he
      · have hkk : k ≠ kind := fun he => hrp (Option.some.inj ((he ▸ hkr).symm.trans hk))
        exact .inr ⟨hfile, hd, .inl ⟨k, by simp [Keyed.get?_erase, hkk, hkr]⟩⟩
      · exact .inr ⟨hfile, hd, .inr ⟨x, List.mem_cons_of_mem _ hx, hxr⟩⟩

theorem file_move (h : Drafted t paths d s) (hk : Keyed.get? kind s.temporaries = some p)
    (hown : ∀ r, s.tree.node? r = some (.file n) → r = p) (hm : FileTree.Moved s.tree p q n tree)
    (htemp : ∀ k, Keyed.get? k s.temporaries ≠ some q) (k : MapKind) (r : Place)
    (hr : Keyed.get? k (Keyed.erase kind s.temporaries) = some r) :
    ∃ m, tree.node? r = some (.file m) ∧ tree.body? m = (d.set kind none).pending k ∧
      ∀ r', tree.node? r' = some (.file m) → r' = r := by
  rw [Keyed.get?_erase] at hr
  split at hr
  · cases hr
  · next hkk =>
    obtain ⟨m, hmr, hbm, hownm⟩ := h.file k r hr
    have hrp : r ≠ p := fun he => hkk (h.apart k kind r hr (he ▸ hk))
    have hrq : r ≠ q := fun he => htemp k (he ▸ hr)
    have hmn : m ≠ n := fun he => hrp (hown r (he ▸ hmr))
    refine ⟨m, by simp [hm.node, hrp, hrq, hmr], by simp [hm.body, hbm, Drafts.set, hkk],
      fun r' hr' => ?_⟩
    rw [hm.node] at hr'
    split at hr'
    · exact absurd (by simpa using hr'.symm) hmn
    · split at hr'
      · cases hr'
      · exact hownm r' hr'

theorem sight_move (h : Drafted t paths d s) (hk : Keyed.get? kind s.temporaries = some p)
    (hb : s.tree.body? n = some b) (hm : FileTree.Moved s.tree p q n tree)
    (hleads : t.place? (paths.get kind) = some q) (r : Place)
    (hr : ∀ k, Keyed.get? k (Keyed.erase kind s.temporaries) ≠ some r) :
    tree.sight? r = laid t paths ((kind, b) :: d.placed) r := by
  by_cases hrq : r = q
  · subst hrq
    rw [FileTree.sight?_file (by simp [hm.node]) ((hm.body n).trans hb)]
    simp [laid, hleads]
  · have hskip : laid t paths ((kind, b) :: d.placed) r = laid t paths d.placed r := by
      have hne : t.place? (paths.get kind) ≠ some r := fun he => hrq (Option.some.inj (he ▸ hleads))
      simp [laid, hne]
    rw [hskip]
    by_cases hrp : r = p
    · obtain ⟨-, hnew, hclaim⟩ := h.isNew kind p hk
      subst hrp
      rw [FileTree.sight?_eq_none (by simp [hm.node, hrq]), h.laid_of_unclaimed hclaim,
        FileTree.sight?_eq_none hnew]
    · have hold : ∀ k, Keyed.get? k s.temporaries ≠ some r := by
        intro k hkr
        have hkk : k ≠ kind := fun he => hrp (Option.some.inj ((he ▸ hkr).symm.trans hk))
        exact hr k (by simp [Keyed.get?_erase, hkk, hkr])
      rw [← h.elsewhere r hold]
      exact FileTree.sight?_congr (by simp [hm.node, hrq, hrp]) fun k _ => hm.body k

/-- A temporary file that is renamed stands where the path of its map leads, and nowhere else. -/
theorem place (h : Drafted t paths d s) (hk : Keyed.get? kind s.temporaries = some p)
    (hr : s.tree.rename p (paths.get kind) = .ok tree) :
    Drafted t paths (d.place kind) ⟨tree, Keyed.erase kind s.temporaries⟩ := by
  obtain ⟨target, node, hres, hname, hslash, hdir, hnode, htree⟩ := FileTree.rename_eq_ok hr
  obtain ⟨n, hn, hb, hown⟩ := h.file kind p hk
  obtain ⟨hp, hnew, hclaim⟩ := h.isNew kind p hk
  obtain ⟨htarget, hroot, hlast⟩ := FileTree.resolve_endsInName hname hslash hres
  obtain rfl : node = .file n := by rw [hn] at hnode; exact (Option.some.inj hnode).symm
  have hsome : (d.pending kind).isSome := by rw [h.pending kind, hk]; rfl
  obtain ⟨b, hpend⟩ := Option.isSome_iff_exists.mp hsome
  have hplace : d.place kind = { d.set kind none with placed := (kind, b) :: d.placed } := by
    simp [Drafts.place, hpend]
  -- No path of a map ends in the name of a temporary file, so the file does move.
  have hother : target.place ≠ p := fun he => hclaim kind (he ▸ hlast)
  have hm : FileTree.Moved s.tree p target.place n tree := by
    rw [htree, if_neg hother]
    exact FileTree.moved hp hroot
  have hleads : t.place? (paths.get kind) = some target.place :=
    FileTree.place?_of_covers h.covers hres
  have hfree : t.node? target.place ≠ some .directory := by
    rcases h.covers.node target.place with he | ⟨-, hd⟩
    · rw [← he, ← htarget]
      exact hdir
    · exact hd
  rw [hplace]
  exact {
    toRegistered := h.toRegistered.erase kind
    home := hm.home.trans h.home
    node := h.node_move hk hm hleads hfree
    file := h.file_move hk hown hm fun k hq => (h.isNew k _ hq).2.2 kind hlast
    placed := fun x hx => by
      rcases List.mem_cons.mp hx with rfl | hx
      · exact ⟨target.place, hleads, hlast⟩
      · exact h.placed x hx
    elsewhere := h.sight_move hk (hb.trans hpend) hm hleads }

end Move

end Drafted

end BlocklistSync.MapWriter
