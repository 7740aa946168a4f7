import BlocklistSync.Proofs.Maps.Outcome

/-! The four maps of one directory. Their files are entries of different names in the directory that
its path leads to, so that each write of a map changes that map alone; and no write makes the path
lead to another directory. -/
namespace BlocklistSync
open MapWriter

def mapPlace (d : Place) (kind : MapKind) : Place := d ++ [kind.fileName]

/-- The four files are those of one compilation. -/
def HoldsMaps (t : FileTree) (d : Place) (maps : CompiledMaps) : Prop :=
  ∀ kind, t.sight? (mapPlace d kind) = some (mapFile maps kind)

theorem mapFile_inj {maps maps' : CompiledMaps} {kind : MapKind} :
    mapFile maps kind = mapFile maps' kind ↔ maps.get kind = maps'.get kind := by
  constructor
  · intro h
    exact Text.Utf8.encode_injective (by simpa [mapFile, Content.ofText, Content.toBytes] using h)
  · intro h
    rw [mapFile, mapFile, h]

/-- The path leads to this directory, if to any. -/
def LeadsTo (t : FileTree) (dir : String) (d : Place) : Prop :=
  ∀ p, t.directory? dir = some p → p = d

theorem mapPlace_injective {d : Place} {kind kind' : MapKind}
    (h : mapPlace d kind = mapPlace d kind') :
    kind = kind' := by
  have hn : kind.fileName = kind'.fileName := by simpa [mapPlace] using h
  cases kind <;> cases kind' <;> first | rfl | exact absurd hn (by decide)

theorem HoldsMaps.iff_texts {t : FileTree} {d : Place} {maps maps' : CompiledMaps}
    (h : HoldsMaps t d maps) :
    HoldsMaps t d maps' ↔ maps.texts = maps'.texts := by
  constructor
  · intro h'
    refine PerMap.ext fun kind => mapFile_inj.mp ?_
    exact Option.some.inj ((h kind).symm.trans (h' kind))
  · intro htexts kind
    rw [h kind, Option.some_inj, mapFile_inj, CompiledMaps.get, CompiledMaps.get, htexts]

theorem fileName_isName (kind : MapKind) : FileTree.IsName kind.fileName := by
  constructor <;> cases kind <;> decide

theorem place?_inDir {t : FileTree} {dir : String} {kind : MapKind} {p : Place}
    (h : t.place? ((MapPaths.inDir dir).get kind) = some p) :
    ∃ d, t.directory? dir = some d ∧ p = mapPlace d kind := by
  unfold FileTree.place? at h
  rw [MapPaths.inDir, PerMap.get_ofFn] at h
  rcases hr : t.resolve false (Path.join dir kind.fileName) with e | target
  · simp [hr, Except.toOption] at h
  · have hdot : kind.fileName ≠ "." := by cases kind <;> decide
    have hup : kind.fileName ≠ ".." := by cases kind <;> decide
    obtain ⟨d, hd, rfl⟩ := FileTree.resolve_join (fileName_isName kind) hdot hup hr
    simp only [hr, Except.toOption, Option.map_some, Option.some.injEq] at h
    exact ⟨d, hd, h.symm⟩

variable {t : FileTree} {dir : String} {d : Place} {faults : Faults} {maps : CompiledMaps}

/-- A write changes the files of the maps that it replaces, and no other map. -/
theorem sight?_mapPlace (hl : LeadsTo t dir d) (kind : MapKind) :
    (writeWith faults t (MapPaths.inDir dir) maps).tree.sight? (mapPlace d kind) =
      if kind ∈ replacedBy faults t (MapPaths.inDir dir) maps then some (mapFile maps kind)
      else t.sight? (mapPlace d kind) := by
  have honly : ∀ kind', t.place? ((MapPaths.inDir dir).get kind') = some (mapPlace d kind) →
      kind' = kind := by
    intro kind' hp
    obtain ⟨d', hd', he⟩ := place?_inDir hp
    rw [hl d' hd'] at he
    exact (mapPlace_injective he).symm
  rw [sight?_writeWith, overwritten]
  split
  · next kind' ho =>
    rw [← honly kind' (place?_of_occupant? ho), if_pos (mem_of_occupant? ho)]
  · next ho =>
    split
    · next hm =>
      obtain ⟨p, hp⟩ := place?_of_replaced _ _ _ _ hm
      obtain ⟨d', hd', he⟩ := place?_inDir hp
      rw [he, hl d' hd'] at hp
      obtain ⟨kind', ho'⟩ := exists_occupant? hm hp
      simp [ho] at ho'
    · rfl

theorem leadsTo_writeWith (hl : LeadsTo t dir d) (paths : MapPaths) :
    LeadsTo (writeWith faults t paths maps).tree dir d :=
  fun p hp => hl p (FileTree.directory?_of_covers (covers_writeWith faults t paths maps) hp)

end BlocklistSync
