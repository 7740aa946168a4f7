import BlocklistSync.Proofs.Maps.Rules

/-! What each map contains: the lines of the entries of its kind, in the order of their patterns.
One pass over the sorted entries fills all four maps, and the order of a map is that of its own
patterns, so that an entry more is one line more in one map and another mode moves one line from one
map to another. -/
namespace BlocklistSync

namespace CompiledMaps

def blank (total : Nat) : CompiledMaps := ⟨PerMap.ofFn fun _ => "", 0, total⟩

def push (maps : CompiledMaps) (e : Entry) : CompiledMaps where
  texts := PerMap.ofFn fun kind =>
    if MapKind.ofEntry e = kind then maps.get kind ++ kind.render e.pattern else maps.get kind
  patternEntries := maps.patternEntries + if (MapKind.ofEntry e).isPattern then 1 else 0
  totalEntries := maps.totalEntries

end CompiledMaps

theorem mapText_concat (kind : MapKind) (entries : List Entry) (e : Entry) :
    mapText kind (entries ++ [e]) =
      if MapKind.ofEntry e = kind then mapText kind entries ++ kind.render e.pattern
        else mapText kind entries := by
  rw [mapText, List.filter_append, List.map_append, String.join_append]
  split
  · next h => simp [mapText, h]
  · next h => simp [mapText, h]

/-- What one pass has put into the maps when it has come so far. -/
theorem foldl_push (total : Nat) (seen : List Entry) :
    seen.foldl CompiledMaps.push (.blank total) =
      ⟨PerMap.ofFn fun kind => mapText kind seen, seen.countP (·.isRegex), total⟩ := by
  induction seen using List.reverseRecOn with
  | nil => rfl
  | append_singleton seen e ih =>
    rw [List.foldl_concat, ih]
    simp only [CompiledMaps.push, CompiledMaps.get, PerMap.get_ofFn, mapText_concat,
      MapKind.isPattern_ofEntry, List.countP_append, List.countP_singleton]

/-- Sorting once and filling the four maps in one pass is what compiling is. -/
theorem compile_eq_foldl (entries : List Entry) :
    compile entries = (sortedEntries entries).foldl CompiledMaps.push (.blank entries.length) := by
  rw [foldl_push, (sortedEntries_perm entries).countP_eq, compile]

/-- The patterns of a map in the order of its lines. -/
def mapPatterns (kind : MapKind) (entries : List Entry) : List String :=
  patternsOf kind ((sortedEntries entries).map Entry.rule)

theorem get_compile_eq_join (entries : List Entry) (kind : MapKind) :
    (compile entries).get kind = String.join ((mapPatterns kind entries).map kind.render) := by
  rw [get_compile, mapText_eq, mapPatterns]

theorem pairwise_mapPatterns (kind : MapKind) (entries : List Entry) :
    (mapPatterns kind entries).Pairwise patternLe :=
  pairwise_patternsOf kind entries

theorem mapPatterns_perm (kind : MapKind) (entries : List Entry) :
    (mapPatterns kind entries).Perm
      ((entries.filter (MapKind.ofEntry · = kind)).map (·.pattern)) := by
  have hbucket : patternsOf kind (entries.map Entry.rule) =
      (entries.filter (MapKind.ofEntry · = kind)).map (·.pattern) := by
    simp only [patternsOf, List.filter_map, List.map_map, MapKind.ofEntry_eq_iff]
    rfl
  rw [← hbucket]
  exact patternsOf_perm kind ((sortedEntries_perm entries).map _)

/-- Of two sorted lists, the one with an element more has it somewhere in between. -/
theorem exists_insertion {p : String} {ps ps' : List String} (hs : ps.Pairwise patternLe)
    (hs' : ps'.Pairwise patternLe) (hp : ps'.Perm (p :: ps)) :
    ∃ front back, ps = front ++ back ∧ ps' = front ++ p :: back := by
  obtain ⟨front, back, rfl⟩ := List.append_of_mem (hp.mem_iff.mpr List.mem_cons_self)
  have hrest : (front ++ back).Perm ps := (List.perm_middle.symm.trans hp).cons_inv
  have hsorted : (front ++ back).Pairwise patternLe :=
    hs'.sublist (List.Sublist.append_left (List.sublist_cons_self p back) front)
  exact ⟨front, back, (hrest.eq_of_pairwise (fun _ _ _ _ => patternLe_antisymm) hsorted hs).symm,
    rfl⟩

/-- The one text is the other with the line of one more pattern in it. -/
def Gains (kind : MapKind) (pattern before after : String) : Prop :=
  ∃ front back : List String, before = String.join ((front ++ back).map kind.render) ∧
    after = String.join ((front ++ pattern :: back).map kind.render)

section Addition
variable (front back : List Entry) (e : Entry)

theorem mapPatterns_insert_perm (kind : MapKind) :
    (mapPatterns kind (front ++ e :: back)).Perm
      (if MapKind.ofEntry e = kind then e.pattern :: mapPatterns kind (front ++ back)
        else mapPatterns kind (front ++ back)) := by
  have hfilter : ((front ++ e :: back).filter (MapKind.ofEntry · = kind)).Perm
      ((e :: (front ++ back)).filter (MapKind.ofEntry · = kind)) := List.perm_middle.filter _
  refine (mapPatterns_perm kind _).trans ((hfilter.map _).trans ?_)
  have hold := (mapPatterns_perm kind (front ++ back)).symm
  split
  · next h =>
    rw [List.filter_cons_of_pos (by simpa using h), List.map_cons]
    exact hold.cons _
  · next h =>
    rw [List.filter_cons_of_neg (by simpa using h)]
    exact hold

theorem gains_of_entry :
    Gains (MapKind.ofEntry e) e.pattern ((compile (front ++ back)).get (MapKind.ofEntry e))
    ((compile (front ++ e :: back)).get (MapKind.ofEntry e)) := by
  have hp := mapPatterns_insert_perm front back e (MapKind.ofEntry e)
  rw [if_pos rfl] at hp
  obtain ⟨ps, qs, hold, hnew⟩ :=
    exists_insertion (pairwise_mapPatterns _ _) (pairwise_mapPatterns _ _) hp
  exact ⟨ps, qs, by rw [get_compile_eq_join, hold], by rw [get_compile_eq_join, hnew]⟩

theorem get_compile_of_ne {kind : MapKind} (hk : kind ≠ MapKind.ofEntry e) :
    (compile (front ++ e :: back)).get kind = (compile (front ++ back)).get kind := by
  have hp := mapPatterns_insert_perm front back e kind
  rw [if_neg hk.symm] at hp
  rw [get_compile_eq_join, get_compile_eq_join,
    hp.eq_of_pairwise (fun _ _ _ _ => patternLe_antisymm)
    (pairwise_mapPatterns kind _) (pairwise_mapPatterns kind _)]

end Addition

def Entry.toggled (e : Entry) : Entry := { e with testMode := !e.testMode }

theorem MapKind.ofEntry_toggled_ne (e : Entry) : ofEntry e.toggled ≠ ofEntry e := by
  intro h
  have hmode : e.toggled.testMode = e.testMode := by rw [← isTest_ofEntry, h, isTest_ofEntry]
  simp [Entry.toggled] at hmode

/-- Every map is made of the lines of the entries of its kind, each there once, in the order of
their patterns, and the counts are those of the list; so it is whether the maps are filled in one
pass or each is sorted on its own. An entry that is added puts its line into one map, one that
changes its mode takes it from one map to another, and nothing else changes. -/
theorem compile_contents :
    (∀ entries kind, ∃ patterns : List String,
      patterns.Perm ((entries.filter (MapKind.ofEntry · = kind)).map (·.pattern)) ∧
        patterns.Pairwise patternLe ∧
      (compile entries).get kind = String.join (patterns.map fun pattern =>
        if kind.isPattern then "/" ++ pattern ++ "/ REJECT\n" else pattern ++ " REJECT\n")) ∧
    (∀ entries, (compile entries).totalEntries = entries.length ∧
      (compile entries).patternEntries = (entries.filter (·.isRegex)).length ∧
      compile entries = (sortedEntries entries).foldl CompiledMaps.push (.blank entries.length)) ∧
    (∀ front back e,
      Gains (MapKind.ofEntry e) e.pattern ((compile (front ++ back)).get (MapKind.ofEntry e))
        ((compile (front ++ e :: back)).get (MapKind.ofEntry e)) ∧
      ∀ kind, kind ≠ MapKind.ofEntry e →
        (compile (front ++ e :: back)).get kind = (compile (front ++ back)).get kind) ∧
    ∀ front back e, MapKind.ofEntry e.toggled ≠ MapKind.ofEntry e ∧
      Gains (MapKind.ofEntry e) e.pattern
        ((compile (front ++ e.toggled :: back)).get (MapKind.ofEntry e))
        ((compile (front ++ e :: back)).get (MapKind.ofEntry e)) ∧
      Gains (MapKind.ofEntry e.toggled) e.pattern
        ((compile (front ++ e :: back)).get (MapKind.ofEntry e.toggled))
        ((compile (front ++ e.toggled :: back)).get (MapKind.ofEntry e.toggled)) ∧
      ∀ kind, kind ≠ MapKind.ofEntry e → kind ≠ MapKind.ofEntry e.toggled →
        (compile (front ++ e.toggled :: back)).get kind =
          (compile (front ++ e :: back)).get kind := by
  refine ⟨fun entries kind => ?_,
    fun entries => ⟨rfl, List.countP_eq_length_filter, compile_eq_foldl entries⟩,
    fun front back e => ⟨gains_of_entry front back e, fun kind => get_compile_of_ne front back e⟩,
    fun front back e => ?_⟩
  · exact ⟨_, mapPatterns_perm kind entries, pairwise_mapPatterns kind entries,
      get_compile_eq_join entries kind⟩
  · have hne := MapKind.ofEntry_toggled_ne e
    refine ⟨hne, ?_, ?_, fun kind hleft hentered => ?_⟩
    · rw [get_compile_of_ne front back e.toggled hne.symm]
      exact gains_of_entry front back e
    · rw [get_compile_of_ne front back e hne]
      exact gains_of_entry front back e.toggled
    · rw [get_compile_of_ne front back e.toggled hentered, get_compile_of_ne front back e hleft]

section Moved

/-- The same address twice, and a pattern that comes before it. -/
def movedRule : Entry := ⟨9, "a@x.com", false, false, none⟩

def rulesBefore : List Entry :=
  [⟨2, "b@x.com", false, false, none⟩, ⟨1, "a@x.com", false, false, some .epoch⟩]

def rulesAfter : List Entry := [⟨3, "^a", true, false, none⟩, ⟨4, "A@x.com", false, true, none⟩]

theorem compile_contents_of_movedRule :
    (compile (rulesBefore ++ movedRule :: rulesAfter)).get .enforceLiteral =
      "a@x.com REJECT\na@x.com REJECT\nb@x.com REJECT\n" ∧
    MapKind.enforcePattern ≠ MapKind.ofEntry movedRule ∧
    MapKind.enforcePattern ≠ MapKind.ofEntry movedRule.toggled ∧
    (compile (rulesBefore ++ movedRule.toggled :: rulesAfter)).get .enforcePattern =
      (compile (rulesBefore ++ movedRule :: rulesAfter)).get .enforcePattern ∧
    (compile (rulesBefore ++ movedRule :: rulesAfter)).get .testLiteral =
      (compile (rulesBefore ++ rulesAfter)).get .testLiteral := by
  obtain ⟨hcontents, -, hadded, hmoved⟩ := compile_contents
  obtain ⟨-, -, -, hother⟩ := hmoved rulesBefore rulesAfter movedRule
  obtain ⟨patterns, hperm, hsorted, htext⟩ :=
    hcontents (rulesBefore ++ movedRule :: rulesAfter) .enforceLiteral
  have hascending : ["a@x.com", "a@x.com", "b@x.com"].Pairwise patternLe := by
    unfold patternLe
    decide +kernel
  have hpatterns : patterns = ["a@x.com", "a@x.com", "b@x.com"] :=
    (hperm.trans (by decide +kernel)).eq_of_pairwise (fun _ _ _ _ => patternLe_antisymm) hsorted
      hascending
  refine ⟨?_, by decide, by decide, hother _ (by decide) (by decide),
    (hadded rulesBefore rulesAfter movedRule).2 _ (by decide)⟩
  rw [htext, hpatterns]
  decide +kernel

end Moved

end BlocklistSync
