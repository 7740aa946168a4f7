import BlocklistSync.Maps.Compile
import BlocklistSync.Text.Lines
import Mathlib.Data.List.DropRight
import Mathlib.Order.Defs.LinearOrder

/-! What the four maps say of the blocklist. Read line by line they give back the rules that they
were made of, each as often as it was there, and nothing else about the entries goes into them. -/
namespace BlocklistSync

/-- What an entry asks for. Neither its id nor its stamp is a part of it. -/
structure Rule where
  pattern : String
  isRegex : Bool
  testMode : Bool
  deriving DecidableEq

def Entry.rule (e : Entry) : Rule := ⟨e.pattern, e.isRegex, e.testMode⟩

/-- No pattern breaks the line that it stands in. -/
def FitLines (entries : List Entry) : Prop := ∀ e ∈ entries, '\n' ∉ e.pattern.toList

instance (entries : List Entry) : Decidable (FitLines entries) :=
  inferInstanceAs (Decidable (∀ e ∈ entries, '\n' ∉ e.pattern.toList))

namespace MapKind

def isTest : MapKind → Bool
  | testLiteral | testPattern => true
  | enforceLiteral | enforcePattern => false

theorem isTest_ofEntry (e : Entry) : (ofEntry e).isTest = e.testMode := by
  unfold ofEntry
  cases e.testMode <;> cases e.isRegex <;> rfl

theorem ofEntry_eq_iff {e : Entry} {kind : MapKind} :
    ofEntry e = kind ↔ e.isRegex = kind.isPattern ∧ e.testMode = kind.isTest := by
  constructor
  · rintro rfl
    exact ⟨(isPattern_ofEntry e).symm, (isTest_ofEntry e).symm⟩
  · rintro ⟨hregex, htest⟩
    rw [ofEntry, hregex, htest]
    cases kind <;> rfl

def opening (kind : MapKind) : List Char := if kind.isPattern then ['/'] else []

def closing (kind : MapKind) : List Char :=
  (if kind.isPattern then ['/'] else []) ++ " REJECT".toList

theorem toList_render (kind : MapKind) (pattern : String) :
    (kind.render pattern).toList = kind.opening ++ pattern.toList ++ kind.closing ++ ['\n'] := by
  cases kind <;> simp [render, isPattern, opening, closing, toString]

/-- The pattern in a line of a map. -/
def patternOf (kind : MapKind) (line : String) : String :=
  String.ofList ((line.toList.drop kind.opening.length).rdrop kind.closing.length)

def ruleOf (kind : MapKind) (line : String) : Rule :=
  ⟨kind.patternOf line, kind.isPattern, kind.isTest⟩

def line (kind : MapKind) (pattern : String) : String :=
  String.ofList (kind.opening ++ pattern.toList ++ kind.closing)

theorem patternOf_line (kind : MapKind) (pattern : String) :
    kind.patternOf (kind.line pattern) = pattern := by
  simp only [patternOf, line, String.toList_ofList, List.append_assoc, List.drop_left,
    List.rdrop_append_length, String.ofList_toList]

theorem ruleOf_line (e : Entry) : (ofEntry e).ruleOf ((ofEntry e).line e.pattern) = e.rule := by
  rw [ruleOf, patternOf_line, isPattern_ofEntry, isTest_ofEntry, Entry.rule]

end MapKind

/-- The rules that the maps hold, map by map and line by line. -/
def CompiledMaps.rules (maps : CompiledMaps) : List Rule :=
  MapKind.all.flatMap fun kind => (Text.lines (maps.get kind)).map kind.ruleOf

namespace Text

theorem linesFrom_append {front : List Char} (hf : '\n' ∉ front) (line back : List Char) :
    linesFrom line (front ++ '\n' :: back) = dropReturn (line ++ front) :: linesFrom [] back := by
  induction front generalizing line with
  | nil => simp [linesFrom]
  | cons c front ih =>
    obtain ⟨hc, hf⟩ := not_or.mp (mt List.mem_cons.mpr hf)
    rw [List.cons_append, linesFrom, if_neg (Ne.symm hc), ih hf, List.append_assoc,
      List.singleton_append]

/-- A text that is put together of lines falls apart into them again. -/
theorem lines_join {α : Type} {f : α → String} {g : α → List Char} {xs : List α}
    (hf : ∀ x ∈ xs, (f x).toList = g x ++ ['\n']) (hg : ∀ x ∈ xs, '\n' ∉ g x)
    (hr : ∀ x ∈ xs, dropReturn (g x) = g x) :
    lines (String.join (xs.map f)) = xs.map fun x => String.ofList (g x) := by
  induction xs with
  | nil => rfl
  | cons x xs ih =>
    simp only [List.forall_mem_cons] at hf hg hr
    have hrest := ih hf.2 hg.2 hr.2
    simp only [lines] at hrest ⊢
    rw [List.map_cons, String.join_cons, String.toList_append, hf.1, List.append_assoc,
      List.singleton_append, linesFrom_append hg.1, List.nil_append, hr.1, List.map_cons, hrest,
      List.map_cons]

end Text

namespace MapKind

theorem dropReturn_line (kind : MapKind) (pattern : List Char) :
    Text.dropReturn (kind.opening ++ pattern ++ kind.closing) = kind.opening ++ pattern ++
      kind.closing := by
  have hlast : (kind.opening ++ pattern ++ kind.closing).getLast? = some 'T' := by
    cases kind <;> simp [closing, isPattern, List.getLast?_append]
  rw [Text.dropReturn, hlast, if_neg (by decide)]

theorem newline_not_mem_line (kind : MapKind) {pattern : List Char} (hp : '\n' ∉ pattern) :
    '\n' ∉ kind.opening ++ pattern ++ kind.closing := by
  cases kind <;> simp [opening, closing, isPattern, hp]

end MapKind

theorem lines_mapText (kind : MapKind) {entries : List Entry} (hf : FitLines entries) :
    Text.lines (mapText kind entries) =
      (entries.filter (MapKind.ofEntry · = kind)).map fun e => kind.line e.pattern :=
  Text.lines_join (fun e _ => kind.toList_render e.pattern)
    (fun e he => kind.newline_not_mem_line (hf e (List.mem_of_mem_filter he)))
    fun e _ => kind.dropReturn_line e.pattern.toList

theorem map_ruleOf_lines (kind : MapKind) {entries : List Entry} (hf : FitLines entries) :
    (Text.lines (mapText kind entries)).map kind.ruleOf =
      (entries.filter (MapKind.ofEntry · = kind)).map Entry.rule := by
  rw [lines_mapText kind hf, List.map_map]
  refine List.map_congr_left fun e he => ?_
  obtain rfl := of_decide_eq_true (List.mem_filter.mp he).2
  exact MapKind.ruleOf_line e

theorem perm_flatMap_kinds (entries : List Entry) :
    (MapKind.all.flatMap fun kind => entries.filter (MapKind.ofEntry · = kind)).Perm entries := by
  rw [List.perm_iff_count]
  intro e
  simp only [MapKind.all, List.flatMap_cons, List.flatMap_nil, List.count_append, List.count_nil]
  have hcount : ∀ kind, (entries.filter (MapKind.ofEntry · = kind)).count e =
      if MapKind.ofEntry e = kind then entries.count e else 0 := by
    intro kind
    split
    · next h => exact List.count_filter (decide_eq_true h)
    · next h =>
      exact List.count_eq_zero.mpr fun hm =>
        h (of_decide_eq_true (List.mem_filter.mp hm).2)
  simp only [hcount]
  cases MapKind.ofEntry e <;> simp

theorem fitLines_sortedEntries {entries : List Entry} (hf : FitLines entries) :
    FitLines (sortedEntries entries) :=
  fun e he => hf e ((sortedEntries_perm entries).mem_iff.mp he)

/-- What was compiled can be read back. -/
theorem rules_compile {entries : List Entry} (hf : FitLines entries) :
    (compile entries).rules.Perm (entries.map Entry.rule) := by
  have hrules : (compile entries).rules =
      (MapKind.all.flatMap fun kind =>
          (sortedEntries entries).filter (MapKind.ofEntry · = kind)).map Entry.rule := by
    simp only [CompiledMaps.rules, get_compile, map_ruleOf_lines _ (fitLines_sortedEntries hf),
      List.map_flatMap]
  rw [hrules]
  exact ((perm_flatMap_kinds _).trans (sortedEntries_perm entries)).map _

def patternLe (p q : String) : Prop := (compare (Text.Utf8.encode p) (Text.Utf8.encode q)).isLE

theorem patternLe_antisymm {p q : String} (hpq : patternLe p q) (hqp : patternLe q p) : p = q :=
  Text.Utf8.encode_injective (Std.LawfulEqOrd.eq_of_compare (Std.OrientedCmp.isLE_antisymm hpq hqp))

/-- The order in which entries are put into maps: by pattern, and by id where patterns are the
same. -/
def Entry.order : Entry → Entry → Ordering :=
  compareLex (compareOn fun e => Text.Utf8.encode e.pattern) (compareOn (·.id))

instance : Std.TransCmp Entry.order := inferInstanceAs (Std.TransCmp (compareLex _ _))

theorem Entry.le_eq (a b : Entry) : a.le b = (a.order b).isLE := by
  simp only [le, order, compareLex, compareOn]
  cases compare (Text.Utf8.encode a.pattern) (Text.Utf8.encode b.pattern) with
  | eq => exact Bool.eq_iff_iff.mpr (decide_eq_true_iff.trans Int.isLE_compare.symm)
  | lt | gt => rfl

theorem Entry.patternLe_of_le {a b : Entry} (h : a.le b) : patternLe a.pattern b.pattern := by
  unfold le at h
  unfold patternLe
  split at h <;> simp_all

theorem pairwise_sortedEntries (entries : List Entry) :
    (sortedEntries entries).Pairwise fun a b => patternLe a.pattern b.pattern := by
  have hsorted : (sortedEntries entries).Pairwise fun a b => a.le b := by
    refine List.pairwise_mergeSort (fun a b c hab hbc => ?_) (fun a b => ?_) entries
    · rw [Entry.le_eq] at hab hbc ⊢
      exact Std.TransCmp.isLE_trans hab hbc
    · rw [Entry.le_eq, Entry.le_eq, show b.order a = (a.order b).swap from Std.OrientedCmp.eq_swap]
      cases a.order b <;> rfl
  exact hsorted.imp Entry.patternLe_of_le

def patternsOf (kind : MapKind) (rules : List Rule) : List String :=
  (rules.filter fun r => r.isRegex = kind.isPattern ∧ r.testMode = kind.isTest).map (·.pattern)

theorem mapText_eq (kind : MapKind) (entries : List Entry) :
    mapText kind entries =
      String.join ((patternsOf kind (entries.map Entry.rule)).map kind.render) := by
  simp only [mapText, patternsOf, List.filter_map, List.map_map, MapKind.ofEntry_eq_iff]
  rfl

theorem patternsOf_perm (kind : MapKind) {rules rules' : List Rule} (hp : rules.Perm rules') :
    (patternsOf kind rules).Perm (patternsOf kind rules') := (hp.filter _).map _

theorem pairwise_patternsOf (kind : MapKind) (entries : List Entry) :
    (patternsOf kind ((sortedEntries entries).map Entry.rule)).Pairwise patternLe := by
  rw [patternsOf, List.filter_map, List.map_map, List.pairwise_map]
  exact (pairwise_sortedEntries entries).filter _

/-- The order of the patterns is total, so that each map has one text whatever the order of the
entries. -/
theorem mapText_congr (kind : MapKind) {a b : List Entry}
    (hp : (a.map Entry.rule).Perm (b.map Entry.rule)) :
    mapText kind (sortedEntries a) = mapText kind (sortedEntries b) := by
  have hsorted : ((sortedEntries a).map Entry.rule).Perm ((sortedEntries b).map Entry.rule) :=
    ((sortedEntries_perm a).map _).trans (hp.trans ((sortedEntries_perm b).map _).symm)
  rw [mapText_eq, mapText_eq, (patternsOf_perm kind hsorted).eq_of_pairwise
    (fun _ _ _ _ => patternLe_antisymm)
    (pairwise_patternsOf kind a) (pairwise_patternsOf kind b)]

/-- Nothing but the rules goes into the maps. -/
theorem compile_congr {a b : List Entry} (hp : (a.map Entry.rule).Perm (b.map Entry.rule)) :
    compile a = compile b := by
  have hpatterns : ∀ entries : List Entry,
      entries.countP (·.isRegex) = (entries.map Entry.rule).countP (·.isRegex) :=
    fun entries => by rw [List.countP_map]; rfl
  have hlength : a.length = b.length := by simpa using hp.length_eq
  rw [compile, compile, hpatterns a, hpatterns b, hp.countP_eq, hlength]
  simp only [fun kind => mapText_congr kind hp]

/-- Maps and rules determine each other, as long as no pattern breaks its line; whatever the
patterns are, entries with the same rules compile to the same maps. -/
theorem compile_eq_iff {a : List Entry} (ha : FitLines a) :
    (compile a).rules.Perm (a.map Entry.rule) ∧
    (∀ b, FitLines b → (compile a = compile b ↔ (a.map Entry.rule).Perm (b.map Entry.rule))) ∧
    ∀ b, (a.map Entry.rule).Perm (b.map Entry.rule) → compile a = compile b := by
  refine ⟨rules_compile ha, fun b hb => ⟨fun hc => ?_, compile_congr⟩, fun b => compile_congr⟩
  have hread := (rules_compile ha).symm
  rw [hc] at hread
  exact hread.trans (rules_compile hb)

section OddPatterns

/-- Patterns that look like lines of a map, one of them twice. -/
def oddEntries : List Entry :=
  [⟨2, "x REJECT", false, false, none⟩, ⟨1, "", true, true, some .epoch⟩,
    ⟨1, "x REJECT", false, false, none⟩, ⟨7, "/x/ REJECT\r", true, false, none⟩]

/-- The same rules under other ids and in another order. -/
def oddEntriesRenumbered : List Entry :=
  oddEntries.reverse.map fun e => { e with id := 7 - e.id, updatedAt := none }

theorem compile_eq_iff_of_oddEntries :
    FitLines oddEntries ∧ (compile oddEntries).rules.Perm (oddEntries.map Entry.rule) ∧
      compile oddEntries = compile oddEntriesRenumbered ∧
        compile oddEntries ≠ compile oddEntries.tail := by
  have hf : FitLines oddEntries := by decide +kernel
  obtain ⟨hrules, hiff, hcongr⟩ := compile_eq_iff hf
  refine ⟨hf, hrules, hcongr _ (by decide +kernel), fun hc => ?_⟩
  exact absurd ((hiff _ (by decide +kernel)).mp hc) (by decide +kernel)

end OddPatterns

end BlocklistSync
