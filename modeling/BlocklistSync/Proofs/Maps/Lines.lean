import BlocklistSync.Maps.Writer
import BlocklistSync.Proofs.Maps.Rules
import Mathlib.Algebra.GroupWithZero.Nat

/-! How many lines the entries take up. A pattern stands in its line verbatim, so that each newline
in it ends that line and begins one more. -/
namespace BlocklistSync

namespace Text

theorem linesFrom_append_newline (line front back : List Char) :
    linesFrom line (front ++ '\n' :: back) = linesFrom line (front ++ ['\n']) ++ linesFrom
      [] back := by
  induction front generalizing line with
  | nil => rfl
  | cons c front ih =>
    rw [List.cons_append, List.cons_append, linesFrom, linesFrom]
    by_cases hc : c = '\n'
    · rw [if_pos hc, if_pos hc, ih, List.cons_append]
    · rw [if_neg hc, if_neg hc, ih]

theorem lines_join_eq_flatMap {α : Type} {f : α → String} {g : α → List Char}
    (hf : ∀ x, (f x).toList = g x ++ ['\n']) (xs : List α) :
    lines (String.join (xs.map f)) = xs.flatMap fun x => lines (f x) := by
  induction xs with
  | nil => rfl
  | cons x xs ih =>
    simp only [lines] at ih ⊢
    rw [List.map_cons, String.join_cons, String.toList_append, hf, List.append_assoc,
      List.singleton_append, linesFrom_append_newline, List.map_append, ih, List.flatMap_cons, hf]

theorem length_linesFrom {line : List Char} (hl : '\n' ∉ line) (cs : List Char) :
    (linesFrom line cs).length = cs.count '\n' + if (line ++ cs).getLast?.all
      (· = '\n') then 0 else 1 := by
  induction cs generalizing line with
  | nil =>
    cases hlast : line.getLast? with
    | none => simp [linesFrom, List.getLast?_eq_none_iff.mp hlast]
    | some c =>
      have hne : line ≠ [] := by
        rintro rfl
        cases hlast
      have hc : c ≠ '\n' := fun h => hl (h ▸ List.mem_of_getLast? hlast)
      simp [linesFrom, hne, hlast, hc]
  | cons c cs ih =>
    rw [linesFrom]
    by_cases hc : c = '\n'
    · have hend : (line ++ c :: cs).getLast?.all (· = '\n') = cs.getLast?.all (· = '\n') := by
        cases hlast : cs.getLast? <;> simp [List.getLast?_append, List.getLast?_cons, hlast, hc]
      rw [if_pos hc, List.length_cons, ih (List.not_mem_nil), hend, hc, List.count_cons_self,
        List.nil_append]
      omega
    · have hl' : '\n' ∉ line ++ [c] := by simp [hl, Ne.symm hc]
      rw [if_neg hc, ih hl', List.count_cons_of_ne hc, List.append_assoc, List.singleton_append]

end Text

/-- The lines that a report counts are those that a reader of the map sees. -/
theorem lineCount_eq (text : String) : lineCount text = (Text.lines text).length := by
  rw [Text.lines, List.length_map, Text.length_linesFrom List.not_mem_nil, List.nil_append,
    lineCount]

def breaks (entries : List Entry) : Nat := (entries.map (·.pattern.toList.count '\n')).sum

theorem breaks_eq_zero_iff {entries : List Entry} : breaks entries = 0 ↔ FitLines entries := by
  simp only [breaks, FitLines, List.sum_eq_zero_iff_forall_eq_nat, List.forall_mem_map,
    List.count_eq_zero]

theorem breaks_perm {entries entries' : List Entry} (hp : entries.Perm entries') :
    breaks entries = breaks entries' :=
  (hp.map _).sum_nat

theorem length_lines_render (kind : MapKind) (pattern : String) :
    (Text.lines (kind.render pattern)).length = 1 + pattern.toList.count '\n' := by
  have hcount : ∀ kind : MapKind, kind.opening.count '\n' = 0 ∧ kind.closing.count '\n' = 0 := by
    intro kind
    cases kind <;> decide
  rw [← lineCount_eq, lineCount, kind.toList_render]
  simp [List.count_append, hcount kind, Nat.add_comm]

/-- Each entry of a map has lines of its own in it. -/
theorem lines_mapText_eq_flatMap (kind : MapKind) (entries : List Entry) :
    Text.lines (mapText kind entries) =
      (entries.filter (MapKind.ofEntry · = kind)).flatMap fun e => Text.lines
        (kind.render e.pattern) := by
  rw [mapText, Text.lines_join_eq_flatMap fun e : Entry => kind.toList_render e.pattern]

theorem length_lines_mapText (kind : MapKind) (entries : List Entry) :
    (Text.lines (mapText kind entries)).length =
      (entries.filter (MapKind.ofEntry · = kind)).length + breaks
        (entries.filter (MapKind.ofEntry · = kind)) := by
  rw [lines_mapText_eq_flatMap]
  induction entries.filter (MapKind.ofEntry · = kind) with
  | nil => rfl
  | cons e rest ih =>
    rw [List.flatMap_cons, List.length_append, length_lines_render, ih, List.length_cons, breaks,
      breaks, List.map_cons, List.sum_cons]
    omega

theorem length_lines_compile (kind : MapKind) (entries : List Entry) :
    (Text.lines ((compile entries).get kind)).length =
      (entries.filter (MapKind.ofEntry · = kind)).length + breaks
        (entries.filter (MapKind.ofEntry · = kind)) := by
  have hp := (sortedEntries_perm entries).filter (MapKind.ofEntry · = kind)
  rw [get_compile, length_lines_mapText, hp.length_eq, breaks_perm hp]

/-- All lines together, for each entry is in one map. -/
theorem totalLines_report (paths : MapPaths) (entries : List Entry) :
    (MapWriter.report paths (compile entries)).totalLines = entries.length + breaks entries := by
  have hp := perm_flatMap_kinds entries
  rw [← hp.length_eq, ← breaks_perm hp]
  simp only [WriteReport.totalLines, MapWriter.report, lineCount_eq, length_lines_compile, breaks,
    MapKind.all, List.map_cons, List.map_nil, List.foldl_cons, List.foldl_nil, List.flatMap_cons,
    List.flatMap_nil, List.length_append, List.map_append, List.sum_append, List.length_nil,
    List.sum_nil]
  omega

/-- An entry has its line in the map of its kind and, for each newline in its pattern, one line
more. So the lines of a map are as many as its entries just if none of their patterns has a newline,
and each line is then that of one entry; and so it is with all lines that a finished write
reports. -/
theorem lines_compile (entries : List Entry) :
    (∀ kind,
      Text.lines ((compile entries).get kind) =
        ((sortedEntries entries).filter (MapKind.ofEntry · = kind)).flatMap
          (fun e => Text.lines (kind.render e.pattern)) ∧
      (∀ pattern, (Text.lines (kind.render pattern)).length = 1 + pattern.toList.count '\n') ∧
      ((Text.lines ((compile entries).get kind)).length =
        (entries.filter (MapKind.ofEntry · = kind)).length ↔
        FitLines (entries.filter (MapKind.ofEntry · = kind))) ∧
      (FitLines (entries.filter (MapKind.ofEntry · = kind)) →
        Text.lines ((compile entries).get kind) =
        ((sortedEntries entries).filter (MapKind.ofEntry · = kind)).map fun e =>
          kind.line e.pattern)) ∧
    ∀ faults t paths report, (MapWriter.writeWith faults t paths (compile entries)).result =
      .ok report →
      report.totalLines = entries.length + breaks entries ∧
      (report.totalLines = entries.length ↔ FitLines entries) := by
  constructor
  · intro kind
    have hp := (sortedEntries_perm entries).filter (MapKind.ofEntry · = kind)
    refine ⟨?_, length_lines_render kind, ?_, fun hf => ?_⟩
    · rw [get_compile, lines_mapText_eq_flatMap]
    · rw [length_lines_compile, ← breaks_eq_zero_iff, Nat.add_eq_left]
    · have hfit : FitLines ((sortedEntries entries).filter (MapKind.ofEntry · = kind)) :=
        fun e he => hf e (hp.mem_iff.mp he)
      have htext : mapText kind (sortedEntries entries) =
          mapText kind ((sortedEntries entries).filter (MapKind.ofEntry · = kind)) := by
        simp only [mapText, List.filter_filter, Bool.and_self]
      rw [get_compile, htext, lines_mapText kind hfit]
      simp only [List.filter_filter, Bool.and_self]
  · intro faults t paths report hr
    have hreport : report = MapWriter.report paths (compile entries) := by
      simp only [MapWriter.writeWith] at hr
      split at hr
      · cases hr
      · exact (Except.ok.inj hr).symm
    have htotal : report.totalLines = entries.length + breaks entries := by
      rw [hreport, totalLines_report]
    rw [htotal, ← breaks_eq_zero_iff, Nat.add_eq_left]
    exact ⟨rfl, Iff.rfl⟩

section Broken

def bareDirectory : FileTree := ⟨[(["maps"], .directory)], [], []⟩

def plainRule : List Entry := [⟨1, "x REJECT\r", true, false, none⟩]

/-- A pattern that ends one line and begins another. -/
def brokenRule : List Entry := [⟨1, "a@x.com REJECT\nb@x.com", false, false, none⟩]

theorem lines_compile_of_plainRule :
    ∃ report, (MapWriter.writeWith MapWriter.noFaults bareDirectory (.inDir "maps")
      (compile plainRule)).result =
      .ok report ∧ report.totalLines = plainRule.length ∧
    Text.lines ((compile plainRule).get .enforcePattern) = ["/x REJECT\r/ REJECT"] ∧
    (Text.lines ((compile brokenRule).get .enforceLiteral)).length ≠ brokenRule.length := by
  obtain ⟨hlines, htotal⟩ := lines_compile plainRule
  have hw : (MapWriter.writeWith MapWriter.noFaults bareDirectory (.inDir "maps")
    (compile plainRule)).result =
      .ok (MapWriter.report (.inDir "maps") (compile plainRule)) := by decide +kernel
  refine ⟨_, hw, (htotal _ _ _ _ hw).2.mpr (by decide +kernel), ?_, ?_⟩
  · rw [(hlines .enforcePattern).2.2.2 (by decide +kernel)]
    decide +kernel
  · exact mt ((lines_compile brokenRule).1 .enforceLiteral).2.2.1.mp (by decide +kernel)

/-- One entry puts two rules into its map. -/
theorem exists_second_rule : ∃ (entries : List Entry) (t : FileTree) (report : WriteReport),
    entries.length = 1 ∧
    Text.lines ((compile entries).get .enforceLiteral) = ["a@x.com REJECT", "b@x.com REJECT"] ∧
    (MapWriter.write t (.inDir "maps") (compile entries)).result = .ok report ∧
      report.totalLines = 2 := by
  refine ⟨brokenRule, bareDirectory, MapWriter.report (.inDir "maps") (compile brokenRule), rfl, ?_⟩
  decide +kernel

end Broken

end BlocklistSync
