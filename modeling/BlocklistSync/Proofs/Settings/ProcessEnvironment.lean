import BlocklistSync.Main
import BlocklistSync.Proofs.Settings.Layers
import BlocklistSync.Proofs.Text.Decoding

/-! How a process comes by its environment. The system hands it over as one block of bytes, one
assignment after the other. Cut up again and decoded, the block gives each variable that is a text
its value, and leaves out the others without any harm to those around them. -/
namespace BlocklistSync.CommandLine

def assignment (v : String × Bytes) : Bytes := Text.Utf8.encode (v.1 ++ "=") ++ v.2

def block (vs : List (String × Bytes)) : Bytes := vs.flatMap fun v => assignment v ++ [0]

/-- A zero would end the assignment, and an equals sign the name. -/
structure IsVariable (v : String × Bytes) : Prop where
  notMem_name : '=' ∉ v.1.toList
  notMem_assignment : 0 ∉ assignment v

def readAssignment? (bytes : Bytes) : Option (String × String) := do
  let cs := (← Text.Utf8.decode? bytes).toList
  let name := cs.takeWhile (· ≠ '=')
  return (String.ofList name, String.ofList (cs.drop (name.length + 1)))

def texts (vs : List (String × Bytes)) : List (String × String) :=
  vs.filterMap fun v => (Text.Utf8.decode? v.2).map (v.1, ·)

variable {vs : List (String × Bytes)} {key : String}

theorem readEnvironment_eq (bytes : Bytes) (key : String) :
    readEnvironment bytes key = ((bytes.splitOnP (· = 0)).filterMap readAssignment?).lookup key :=
      rfl

theorem splitOnP_block (h : ∀ v ∈ vs, IsVariable v) :
    (block vs).splitOnP (· = 0) = vs.map assignment ++ [[]] := by
  induction vs with
  | nil => rfl
  | cons v vs ih =>
    obtain ⟨hv, hvs⟩ := List.forall_mem_cons.mp h
    have hne : ∀ b ∈ assignment v, decide (b = 0) = false :=
      fun b hb => decide_eq_false fun heq => hv.notMem_assignment (heq ▸ hb)
    have hrest := List.splitOnP_append_cons_of_forall_mem hne 0 (decide_eq_true rfl) (block vs)
    rw [ih hvs] at hrest
    rw [block, List.flatMap_cons, List.append_assoc, List.singleton_append, List.map_cons,
      List.cons_append]
    exact hrest

theorem readAssignment?_assignment {v : String × Bytes} (h : IsVariable v) :
    readAssignment? (assignment v) = (Text.Utf8.decode? v.2).map (v.1, ·) := by
  rw [readAssignment?, assignment, Text.Utf8.decode?_encode_append]
  cases Text.Utf8.decode? v.2 with
  | none => rfl
  | some s =>
    have hname : (v.1 ++ "=" ++ s).toList.takeWhile (· ≠ '=') = v.1.toList := by
      have hall : ∀ c ∈ v.1.toList, decide (c ≠ '=') = true :=
        fun c hc => decide_eq_true fun heq => h.notMem_name (heq ▸ hc)
      rw [String.toList_append, String.toList_append, List.append_assoc,
        List.takeWhile_append_of_pos hall]
      simp
    have hvalue : (v.1 ++ "=" ++ s).toList.drop (v.1.toList.length + 1) = s.toList := by
      rw [String.toList_append, String.toList_append, List.append_assoc]
      simp
    simp only [Option.map_some, Option.bind_eq_bind, Option.bind_some, hname, hvalue,
      String.ofList_toList]
    rfl

theorem filterMap_readAssignment? (h : ∀ v ∈ vs, IsVariable v) :
    (vs.map assignment).filterMap readAssignment? = texts vs := by
  rw [List.filterMap_map]
  exact List.filterMap_congr fun v hv => readAssignment?_assignment (h v hv)

theorem lookup_texts_of_notMem (h : key ∉ vs.map Prod.fst) : (texts vs).lookup key = none := by
  rw [List.lookup_eq_none_iff]
  intro p hp
  obtain ⟨v, hv, htext⟩ := List.mem_filterMap.mp hp
  obtain ⟨s, -, rfl⟩ := Option.map_eq_some_iff.mp htext
  exact bne_iff_ne.mpr fun heq => h (List.mem_map.mpr ⟨v, hv, heq.symm⟩)

theorem lookup_texts (h : (vs.map Prod.fst).Nodup) (key : String) :
    (texts vs).lookup key = (vs.lookup key).bind Text.Utf8.decode? := by
  induction vs with
  | nil => rfl
  | cons v vs ih =>
    obtain ⟨name, value⟩ := v
    obtain ⟨hnew, hrest⟩ := List.nodup_cons.mp h
    have hvs := ih hrest
    rw [texts] at hvs ⊢
    rw [List.filterMap_cons, List.lookup_cons]
    by_cases hkey : key = name
    · subst hkey
      rw [beq_self_eq_true]
      cases htext : Text.Utf8.decode? value with
      | none => exact (lookup_texts_of_notMem hnew).trans htext.symm
      | some s => exact List.lookup_cons_self.trans htext.symm
    · rw [beq_false_of_ne hkey]
      cases Text.Utf8.decode? value with
      | none => exact hvs
      | some s =>
        rw [Option.map_some, List.lookup_cons, beq_false_of_ne hkey]
        exact hvs

/-- What the daemon sees of a variable is its text, and it does not see one that has none. -/
theorem readEnvironment_block (h : ∀ v ∈ vs, IsVariable v) (hnames : (vs.map Prod.fst).Nodup)
    (hkey : key ≠ "") :
    readEnvironment (block vs) key = Environment.ofBytes (vs.lookup ·) key := by
  -- The piece after the last zero is empty, and reads as a variable without a name.
  have hlast : List.filterMap readAssignment? [[]] = [("", "")] := by decide +kernel
  rw [readEnvironment_eq, splitOnP_block h, List.filterMap_append, filterMap_readAssignment? h,
    hlast, List.lookup_append, lookup_texts hnames, List.lookup_cons, beq_false_of_ne hkey]
  exact Option.or_none

example : readEnvironment (block [("A", [0xff]), ("B", Text.Utf8.encode "x=y")]) "B" =
    some "x=y" := by decide +kernel

end BlocklistSync.CommandLine
