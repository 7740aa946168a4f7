import BlocklistSync.FileTree.Resolve

/-! The names along a path. Joining a name to a directory adds that name, and nothing else, to the
names that the path of the directory leads along, from the same start. -/
namespace BlocklistSync.FileTree
open BlocklistSync.Path

/-- What can stand between two slashes of a path. -/
structure IsName (name : String) : Prop where
  ne_empty : name ≠ ""
  no_slash : '/' ∉ name.toList

theorem steps_eq (path : String) :
    steps path = ((path.toList.splitOn '/').map String.ofList).filter (· ≠ "") := rfl

@[simp] theorem steps_empty : steps "" = [] := rfl

theorem IsName.toList_ne_nil {name : String} (h : IsName name) : name.toList ≠ [] := by
  simpa using h.ne_empty

theorem IsName.splitOn_toList {name : String} (h : IsName name) :
    name.toList.splitOn '/' = [name.toList] := List.splitOn_eq_singleton h.no_slash

theorem IsName.steps {name : String} (h : IsName name) : FileTree.steps name = [name] := by
  simp [steps_eq, h.splitOn_toList, h.ne_empty]

theorem IsName.isAbsolute {name : String} (h : IsName name) : Path.isAbsolute name = false := by
  obtain ⟨c, cs, hc⟩ := List.exists_cons_of_ne_nil h.toList_ne_nil
  have hs := h.no_slash
  simp only [hc, List.mem_cons, not_or] at hs
  simp [Path.isAbsolute, hc, Ne.symm hs.1]

theorem steps_slash {path : String} {front back : List Char}
    (h : path.toList = front ++ '/' :: back) :
    steps path = steps (String.ofList front) ++ steps (String.ofList back) := by
  simp [steps_eq, h, List.splitOn_append_cons_self]

theorem join_eq {dir name : String} (h : IsName name) :
    join dir name = if dir = "" then name else if endsWithSlash dir then dir ++ name
      else dir ++ "/" ++ name := by
  by_cases hd : dir = ""
  · simp [join, h.isAbsolute, hd]
  · simp [join, h.isAbsolute, hd]

theorem toList_of_endsWithSlash {path : String} (h : endsWithSlash path) :
    ∃ front, path.toList = front ++ ['/'] := by
  have hlast : path.toList.getLast? = some '/' := by simpa [endsWithSlash] using h
  obtain ⟨front, hf⟩ := List.getLast?_eq_some_iff.mp hlast
  exact ⟨front, hf⟩

theorem steps_join {dir name : String} (h : IsName name) :
    steps (join dir name) = steps dir ++ [name] := by
  rw [join_eq h]
  split
  · next hd => simp [hd, h.steps]
  · split
    · next hd =>
      obtain ⟨front, hf⟩ := toList_of_endsWithSlash hd
      have hn : (dir ++ name).toList = front ++ '/' :: name.toList := by simp [hf]
      rw [steps_slash hn, steps_slash hf]
      simp [h.steps]
    · have hn : (dir ++ "/" ++ name).toList = dir.toList ++ '/' :: name.toList := by simp
      rw [steps_slash hn]
      simp [h.steps]

theorem endsWithSlash_join {dir name : String} (h : IsName name) :
    endsWithSlash (join dir name) = false := by
  have hl : ∀ front : String, endsWithSlash (front ++ name) = false := by
    intro front
    have hn : name.toList.getLast? ≠ some '/' := fun he => h.no_slash (List.mem_of_getLast? he)
    obtain ⟨c, hc⟩ := Option.ne_none_iff_exists'.mp
      (mt List.getLast?_eq_none_iff.mp h.toList_ne_nil)
    rw [hc] at hn
    simpa [endsWithSlash, List.getLast?_append, hc] using hn
  rw [join_eq h]
  split
  · simpa using hl ""
  · split
    · exact hl dir
    · exact hl (dir ++ "/")

theorem startOf_join {dir name : String} (h : IsName name) (here : Place) :
    startOf here (join dir name) = startOf here dir := by
  have ha : dir ≠ "" → ∀ rest : String, Path.isAbsolute (dir ++ rest) = Path.isAbsolute dir := by
    intro hd rest
    have hn : dir.toList ≠ [] := by simpa using hd
    obtain ⟨c, cs, hc⟩ := List.exists_cons_of_ne_nil hn
    simp [Path.isAbsolute, hc]
  have he : Path.isAbsolute "" = false := rfl
  rw [join_eq h]
  split
  · next hd => simp [startOf, h.isAbsolute, hd, he]
  · next hd =>
    split
    · simp [startOf, ha hd]
    · simp [startOf, String.append_assoc, ha hd]

end BlocklistSync.FileTree
