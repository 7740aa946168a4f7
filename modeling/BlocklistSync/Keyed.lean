/-! Lists of pairs with at most one value under each key. -/
namespace BlocklistSync.Keyed
variable {κ α : Type} [DecidableEq κ]

def get? (k : κ) : List (κ × α) → Option α
  | [] => none
  | (j, v) :: rest => if k = j then some v else get? k rest

def erase (k : κ) : List (κ × α) → List (κ × α)
  | [] => []
  | (j, v) :: rest => if k = j then erase k rest else (j, v) :: erase k rest

def insert (k : κ) (v : α) (l : List (κ × α)) : List (κ × α) := (k, v) :: erase k l

theorem get?_erase (k q : κ) (l : List (κ × α)) :
    get? q (erase k l) = if q = k then none else get? q l := by
  induction l with
  | nil => simp [erase, get?]
  | cons x l ih =>
    obtain ⟨j, v⟩ := x
    by_cases h : k = j
    · subst h
      by_cases hq : q = k
      · subst hq
        simpa [erase] using ih
      · simp [erase, get?, ih, hq]
    · by_cases hq : q = j
      · subst hq
        simp [erase, get?, h, Ne.symm h]
      · simp [erase, get?, h, hq, ih]

theorem get?_insert (k q : κ) (v : α) (l : List (κ × α)) :
    get? q (insert k v l) = if q = k then some v else get? q l := by
  by_cases h : q = k <;> simp [insert, get?, get?_erase, h]

theorem mem_erase {k : κ} {x : κ × α} {l : List (κ × α)} : x ∈ erase k l ↔ x ∈ l ∧ x.1 ≠ k := by
  induction l with
  | nil => simp [erase]
  | cons y l ih =>
    obtain ⟨j, v⟩ := y
    by_cases h : k = j
    · subst h
      simp only [erase, if_true, ih, List.mem_cons]
      constructor
      · exact fun hx => ⟨.inr hx.1, hx.2⟩
      · rintro ⟨rfl | hx, hne⟩
        · exact absurd rfl hne
        · exact ⟨hx, hne⟩
    · simp only [erase, h, if_false, List.mem_cons, ih]
      constructor
      · rintro (rfl | hx)
        · exact ⟨.inl rfl, Ne.symm h⟩
        · exact ⟨.inr hx.1, hx.2⟩
      · rintro ⟨rfl | hx, hne⟩
        · exact .inl rfl
        · exact .inr ⟨hx, hne⟩

theorem mem_of_get? {k : κ} {v : α} {l : List (κ × α)} (h : get? k l = some v) : (k, v) ∈ l := by
  induction l with
  | nil => simp [get?] at h
  | cons x l ih =>
    obtain ⟨j, w⟩ := x
    by_cases hj : k = j
    · subst hj
      simp only [get?, if_true, Option.some.injEq] at h
      simp [h]
    · simp only [get?, hj, if_false] at h
      exact List.mem_cons_of_mem _ (ih h)

end BlocklistSync.Keyed
