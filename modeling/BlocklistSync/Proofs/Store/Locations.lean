import BlocklistSync.Proofs.Text.Quoting
import BlocklistSync.Service

/-! Which texts locate a blocklist. The scheme of a URL ends at the first `://` in it, so a path may
hold that mark again, and a text without it is a path as it stands. All other texts are refused with
the reason. -/
namespace BlocklistSync.StoreLocation

section Split

def mark : List Char := [':', '/', '/']

/-- The list falls apart into the two others at its first mark. -/
def FirstMark (cs s rest : List Char) : Prop :=
  cs = s ++ mark ++ rest ∧ ∀ s' rest', cs = s' ++ mark ++ rest' → s.length ≤ s'.length

theorem FirstMark.unique {cs s s' rest rest' : List Char} (h : FirstMark cs s rest)
    (h' : FirstMark cs s' rest') :
    s = s' ∧ rest = rest' := by
  have hlength := Nat.le_antisymm (h.2 _ _ h'.1) (h'.2 _ _ h.1)
  have heq := h.1.symm.trans h'.1
  rw [List.append_assoc, List.append_assoc] at heq
  obtain ⟨hs, hrest⟩ := List.append_inj heq hlength
  exact ⟨hs, List.append_cancel_left hrest⟩

/-- The split is at the first mark, and there is one if there is a mark at all. -/
theorem splitScheme_spec (cs : List Char) : match splitScheme cs with
    | some (s, rest) => FirstMark cs s rest
    | none => ∀ s rest, cs ≠ s ++ mark ++ rest := by
  fun_induction splitScheme cs with
  | case1 rest => exact ⟨rfl, fun _ _ _ => Nat.zero_le _⟩
  | case2 c rest hc ih =>
    have hlater {s' rest' : List Char} (h : c :: rest = s' ++ mark ++ rest') :
        ∃ s'', s' = c :: s'' ∧ rest = s'' ++ mark ++ rest' := by
      cases s' with
      | nil =>
        obtain ⟨rfl, hrest⟩ := List.cons.inj h
        exact (hc _ rfl hrest).elim
      | cons d s'' =>
        obtain ⟨rfl, hrest⟩ := List.cons.inj h
        exact ⟨s'', rfl, hrest⟩
    cases hsplit : splitScheme rest with
    | none =>
      rw [hsplit] at ih
      intro s' rest' h
      obtain ⟨s'', -, hrest⟩ := hlater h
      exact ih _ _ hrest
    | some split =>
      rw [hsplit] at ih
      refine ⟨?_, fun s' rest' h => ?_⟩
      · exact congrArg (c :: ·) ih.1
      · obtain ⟨s'', rfl, hrest⟩ := hlater h
        exact Nat.succ_le_succ (ih.2 _ _ hrest)
  | case3 =>
    intro s rest h
    simp [mark] at h

theorem splitScheme_of_firstMark {cs s rest : List Char} (h : FirstMark cs s rest) :
    splitScheme cs = some (s, rest) := by
  have hspec := splitScheme_spec cs
  cases hsplit : splitScheme cs with
  | none =>
    rw [hsplit] at hspec
    exact absurd h.1 (hspec _ _)
  | some split =>
    rw [hsplit] at hspec
    obtain ⟨hs, hrest⟩ := hspec.unique h
    exact congrArg some (Prod.ext hs hrest)

end Split

/-- A URL has a scheme, which is the text before its first `://`, and a path after that. -/
def Splits (url scheme path : String) : Prop :=
  url = scheme ++ "://" ++ path ∧ ∀ scheme' path', url = scheme' ++ "://" ++ path' →
    scheme.length ≤ scheme'.length

def IsBare (url : String) : Prop := ∀ scheme path, url ≠ scheme ++ "://" ++ path

def unsupported (scheme url : String) : Fault :=
  .configuration ("unsupported store scheme " ++ Text.quoted scheme ++ " in " ++ Text.quoted url)

def pathless (url : String) : Fault := .configuration ("no database path in " ++ Text.quoted url)

def located (url path : String) : Result String :=
  if path = "" then .error (pathless url) else .ok path

section Url
variable {url scheme path : String}

theorem eq_append_mark_iff :
    url = scheme ++ "://" ++ path ↔ url.toList = scheme.toList ++ mark ++ path.toList := by
  rw [← String.toList_inj, String.toList_append, String.toList_append]
  rfl

theorem splits_iff : Splits url scheme path ↔ FirstMark url.toList scheme.toList path.toList := by
  unfold Splits FirstMark
  rw [eq_append_mark_iff]
  refine and_congr_right fun _ => ⟨fun h s rest heq => ?_, fun h scheme' path' heq => ?_⟩
  · have hle := h (String.ofList s) (String.ofList rest)
      (eq_append_mark_iff.mpr (by simpa using heq))
    rwa [String.length_ofList, ← String.length_toList] at hle
  · exact h _ _ (eq_append_mark_iff.mp heq)

theorem exists_splits_or_isBare (url : String) :
    (∃ scheme path, Splits url scheme path) ∨ IsBare url := by
  have hspec := splitScheme_spec url.toList
  cases hsplit : splitScheme url.toList with
  | some split =>
    rw [hsplit] at hspec
    refine .inl ⟨String.ofList split.1, String.ofList split.2, splits_iff.mpr ?_⟩
    simpa using hspec
  | none =>
    rw [hsplit] at hspec
    exact .inr fun scheme path heq => hspec _ _ (eq_append_mark_iff.mp heq)

theorem Splits.not_isBare (h : Splits url scheme path) : ¬ IsBare url := fun hbare => hbare _ _ h.1

theorem Splits.unique {scheme' path' : String} (h : Splits url scheme path)
    (h' : Splits url scheme' path') :
    scheme = scheme' ∧ path = path' := by
  obtain ⟨hs, hp⟩ := (splits_iff.mp h).unique (splits_iff.mp h')
  exact ⟨String.toList_inj.mp hs, String.toList_inj.mp hp⟩

theorem splits_sqlite (path : String) : Splits ("sqlite://" ++ path) "sqlite" path := by
  have hspec := splitScheme_spec ("sqlite://" ++ path).toList
  have hsplit : splitScheme ("sqlite://" ++ path).toList = some ("sqlite".toList, path.toList) := by
    rw [String.toList_append]
    rfl
  rw [hsplit] at hspec
  exact splits_iff.mpr hspec

theorem eq_sqlite_append_iff : url = "sqlite://" ++ path ↔ Splits url "sqlite" path := by
  constructor
  · rintro rfl
    exact splits_sqlite path
  · intro h
    exact h.1

/-- The part of a URL that is to be the path is one unless it is empty. -/
theorem ofUrl_eq_located
    (h : splitScheme url.toList = some (StoreLocation.scheme, path.toList) ∨
      (splitScheme url.toList = none ∧ path = url)) :
    ofUrl url = located url path := by
  have hnil : path = "" ↔ path.toList = [] := String.toList_inj.symm
  unfold ofUrl located
  rcases h with h | ⟨h, rfl⟩
  all_goals
    simp only [h, if_true, hnil]
    cases hpath : path.toList with
    | nil => rfl
    | cons c cs =>
      rw [if_neg (List.cons_ne_nil c cs)]
      exact congrArg Except.ok (String.toList_inj.mp (by rw [String.toList_ofList, hpath]))

theorem ofUrl_of_splits (h : Splits url scheme path) :
    ofUrl url = if scheme = "sqlite" then located url path else .error
      (unsupported scheme url) := by
  have hsplit := splitScheme_of_firstMark (splits_iff.mp h)
  split
  · next hs =>
    subst hs
    exact ofUrl_eq_located (.inl hsplit)
  · next hs =>
    have hscheme : scheme.toList ≠ StoreLocation.scheme := mt String.toList_inj.mp hs
    simp only [ofUrl, hsplit, if_neg hscheme, String.ofList_toList]
    rfl

theorem ofUrl_of_isBare (h : IsBare url) : ofUrl url = located url url := by
  refine ofUrl_eq_located (.inr ⟨?_, rfl⟩)
  cases hsplit : splitScheme url.toList with
  | none => rfl
  | some split =>
    have hspec := splitScheme_spec url.toList
    rw [hsplit] at hspec
    have hsplits : Splits url (String.ofList split.1) (String.ofList split.2) :=
      splits_iff.mpr (by simpa using hspec)
    exact absurd h hsplits.not_isBare

theorem ofUrl_eq_ok_iff :
    ofUrl url = .ok path ↔ path ≠ "" ∧ (url = "sqlite://" ++ path ∨ IsBare url ∧ url = path) := by
  have hlocated (p : String) : located url p = .ok path ↔ path ≠ "" ∧ p = path := by
    unfold located
    split <;> grind
  rw [eq_sqlite_append_iff]
  rcases exists_splits_or_isBare url with ⟨scheme, p, h⟩ | h
  · have hunique : Splits url "sqlite" path ↔ scheme = "sqlite" ∧ p = path :=
      ⟨h.unique, fun ⟨hs, hp⟩ => hs ▸ hp ▸ h⟩
    rw [ofUrl_of_splits h, hunique]
    simp only [h.not_isBare, false_and, or_false]
    split
    · next hs => rw [hlocated, and_iff_right hs]
    · next hs => simp [hs]
  · have hnot : ¬ Splits url "sqlite" path := fun hsplits => hsplits.not_isBare h
    rw [ofUrl_of_isBare h, hlocated]
    simp [hnot, h]

theorem ofUrl_eq_error_iff {f : Fault} : ofUrl url = .error f ↔
    (∃ scheme path, Splits url scheme path ∧ scheme ≠ "sqlite" ∧ f = unsupported scheme url) ∨
      (url = "" ∨ url = "sqlite://") ∧ f = pathless url := by
  have hlocated (p : String) : located url p = .error f ↔ p = "" ∧ f = pathless url := by
    unfold located
    split <;> grind
  have hsqlite : url = "sqlite://" ↔ Splits url "sqlite" "" := by
    rw [← eq_sqlite_append_iff, String.append_empty]
  rw [hsqlite]
  rcases exists_splits_or_isBare url with ⟨scheme, p, h⟩ | h
  · have hnil : url ≠ "" := by
      rintro rfl
      simpa [mark] using (splits_iff.mp h).1
    have hscheme : (∃ scheme' path', Splits url scheme' path' ∧ scheme' ≠ "sqlite" ∧
      f = unsupported scheme' url) ↔
        scheme ≠ "sqlite" ∧ f = unsupported scheme url := by
      constructor
      · rintro ⟨scheme', path', h', hne, hf⟩
        obtain ⟨rfl, -⟩ := h.unique h'
        exact ⟨hne, hf⟩
      · rintro ⟨hne, hf⟩
        exact ⟨scheme, p, h, hne, hf⟩
    have hunique : Splits url "sqlite" "" ↔ scheme = "sqlite" ∧ p = "" :=
      ⟨h.unique, fun ⟨hs, hp⟩ => hs ▸ hp ▸ h⟩
    rw [ofUrl_of_splits h, hscheme, hunique]
    split
    · next hs => simp [hlocated, hs, hnil]
    · next hs => simp [hs, hnil, eq_comm]
  · have hnot (scheme path : String) : ¬ Splits url scheme path :=
      fun hsplits => hsplits.not_isBare h
    rw [ofUrl_of_isBare h, hlocated]
    simp [hnot]

theorem unsupported_inj {scheme scheme' : String} :
    unsupported scheme url = unsupported scheme' url ↔ scheme = scheme' := by
  refine ⟨fun h => ?_, fun h => h ▸ rfl⟩
  have htext := Fault.configuration.inj h
  rw [String.append_assoc, String.append_assoc, String.append_assoc, String.append_assoc] at htext
  exact (Text.quoted_append_inj ((String.append_right_inj _).mp htext)).1

theorem unsupported_ne_pathless : unsupported scheme url ≠ pathless url := by
  intro h
  have htext := congrArg String.toList (Fault.configuration.inj h)
  simp at htext

/-- A text is a location just if it is a path of at least one character, bare or after the scheme of
the database. A text with any other scheme is refused with that scheme, a text without a path for
lack of one, and the service starts with the texts that are not refused and no others. -/
theorem ofUrl_accepts_exactly (url : String) :
    (∀ path, ofUrl url = .ok path ↔ path ≠ "" ∧
      (url = "sqlite://" ++ path ∨ IsBare url ∧ url = path)) ∧
    (∀ f, ofUrl url = .error f ↔
      (∃ scheme path, Splits url scheme path ∧ scheme ≠ "sqlite" ∧ f = unsupported scheme url) ∨
        (url = "" ∨ url = "sqlite://") ∧ f = pathless url) ∧
    (∀ scheme, ofUrl url = .error (unsupported scheme url) ↔ scheme ≠ "sqlite" ∧
      ∃ path, Splits url scheme path) ∧
    (ofUrl ("sqlite://" ++ url) = if url = "" then .error (pathless "sqlite://") else .ok url) ∧
    ∀ (t : FileTree) (s : Settings) (filter : LogFilter) (errors : String) (pid : ℕ),
      (Service.setUp t { s with storeUrl := url } filter errors pid).toOption.map
        (·.host.world.database.store) =
        (ofUrl url).toOption.map DatabaseStore.new := by
  refine ⟨fun _ => ofUrl_eq_ok_iff, fun _ => ofUrl_eq_error_iff, fun scheme => ?_, ?_,
    fun t s filter errors pid => ?_⟩
  · rw [ofUrl_eq_error_iff]
    constructor
    · rintro (⟨scheme', path, h, hne, hf⟩ | ⟨-, hf⟩)
      · obtain rfl := unsupported_inj.mp hf
        exact ⟨hne, path, h⟩
      · exact absurd hf unsupported_ne_pathless
    · rintro ⟨hne, path, h⟩
      exact .inl ⟨scheme, path, h, hne, rfl⟩
  · rw [ofUrl_of_splits (splits_sqlite url), if_pos rfl, located]
    split
    · next h => subst h; rfl
    · rfl
  · unfold Service.setUp
    dsimp only
    cases ofUrl url <;> rfl

end Url

end BlocklistSync.StoreLocation
