import BlocklistSync.Proofs.Store.Readings

/-! Which file the store reads, whatever is asked of it and whatever becomes of the files meanwhile.
A connection goes to the file that had the path when it was opened and is kept until a fetch fails;
from then on the store is as good as new. -/
namespace BlocklistSync.DatabaseStore

/-- The two things to fetch, each with the type of the answer. -/
inductive Question : Type → Type
  | entries (plan : Query.Plan) : Question (List Entry)
  | fingerprint : Question Fingerprint

def Question.answer {α : Type} : Question α → Table → Except QueryError α
  | entries plan => Query.entries plan.order
  | fingerprint => Query.fingerprint

def fetch {α : Type} (s : DatabaseStore) (tree : FileTree) : Question α → DatabaseStore × Result α
  | .entries plan => s.fetchEntriesIn plan.order tree
  | .fingerprint => s.fetchFingerprint tree

/-- What is asked of a store. -/
inductive Call
  | connect
  | fetch {α : Type} (question : Question α)

def perform (s : DatabaseStore) (tree : FileTree) : Call → DatabaseStore
  | .connect => (s.connect tree).1
  | .fetch question => (s.fetch tree question).1

def after (s : DatabaseStore) : List (FileTree × Call) → DatabaseStore
  | [] => s
  | (tree, call) :: later => (s.perform tree call).after later

/-- The call is neither a fetch that fails nor a connect that succeeds. -/
def Keeps (s : DatabaseStore) (tree : FileTree) : Call → Prop
  | .connect => ∃ fault, (s.connect tree).2 = .error fault
  | .fetch question => ∃ a, (s.fetch tree question).2 = .ok a

def KeepsThrough (s : DatabaseStore) : List (FileTree × Call) → Prop
  | [] => True
  | (tree, call) :: later => s.Keeps tree call ∧ (s.perform tree call).KeepsThrough later

variable {s : DatabaseStore} {tree : FileTree} {c : Connection}

section Steps
variable {α : Type} {question : Question α} {fault : Fault}

theorem fetch_eq (question : Question α) :
    s.fetch tree question = s.query tree question.answer := by
  cases question <;> rfl

theorem fetch_of_error (h : (s.fetch tree question).2 = .error fault) :
    (s.fetch tree question).1 = new s.path := by
  rw [fetch_eq] at h ⊢
  exact query_of_error h

theorem fetch_of_held (h : s.held = some c) (question : Question α) :
    (s.fetch tree question).2 = (ask tree question.answer c).mapError unavailable := by
  rw [fetch_eq]
  exact query_of_current _ (by rw [current, h])

theorem held_fetch (h : s.held = some c) {a : α} (ha : (s.fetch tree question).2 = .ok a) :
    (s.fetch tree question).1.held = some c := by
  have hcurrent : s.current tree = .ok c := by rw [current, h]
  rw [fetch_of_held h, mapError_eq_ok_iff] at ha
  simp only [fetch_eq, query, hcurrent, ha]

theorem connect_of_ok (h : (s.connect tree).2 = .ok ()) :
    ∃ number, openFile tree s.path = .ok (.file number) ∧ (s.connect tree).1.held =
      some (.file number) := by
  cases hc : openChecked tree s.path with
  | error e => simp [connect, hc] at h
  | ok c =>
    obtain ⟨c', hopen, f, hask, hsame⟩ : ∃ c', openFile tree s.path = .ok c' ∧
        ∃ f, ask tree Query.fingerprint c' = .ok f ∧ c' = c := by
      simpa only [openChecked, Query.bind_eq_ok_iff, pure, Except.pure, Except.ok.injEq] using hc
    obtain rfl := hsame
    obtain ⟨table, htable, -⟩ := Query.bind_eq_ok_iff.mp hask
    cases c' with
    | file number => exact ⟨number, hopen, by rw [connect, hc]⟩
    | directory | blank => cases htable

end Steps

theorem path_perform (s : DatabaseStore) (tree : FileTree) (call : Call) :
    (s.perform tree call).path = s.path := by
  cases call with
  | connect =>
    rw [perform, connect]
    split <;> rfl
  | fetch question =>
    rw [perform, fetch_eq, query]
    split
    · rfl
    · split <;> rfl

theorem path_after (s : DatabaseStore) (history : List (FileTree × Call)) :
    (s.after history).path = s.path := by
  induction history generalizing s with
  | nil => rfl
  | cons step later ih => rw [after, ih, path_perform]

theorem held_perform {call : Call} (h : s.held = some c) (hk : s.Keeps tree call) :
    (s.perform tree call).held = some c := by
  cases call with
  | connect =>
    obtain ⟨fault, hfault⟩ := hk
    rwa [perform, connect_of_not_isOk (by rw [hfault]; rfl)]
  | fetch question =>
    obtain ⟨a, ha⟩ := hk
    exact held_fetch h ha

theorem held_after {later : List (FileTree × Call)} (h : s.held = some c)
    (hk : s.KeepsThrough later) :
    (s.after later).held = some c := by
  induction later generalizing s with
  | nil => exact h
  | cons step later ih => exact ih (held_perform h hk.1) hk.2

def IsSound (table : Table) : Prop :=
  ∃ c, Query.entryColumns table = .ok c ∧ ∀ r ∈ table.rows, Query.Readable c r

theorem Reaches.exists_fetch {table : Table} (h : s.Reaches tree table) (htable : IsSound table)
    {α : Type} (question : Question α) : ∃ a, (s.fetch tree question).2 = .ok a := by
  obtain ⟨c, hc, hrows⟩ := htable
  have hstamps := (Query.hasColumns_of_entryColumns hc).stamps
  cases question with
  | entries plan => exact (h.exists_fetchEntriesIn_iff hc plan).mpr hrows
  | fingerprint =>
    obtain ⟨f, hf⟩ := Query.exists_fingerprint hstamps
    exact ⟨f, (h.sees hstamps).fetchFingerprint hf⟩

/-- Whatever was asked of a store before and whatever became of its files: a fetch that fails leaves
it as good as new, a connect that fails changes nothing, and after one that succeeds the file is
read that had the path just then, until the next of either kind. -/
theorem no_failure_sticks (path : String) (history : List (FileTree × Call)) (tree : FileTree) :
    let s := (new path).after history
    (∀ (α : Type) (question : Question α) fault, (s.fetch tree question).2 = .error fault →
      (s.fetch tree question).1.held = none ∧
      ∀ (β : Type) (next : Question β) tree',
        (s.fetch tree question).1.fetch tree' next = (new path).fetch tree' next ∧
        ∀ table, (new path).Reaches tree' table → IsSound table →
          ∃ b, ((s.fetch tree question).1.fetch tree' next).2 = .ok b) ∧
    (∀ fault, (s.connect tree).2 = .error fault → (s.connect tree).1 = s) ∧
    ((s.connect tree).2 = .ok () → ∃ number, openFile tree path = .ok (.file number) ∧
      (tree.IsRooted → ∀ n, tree.fileNumber path = .ok n → n = number) ∧
      ∀ later, (s.connect tree).1.KeepsThrough later → ∀ (α : Type) (question : Question α) tree',
        (((s.connect tree).1.after later).fetch tree' question).2 =
          (ask tree' question.answer (.file number)).mapError unavailable) := by
  intro s
  have hpath : s.path = path := path_after (new path) history
  refine ⟨fun α question fault h => ?_, fun fault h => connect_of_not_isOk (by rw [h]; rfl),
    fun h => ?_⟩
  · have hnew : (s.fetch tree question).1 = new path := hpath ▸ fetch_of_error h
    rw [hnew]
    exact ⟨rfl, fun β next tree' =>
      ⟨rfl, fun table htable hsound => htable.exists_fetch hsound next⟩⟩
  · obtain ⟨number, hopen, hheld⟩ := connect_of_ok h
    rw [hpath] at hopen
    exact ⟨number, hopen, fun hrooted n hn => (number_eq_of_openFile hrooted hn hopen).symm,
      fun later hkeeps α question tree' => fetch_of_held (held_after hheld hkeeps) question⟩

section Replaced

/-- Another file has come to the path, and what the one before it holds is left open. -/
def replacedTree (before : Database) : FileTree where
  nodes := [(["blocker.db"], .file 1)]
  bodies := [(0, ⟨.database before, 420⟩), (1, ⟨.database (databaseOf secondTable), 420⟩)]
  home := []

theorem openFile_blocker {number : ℕ} (hhome : tree.home = [])
    (hnode : tree.node? ["blocker.db"] = some (.file number)) :
    openFile tree "blocker.db" = .ok (.file number) := by
  have hsteps : FileTree.steps "blocker.db" = ["blocker.db"] := by decide +kernel
  have hstart : FileTree.startOf tree.home "blocker.db" = [] := by rw [hhome]; decide +kernel
  have hcanonical : canonical tree maxLinks [] ["blocker.db"] = some ["blocker.db"] := by
    have hroot : tree.node? [] = some .directory := rfl
    rw [canonical, if_neg (by decide), if_neg (by decide), if_neg (by decide +kernel)]
    simp only [hroot, List.nil_append, hnode]
    rw [canonical]
  rw [openFile, if_neg (by decide), if_neg (by decide +kernel), hstart, hsteps, hcanonical]
  simp only [hnode]

theorem isSound_secondTable : IsSound secondTable :=
  ⟨_, rfl, List.forall_mem_cons.mpr ⟨⟨⟨_, rfl⟩, ⟨_, rfl⟩, ⟨_, rfl⟩, ⟨_, rfl⟩⟩,
    List.forall_mem_singleton.mpr ⟨⟨_, rfl⟩, ⟨_, rfl⟩, ⟨_, rfl⟩, ⟨_, rfl⟩⟩⟩⟩

/-- The file that was replaced is read until its table is gone; the fetch after that finds the other
file. -/
theorem no_failure_sticks_of_replacedTree :
    let s := (new "blocker.db").after [(treeOf firstTable, .connect)]
    (s.fetchFingerprint (replacedTree (databaseOf firstTable))).2 =
      .ok ⟨1, some "2024-05-01 10:00:00"⟩ ∧
      (s.fetchEntries (replacedTree .new)).2 =
        .error (.storeUnavailable "no such table: blocked_addresses") ∧
      ∃ es, ((s.fetchEntries (replacedTree .new)).1.fetchEntries (replacedTree .new)).2 =
          .ok es := by
  intro s
  have hopen : openFile (treeOf firstTable) "blocker.db" = .ok (.file 0) := openFile_blocker rfl rfl
  have hconnect : ((new "blocker.db").connect (treeOf firstTable)).2 = .ok () := by
    have htable : tableOf (treeOf firstTable) (.file 0) = .ok firstTable := rfl
    have hchecked : openChecked (treeOf firstTable) (new "blocker.db").path = .ok (.file 0) :=
      openChecked_eq hopen htable rfl
    rw [connect, hchecked]
  obtain ⟨-, -, hfile⟩ := no_failure_sticks "blocker.db" [] (treeOf firstTable)
  obtain ⟨number, hnumber, -, hread⟩ := hfile hconnect
  obtain rfl : 0 = number := by simpa using hopen.symm.trans hnumber
  have hfailed : (s.fetchEntries (replacedTree .new)).2 =
      .error (.storeUnavailable "no such table: blocked_addresses") :=
    hread [] trivial _ (.entries Query.plainPlan) (replacedTree .new)
  obtain ⟨hfetch, -⟩ := no_failure_sticks "blocker.db" [(treeOf firstTable, .connect)]
    (replacedTree .new)
  obtain ⟨-, hnext⟩ := hfetch _ (.entries Query.plainPlan) _ hfailed
  obtain ⟨-, hsound⟩ := hnext _ (.entries Query.plainPlan) (replacedTree .new)
  have hstale : (s.fetchFingerprint (replacedTree (databaseOf firstTable))).2 =
      .ok ⟨1, some "2024-05-01 10:00:00"⟩ :=
    (hread [] trivial _ .fingerprint _).trans (by decide +kernel)
  exact ⟨hstale, hfailed, hsound secondTable ⟨.file 1, openFile_blocker rfl rfl,
    rfl⟩ isSound_secondTable⟩

end Replaced

end BlocklistSync.DatabaseStore
