import ProductionStack.Python.Json

/-!
The batch processor over SQLite. A batch is a row of `batch_queue`; calls of the API
create, read and cancel batches while one task in the background takes the pending ones
in turn. Every SQL statement is one step, and between two statements of one coroutine
the others may run theirs.
-/

namespace ProductionStack.Services

open Lib Python

inductive BatchStatus where
  | pending
  | running
  | completed
  | failed
  deriving DecidableEq

namespace BatchStatus

def value : BatchStatus → String
  | .pending => "pending"
  | .running => "running"
  | .completed => "completed"
  | .failed => "failed"

/-- `BatchStatus(value)`. -/
def of (value : String) : Except PyExc BatchStatus :=
  if value = "pending" then .ok .pending
  else if value = "running" then .ok .running
  else if value = "completed" then .ok .completed
  else if value = "failed" then .ok .failed
  else .error (.new .valueError ("'" ++ value ++ "' is not a valid BatchStatus"))

theorem of_value (status : BatchStatus) : of status.value = .ok status := by
  cases status <;> rfl

theorem value_of_ok {value : String} {status : BatchStatus} (h : of value = .ok status) :
    value = status.value := by
  unfold of at h
  split_ifs at h with hpending hrunning hcompleted hfailed
  · exact Except.ok.inj h ▸ hpending
  · exact Except.ok.inj h ▸ hrunning
  · exact Except.ok.inj h ▸ hcompleted
  · exact Except.ok.inj h ▸ hfailed

end BatchStatus

/-- What a row and a `BatchInfo` share. The metadata is what `json.dumps` wrote and
`json.loads` reads back. -/
structure BatchFields where
  inputFileId : String
  createdAt : Int
  endpoint : String
  completionWindow : String
  outputFileId : Option String
  completedAt : Option Int
  metadata : Json

structure BatchRow extends BatchFields where
  status : String

/-- The fields that the processor sets. `cancel_batch` puts a plain string in the place
of a `BatchStatus`. -/
structure BatchInfo extends BatchFields where
  id : String
  status : BatchStatus ⊕ String

def BatchInfo.toDict (info : BatchInfo) : Except PyExc (List (String × Json)) :=
  match info.status with
  | .inr _ => .error (.new .attributeError "'str' object has no attribute 'value'")
  | .inl status => .ok [("id", .str info.id), ("status", .str status.value),
      ("input_file_id", .str info.inputFileId), ("created_at", .int info.createdAt),
      ("endpoint", .str info.endpoint), ("completion_window", .str info.completionWindow),
      ("output_file_id", info.outputFileId.elim .null .str), ("error_file_id", .null),
      ("in_progress_at", .null), ("expires_at", .null), ("finalizing_at", .null),
      ("completed_at", info.completedAt.elim .null .int), ("failed_at", .null),
      ("expired_at", .null), ("cancelling_at", .null), ("cancelled_at", .null),
      ("total_requests", .null), ("completed_requests", .int 0), ("failed_requests", .int 0),
      ("metadata", info.metadata)]

/-- A call of `create_batch`: `hex` is `uuid4().hex`, `now` is `int(time.time())`. -/
structure CreateBatch where
  inputFileId : String
  endpoint : String
  completionWindow : String
  metadata : Json
  hex : String
  now : Int

namespace CreateBatch

def batchId (c : CreateBatch) : String := "batch_" ++ String.ofList (c.hex.toList.take 6)

def row (c : CreateBatch) : BatchRow where
  status := BatchStatus.pending.value
  inputFileId := c.inputFileId
  createdAt := c.now
  endpoint := c.endpoint
  completionWindow := c.completionWindow
  outputFileId := none
  completedAt := none
  metadata := if c.metadata.truthy then c.metadata else .obj []

end CreateBatch

/-- Where `process_batches` is: it has read the id of a pending batch, or has marked it
as running. -/
inductive Processor where
  | idle
  | selected (batchId : String)
  | processing (batchId : String)
  deriving DecidableEq

def Processor.batch : Processor → Option String
  | .idle => none
  | .selected batchId | .processing batchId => some batchId

/-- The table, the background task, and the calls of `cancel_batch` that have read their
batch and not written it yet, with the `BatchInfo` they are about to return. -/
structure Batches where
  queue : Dict String BatchRow
  processor : Processor
  cancelling : List BatchInfo

/-- One SQL statement, with what the call goes on to do. A failed call of `save_file` is an
exception that `process_batches` catches. -/
inductive BatchAct where
  | createBatch (c : CreateBatch)
  | cancelRead (batchId : String) (now : Int)
  | cancelWrite (call : Nat)
  | select (batchId : String)
  | markRunning
  | finish (saved : Except PyExc String) (now : Int)

/-- `UPDATE batch_queue SET ... WHERE batch_id = ?`. -/
def updateRow (queue : Dict String BatchRow) (batchId : String) (f : BatchRow → BatchRow) :
    Dict String BatchRow :=
  match queue.get? batchId with
  | some row => queue.set batchId (f row)
  | none => queue

namespace Batches

def start : Batches := ⟨.empty, .idle, []⟩

def statusOf (s : Batches) (batchId : String) : Option String :=
  (s.queue.get? batchId).map (·.status)

def retrieveBatch (s : Batches) (batchId : String) : Except PyExc BatchInfo :=
  match s.queue.get? batchId with
  | none => .error (.new .valueError ("Batch " ++ batchId ++ " not found"))
  | some row =>
    match BatchStatus.of row.status with
    | .ok status => .ok { row.toBatchFields with id := batchId, status := .inl status }
    | .error e => .error e

/-- `batch_info.status in [BatchStatus.COMPLETED, BatchStatus.FAILED]`. -/
def isOver (info : BatchInfo) : Bool :=
  info.status = .inl .completed || info.status = .inl .failed

/-- Pending, and no pending batch is older. -/
def isNext (s : Batches) (batchId : String) : Bool :=
  match s.queue.get? batchId with
  | some row => row.status = BatchStatus.pending.value && s.queue.values.all fun other =>
      other.status ≠ BatchStatus.pending.value || row.createdAt ≤ other.createdAt
  | none => false

/-- The rows that the processor writes at the end. -/
def finished (saved : Except PyExc String) (now : Int) (row : BatchRow) : BatchRow :=
  match saved with
  | .ok fileId => { row with status := BatchStatus.completed.value, completedAt := some now,
                              outputFileId := some fileId }
  | .error _ => { row with status := BatchStatus.failed.value, completedAt := some now,
                            outputFileId := none }

/-- `none` if the statement is not the next one of a coroutine. An id that is taken makes
`create_batch` raise. -/
def step (s : Batches) : BatchAct → Option Batches
  | .createBatch c =>
    if c.batchId ∈ s.queue then some s
    else some { s with queue := s.queue.set c.batchId c.row }
  | .cancelRead batchId now =>
    match s.retrieveBatch batchId with
    | .ok info =>
      if isOver info then some s
      else some { s with cancelling := s.cancelling ++
        [{ info with status := .inr "cancelled", completedAt := some now }] }
    | .error _ => some s
  | .cancelWrite call =>
    match s.cancelling[call]? with
    | some info => some { s with
        queue := updateRow s.queue info.id fun row =>
          { row with status := "cancelled", completedAt := info.completedAt }
        cancelling := s.cancelling.eraseIdx call }
    | none => none
  | .select batchId =>
    if s.processor = .idle ∧ s.isNext batchId then some { s with processor := .selected batchId }
    else none
  | .markRunning =>
    match s.processor with
    | .selected batchId => some { s with
        queue := updateRow s.queue batchId fun row => { row with status := "running" }
        processor := .processing batchId }
    | _ => none
  | .finish saved now =>
    match s.processor with
    | .processing batchId => some { s with
        queue := updateRow s.queue batchId (finished saved now)
        processor := .idle }
    | _ => none

def run (s : Batches) (acts : List BatchAct) : Option Batches := acts.foldlM step s

/-- What a call of `cancel_batch` ends with at this statement, if it ends there. -/
def cancelResult (s : Batches) : BatchAct → Option (Except PyExc BatchInfo)
  | .cancelRead batchId _ =>
    match s.retrieveBatch batchId with
    | .ok info => if isOver info then some (.ok info) else none
    | .error e => some (.error e)
  | .cancelWrite call => (s.cancelling[call]?).map .ok
  | _ => none

end Batches

/-! `list_batches`. -/

/-- `WHERE created_at > ?` with a text. SQLite reads the text as a number if it is one;
otherwise every integer is below it. -/
def isAfter (number : String → Option ℚ) (after : Option String) (row : BatchRow) : Bool :=
  match after.filter (· ≠ "") with
  | none => true
  | some text =>
    match number text with
    | some n => n < row.createdAt
    | none => false

/-- What `SELECT batch_id ... ORDER BY created_at DESC LIMIT ?` may give: batches of the
same second come in any order, and a negative limit is none. -/
def Selects (number : String → Option ℚ) (queue : Dict String BatchRow) (limit : Int)
    (after : Option String) (ids : List String) : Prop :=
  ∃ rows : List (String × BatchRow), rows.Perm (queue.entries.filter (isAfter number after ·.2)) ∧
    (rows.Pairwise fun a b => b.2.createdAt ≤ a.2.createdAt) ∧
    ids = (if limit < 0 then rows else rows.take limit.toNat).map Prod.fst

/-- The greatest integer that SQLite takes. -/
def maxInteger : Int := 2 ^ 63 - 1

/-- `list_batches` where its query gives these ids. -/
def Batches.listBatches (s : Batches) (limit : Int) (ids : List String) :
    Except PyExc (List BatchInfo) :=
  if maxInteger < |limit| then
    .error (.new .overflowError "Python int too large to convert to SQLite INTEGER")
  else ids.mapM s.retrieveBatch

/-! A step at a time. -/

theorem get?_updateRow (queue : Dict String BatchRow) (batchId : String)
    (f : BatchRow → BatchRow) (k : String) : (updateRow queue batchId f).get? k =
      if k = batchId then (queue.get? k).map f else queue.get? k := by
  unfold updateRow
  cases hrow : queue.get? batchId with
  | none =>
    by_cases hk : k = batchId
    · simp [hk, hrow]
    · simp [hk]
  | some row =>
    rw [Dict.get?_set]
    by_cases hk : k = batchId
    · simp [hk, hrow]
    · simp [hk]

namespace Batches

variable {s s' t : Batches} {act : BatchAct} {acts : List BatchAct}

/-- What a statement does: it creates a batch under a new id, begins a call of
`cancel_batch`, takes a pending batch, or updates one row. -/
inductive Does (s : Batches) : BatchAct → Batches → Prop where
  | nothing (act : BatchAct) : Does s act s
  | create (c : CreateBatch) (hnew : c.batchId ∉ s.queue) :
      Does s (.createBatch c) { s with queue := s.queue.set c.batchId c.row }
  | read (batchId : String) (now : Int) (info : BatchInfo) (hid : info.id ∈ s.queue)
      (hstatus : info.status = .inr "cancelled") :
      Does s (.cancelRead batchId now) { s with cancelling := s.cancelling ++ [info] }
  | cancel (call : Nat) (info : BatchInfo) (hcall : s.cancelling[call]? = some info) :
      Does s (.cancelWrite call) { s with
        queue := updateRow s.queue info.id fun row =>
          { row with status := "cancelled", completedAt := info.completedAt }
        cancelling := s.cancelling.eraseIdx call }
  | take (batchId : String) (hpending : s.statusOf batchId = some "pending") :
      Does s (.select batchId) { s with processor := .selected batchId }
  | process (act : BatchAct) (batchId : String) (status : BatchStatus) (f : BatchRow → BatchRow)
      (processor : Processor) (hbatch : s.processor.batch = some batchId)
      (hstatus : ∀ row, (f row).status = status.value) (hpending : status ≠ .pending)
      (hkept : processor.batch = some batchId ∨ processor.batch = none) :
      Does s act { s with queue := updateRow s.queue batchId f, processor := processor }

variable {batchId k status : String} {info : BatchInfo} {queue : Dict String BatchRow}
  {f : BatchRow → BatchRow} {limit : Int} {ids : List String}

theorem retrieveBatch_ok (h : s.retrieveBatch batchId = .ok info) : info.id = batchId ∧
      ∃ row, s.queue.get? batchId = some row ∧ ∃ status : BatchStatus, row.status = status.value := by
  unfold retrieveBatch at h
  cases hrow : s.queue.get? batchId with
  | none => simp [hrow] at h
  | some row =>
    simp only [hrow] at h
    cases hstatus : BatchStatus.of row.status with
    | error e => simp [hstatus] at h
    | ok status =>
      simp only [hstatus, Except.ok.injEq] at h
      exact ⟨by rw [← h], row, rfl, status, BatchStatus.value_of_ok hstatus⟩

theorem pending_of_isNext (h : s.isNext batchId = true) : s.statusOf batchId = some "pending" := by
  unfold isNext at h
  unfold statusOf
  cases hrow : s.queue.get? batchId with
  | none => simp [hrow] at h
  | some row =>
    simp only [hrow, Bool.and_eq_true, decide_eq_true_eq] at h
    rw [Option.map_some, h.1]
    rfl

theorem finished_status (saved : Except PyExc String) (now : Int) :
    ∃ status : BatchStatus, status ≠ .pending ∧
      ∀ row, (finished saved now row).status = status.value := by
  cases saved with
  | ok fileId => exact ⟨.completed, by decide, fun _ => rfl⟩
  | error e => exact ⟨.failed, by decide, fun _ => rfl⟩

theorem does_of_step (h : s.step act = some s') : Does s act s' := by
  cases act with
  | createBatch c =>
    simp only [step] at h
    split at h
    · cases h
      exact .nothing _
    · rename_i hnew
      cases h
      exact .create c hnew
  | cancelRead batchId now =>
    simp only [step] at h
    cases hread : s.retrieveBatch batchId with
    | error e =>
      simp only [hread, Option.some.injEq] at h
      rw [← h]
      exact .nothing _
    | ok info =>
      obtain ⟨hid, row, hrow, -⟩ := retrieveBatch_ok hread
      simp only [hread] at h
      split at h
      · cases h
        exact .nothing _
      · cases h
        exact .read batchId now _ ((Dict.mem_iff_get? _ _).mpr ⟨row, hid ▸ hrow⟩) rfl
  | cancelWrite call =>
    simp only [step] at h
    cases hcall : s.cancelling[call]? with
    | none => simp [hcall] at h
    | some info =>
      simp only [hcall, Option.some.injEq] at h
      rw [← h]
      exact .cancel call info hcall
  | select batchId =>
    simp only [step] at h
    split at h
    · rename_i hnext
      cases h
      exact .take batchId (pending_of_isNext hnext.2)
    · cases h
  | markRunning =>
    simp only [step] at h
    cases hprocessor : s.processor with
    | selected batchId =>
      simp only [hprocessor, Option.some.injEq] at h
      rw [← h]
      exact .process _ batchId .running _ _ (by rw [hprocessor]; rfl) (fun _ => rfl) (by decide)
        (Or.inl rfl)
    | _ => simp [hprocessor] at h
  | finish saved now =>
    simp only [step] at h
    cases hprocessor : s.processor with
    | processing batchId =>
      simp only [hprocessor, Option.some.injEq] at h
      rw [← h]
      obtain ⟨status, hpending, hstatus⟩ := finished_status saved now
      exact .process _ batchId status _ _ (by rw [hprocessor]; rfl) hstatus hpending (Or.inr rfl)
    | _ => simp [hprocessor] at h

theorem run_cons (s : Batches) (act : BatchAct) (rest : List BatchAct) :
    s.run (act :: rest) = (s.step act).bind (·.run rest) := List.foldlM_cons

theorem run_append (s : Batches) (first second : List BatchAct) :
    s.run (first ++ second) = (s.run first).bind (·.run second) := List.foldlM_append

/-- What every statement keeps, every run keeps. -/
theorem run_keeps {inv : Batches → Prop} (hrun : s.run acts = some t)
    (hstep : ∀ s act s', act ∈ acts → Does s act s' → inv s → inv s') (hs : inv s) : inv t := by
  induction acts generalizing s with
  | nil =>
    cases hrun
    exact hs
  | cons act rest ih =>
    obtain ⟨s', hs', hrest⟩ := Option.bind_eq_some_iff.mp hrun
    refine ih hrest ?_ (hstep s act s' List.mem_cons_self (does_of_step hs') hs)
    intro s act s' hmem
    exact hstep s act s' (List.mem_cons_of_mem _ hmem)

/-! Cancellation. -/

/-- The calls of `cancel_batch` that are about to write have read a batch of the table, and
are going to return it as cancelled. -/
def Known (s : Batches) : Prop :=
  ∀ info ∈ s.cancelling, info.id ∈ s.queue ∧ info.status = .inr "cancelled"

theorem mem_updateRow : k ∈ updateRow queue batchId f ↔ k ∈ queue := by
  rw [Dict.mem_iff_get?, Dict.mem_iff_get?, get?_updateRow]
  split <;> simp

theorem known_does (h : Does s act s') (hs : s.Known) : s'.Known := by
  cases h with
  | nothing => exact hs
  | create c hnew =>
    intro info hmem
    exact ⟨(Dict.mem_set _ _ _ _).mpr (Or.inr (hs info hmem).1), (hs info hmem).2⟩
  | read batchId now info hid hstatus =>
    intro other hmem
    rcases List.mem_append.mp hmem with hmem | hmem
    · exact hs other hmem
    · rw [List.mem_singleton.mp hmem]
      exact ⟨hid, hstatus⟩
  | cancel call info hcall =>
    intro other hmem
    obtain ⟨hid, hstatus⟩ := hs other (List.mem_of_mem_eraseIdx hmem)
    exact ⟨mem_updateRow.mpr hid, hstatus⟩
  | take => exact hs
  | process => exact fun other hmem => ⟨mem_updateRow.mpr (hs other hmem).1, (hs other hmem).2⟩

theorem known_run (hrun : start.run acts = some s) : s.Known :=
  run_keeps hrun (fun _ _ _ _ => known_does) (by simp [Known, start])

/-- The batch is cancelled, and the processor does not have it. -/
def Cancelled (batchId : String) (s : Batches) : Prop :=
  s.statusOf batchId = some "cancelled" ∧ s.processor.batch ≠ some batchId

/-- The statuses after an update of one row. -/
theorem statusOf_updated (hqueue : s'.queue = updateRow s.queue batchId f)
    (hf : ∀ row, (f row).status = status) (hk : k ∈ s.queue) :
    s'.statusOf k = if k = batchId then some status else s.statusOf k := by
  obtain ⟨row, hrow⟩ := (Dict.mem_iff_get? _ _).mp hk
  unfold statusOf
  rw [hqueue, get?_updateRow, hrow]
  split
  · exact congrArg some (hf row)
  · rfl

theorem mem_of_statusOf (h : s.statusOf batchId = some status) : batchId ∈ s.queue := by
  obtain ⟨row, hrow, -⟩ := Option.map_eq_some_iff.mp h
  exact (Dict.mem_iff_get? _ _).mpr ⟨row, hrow⟩

theorem cancelled_does (h : Does s act s') (hs : Cancelled batchId s) : Cancelled batchId s' := by
  obtain ⟨hstatus, hprocessor⟩ := hs
  have hmem := mem_of_statusOf hstatus
  cases h with
  | nothing => exact ⟨hstatus, hprocessor⟩
  | create c hnew =>
    have hne : batchId ≠ c.batchId := fun heq => hnew (heq ▸ hmem)
    refine ⟨?_, hprocessor⟩
    change ((s.queue.set _ _).get? batchId).map _ = _
    rw [Dict.get?_set_of_ne _ _ hne]
    exact hstatus
  | read => exact ⟨hstatus, hprocessor⟩
  | cancel call info hcall =>
    refine ⟨(statusOf_updated rfl (by intro _; rfl) hmem).trans ?_, hprocessor⟩
    split
    · rfl
    · exact hstatus
  | take other hpending =>
    refine ⟨hstatus, ?_⟩
    rintro ⟨⟩
    rw [hpending, Option.some.injEq] at hstatus
    exact absurd hstatus (by decide)
  | process _ other status f processor hbatch hf _ hkept =>
    have hne : batchId ≠ other := by
      rintro rfl
      exact hprocessor hbatch
    refine ⟨(statusOf_updated rfl hf hmem).trans ?_, ?_⟩
    · rw [if_neg hne]
      exact hstatus
    · change processor.batch ≠ _
      rcases hkept with hkept | hkept
      · rw [hkept]
        exact fun heq => hne (Option.some.inj heq).symm
      · rw [hkept]
        exact nofun

/-- A batch that the processor has when it is cancelled gets another status at the
processor's next statement. -/
theorem overwritten_of_held (hbatch : s.processor.batch = some batchId) (hmem : batchId ∈ s.queue) :
    ∃ act t, s.step act = some t ∧ t.statusOf batchId ≠ some "cancelled" := by
  cases hprocessor : s.processor with
  | idle =>
    rw [hprocessor] at hbatch
    cases hbatch
  | selected other =>
    rw [hprocessor] at hbatch
    obtain rfl := Option.some.inj hbatch
    have hstep : s.step .markRunning = some { s with
        queue := updateRow s.queue other fun row => { row with status := "running" }
        processor := .processing other } := by
      simp only [step, hprocessor]
    refine ⟨_, _, hstep, ?_⟩
    rw [statusOf_updated rfl (by intro _; rfl) hmem, if_pos rfl]
    decide
  | processing other =>
    rw [hprocessor] at hbatch
    obtain rfl := Option.some.inj hbatch
    have hstep : s.step (.finish (.ok "") 0) = some { s with
        queue := updateRow s.queue other (finished (.ok "") 0)
        processor := .idle } := by
      simp only [step, hprocessor]
    refine ⟨_, _, hstep, ?_⟩
    rw [statusOf_updated rfl (by intro _; rfl) hmem, if_pos rfl]
    decide

/-- Once a call of `cancel_batch` has written its batch and returned, no statement of any
run changes the status again, exactly if the processor did not have the batch then. -/
theorem cancellation_final_iff (acts : List BatchAct) (call : Nat) (info : BatchInfo)
    (s s' : Batches) (hrun : start.run acts = some s) (hcall : s.cancelling[call]? = some info)
    (hwrite : s.step (.cancelWrite call) = some s') :
    (∀ later t, s'.run later = some t → t.statusOf info.id = some "cancelled") ↔
      s.processor.batch ≠ some info.id := by
  have hmem := (known_run hrun info (List.mem_of_getElem? hcall)).1
  simp only [step, hcall, Option.some.injEq] at hwrite
  subst hwrite
  constructor
  · intro hfinal hbatch
    obtain ⟨act, t, hstep, hstatus⟩ := overwritten_of_held (s := { s with
        queue := updateRow s.queue info.id fun row =>
          { row with status := "cancelled", completedAt := info.completedAt }
        cancelling := s.cancelling.eraseIdx call }) hbatch (mem_updateRow.mpr hmem)
    refine hstatus (hfinal [act] t ?_)
    rw [run_cons, hstep]
    rfl
  · intro hbatch later t hlater
    refine (run_keeps hlater (fun _ _ _ _ => cancelled_does) ⟨?_, hbatch⟩).1
    exact (statusOf_updated rfl (by intro _; rfl) hmem).trans (if_pos rfl)

/-- A batch for the runs below. -/
def oneBatch : CreateBatch :=
  ⟨"file-3f2a9c", "/v1/chat/completions", "24h", .null, "0a1b2c00000040008000000000000001", 5⟩

/-- Nothing is processed when the batch is cancelled. -/
theorem cancellation_final_pending : ∃ s info s',
    start.run [.createBatch oneBatch, .cancelRead oneBatch.batchId 6] = some s ∧
      s.cancelling[0]? = some info ∧ s.step (.cancelWrite 0) = some s' ∧
      ∀ later t, s'.run later = some t → t.statusOf info.id = some "cancelled" := by
  have hreads : ((start.run [.createBatch oneBatch, .cancelRead oneBatch.batchId 6]).any fun s =>
      s.cancelling[0]?.any fun info => decide (s.processor.batch ≠ some info.id)) = true := by
    decide +kernel
  obtain ⟨s, hrun, hreads⟩ := (Option.any_eq_true _ _).mp hreads
  obtain ⟨info, hcall, hbatch⟩ := (Option.any_eq_true _ _).mp hreads
  obtain ⟨s', hwrite⟩ : ∃ s', s.step (.cancelWrite 0) = some s' := by simp [step, hcall]
  exact ⟨s, info, s', hrun, hcall, hwrite,
    (cancellation_final_iff _ 0 info s s' hrun hcall hwrite).mpr (of_decide_eq_true hbatch)⟩

/-- The processor has read the batch as pending, and marks it after it was cancelled. -/
theorem cancelled_batch_runs :
    (start.run [.createBatch oneBatch, .select oneBatch.batchId, .cancelRead oneBatch.batchId 6,
        .cancelWrite 0]).bind (·.statusOf oneBatch.batchId) = some "cancelled" ∧
      (start.run [.createBatch oneBatch, .select oneBatch.batchId, .cancelRead oneBatch.batchId 6,
        .cancelWrite 0, .markRunning]).bind (·.statusOf oneBatch.batchId) = some "running" := by
  decide +kernel

/-! Reading. -/

/-- Every batch that was created can be read and shown, alone and in every list. -/
structure Readable (number : String → Option ℚ) (s : Batches) : Prop where
  retrieve : ∀ batchId ∈ s.queue, ∃ info shown,
    s.retrieveBatch batchId = .ok info ∧ info.toDict = .ok shown
  list : ∀ limit after ids, |limit| ≤ maxInteger → Selects number s.queue limit after ids →
    ∃ infos shown, s.listBatches limit ids = .ok infos ∧ infos.mapM BatchInfo.toDict = .ok shown

/-- Every status is that of a `BatchStatus`. -/
def Decodable (s : Batches) : Prop :=
  ∀ batchId row, s.queue.get? batchId = some row → ∃ status : BatchStatus, row.status = status.value

theorem retrieveBatch_decodable (hs : s.Decodable) (h : batchId ∈ s.queue) :
    ∃ info shown, s.retrieveBatch batchId = .ok info ∧ info.toDict = .ok shown := by
  obtain ⟨row, hrow⟩ := (Dict.mem_iff_get? _ _).mp h
  obtain ⟨status, hstatus⟩ := hs batchId row hrow
  unfold retrieveBatch
  simp only [hrow, hstatus, BatchStatus.of_value]
  exact ⟨_, _, rfl, rfl⟩

theorem mem_of_selects {number : String → Option ℚ} {after : Option String}
    (h : Selects number queue limit after ids) (hid : batchId ∈ ids) : batchId ∈ queue := by
  obtain ⟨rows, hperm, -, rfl⟩ := h
  obtain ⟨entry, hentry, rfl⟩ := List.mem_map.mp hid
  have hrow : entry ∈ rows := by
    split at hentry
    · exact hentry
    · exact List.mem_of_mem_take hentry
  exact List.mem_map_of_mem (List.mem_of_mem_filter (hperm.mem_iff.mp hrow))

theorem listBatches_decodable (hs : s.Decodable) (hlimit : |limit| ≤ maxInteger)
    (hids : ∀ batchId ∈ ids, batchId ∈ s.queue) :
    ∃ infos shown, s.listBatches limit ids = .ok infos ∧
      infos.mapM BatchInfo.toDict = .ok shown := by
  unfold listBatches
  rw [if_neg (not_lt.mpr hlimit)]
  induction ids with
  | nil => exact ⟨[], [], rfl, rfl⟩
  | cons batchId rest ih =>
    obtain ⟨info, shown, hinfo, hshown⟩ :=
      retrieveBatch_decodable hs (hids batchId List.mem_cons_self)
    obtain ⟨infos, all, hinfos, hall⟩ := ih fun id hid => hids id (List.mem_cons_of_mem _ hid)
    refine ⟨info :: infos, shown :: all, ?_, ?_⟩
    · rw [List.mapM_cons, hinfo, hinfos]
      rfl
    · rw [List.mapM_cons, hshown, hall]
      rfl

theorem readable_of_decodable (number : String → Option ℚ) (hs : s.Decodable) :
    s.Readable number where
  retrieve := fun _ h => retrieveBatch_decodable hs h
  list := fun _ _ _ hlimit hselects =>
    listBatches_decodable hs hlimit fun _ hid => mem_of_selects hselects hid

/-- Only `cancel_batch` writes a status that cannot be read. -/
theorem decodable_does (h : Does s act s') (hact : ∀ call, act ≠ .cancelWrite call)
    (hs : s.Decodable) : s'.Decodable := by
  cases h with
  | nothing => exact hs
  | create c hnew =>
    intro batchId row hrow
    rw [Dict.get?_set] at hrow
    split at hrow
    · rw [← Option.some.inj hrow]
      exact ⟨.pending, rfl⟩
    · exact hs batchId row hrow
  | read => exact hs
  | cancel call => exact absurd rfl (hact call)
  | take => exact hs
  | process _ other status f processor hbatch hf =>
    intro batchId row hrow
    rw [get?_updateRow] at hrow
    split at hrow
    · obtain ⟨row', -, rfl⟩ := Option.map_eq_some_iff.mp hrow
      exact ⟨status, hf row'⟩
    · exact hs batchId row hrow

theorem decodable_run (hrun : start.run acts = some s) (hacts : ∀ call, .cancelWrite call ∉ acts) :
    s.Decodable := by
  refine run_keeps hrun ?_ (by simp [Decodable, start])
  intro s act s' hmem hdoes
  exact decodable_does hdoes fun call heq => hacts call (heq ▸ hmem)

theorem cancelResult_read {now : Int}
    (h : s.cancelResult (.cancelRead batchId now) = some (.ok info)) :
    s.retrieveBatch batchId = .ok info := by
  unfold cancelResult at h
  cases hread : s.retrieveBatch batchId with
  | error e => simp [hread] at h
  | ok found =>
    simp only [hread] at h
    split at h
    · exact Option.some.inj h
    · cases h

/-- Through a run every created batch can be read and listed, and what the calls return can
be shown, exactly if no call of `cancel_batch` writes. -/
theorem batches_readable_iff (number : String → Option ℚ) (acts : List BatchAct) (t : Batches)
    (hrun : start.run acts = some t) :
    ((∀ before rest s, acts = before ++ rest → start.run before = some s → s.Readable number) ∧
        ∀ before act rest s info, acts = before ++ act :: rest → start.run before = some s →
          s.cancelResult act = some (.ok info) → ∃ shown, info.toDict = .ok shown) ↔
      ∀ call, .cancelWrite call ∉ acts := by
  constructor
  · rintro ⟨-, hshown⟩ call hmem
    obtain ⟨before, rest, rfl⟩ := List.append_of_mem hmem
    rw [run_append] at hrun
    obtain ⟨s, hs, hrest⟩ := Option.bind_eq_some_iff.mp hrun
    obtain ⟨s', hwrite, -⟩ := Option.bind_eq_some_iff.mp hrest
    cases hcall : s.cancelling[call]? with
    | none => simp [step, hcall] at hwrite
    | some info =>
      obtain ⟨shown, hshown⟩ := hshown before _ rest s info rfl hs (by simp [cancelResult, hcall])
      simp [BatchInfo.toDict, (known_run hs info (List.mem_of_getElem? hcall)).2] at hshown
  · intro hacts
    refine ⟨?_, ?_⟩
    · rintro before rest s rfl hs
      apply readable_of_decodable
      exact decodable_run hs fun call hmem => hacts call (List.mem_append_left _ hmem)
    · rintro before act rest s info rfl hs hresult
      have hdecodable : s.Decodable :=
        decodable_run hs fun call hmem => hacts call (List.mem_append_left _ hmem)
      cases act with
      | cancelRead batchId now =>
        have hread := cancelResult_read hresult
        obtain ⟨-, row, hrow, -⟩ := retrieveBatch_ok hread
        obtain ⟨found, shown, hfound, hshown⟩ :=
          retrieveBatch_decodable hdecodable ((Dict.mem_iff_get? _ _).mpr ⟨row, hrow⟩)
        rw [hread] at hfound
        exact ⟨shown, Except.ok.inj hfound ▸ hshown⟩
      | cancelWrite call => exact absurd (by simp) (hacts call)
      | _ => cases hresult

/-- A batch that is processed to its end before it is cancelled. -/
theorem batches_readable_completed : ∃ t,
    start.run [.createBatch oneBatch, .select oneBatch.batchId, .markRunning,
      .finish (.ok "file-000001") 7, .cancelRead oneBatch.batchId 8] = some t ∧
      ∀ number, t.Readable number := by
  have hruns : (start.run [.createBatch oneBatch, .select oneBatch.batchId, .markRunning,
      .finish (.ok "file-000001") 7, .cancelRead oneBatch.batchId 8]).isSome = true := by
    decide +kernel
  obtain ⟨t, hrun⟩ := Option.isSome_iff_exists.mp hruns
  refine ⟨t, hrun, fun number => ?_⟩
  exact ((batches_readable_iff number _ t hrun).mpr (by simp)).1 _ [] t (by simp) hrun

/-- A cancelled batch cannot be read any more. -/
theorem cancelled_batch_unreadable :
    ((start.run [.createBatch oneBatch, .cancelRead oneBatch.batchId 6, .cancelWrite 0]).map
      fun s => (s.retrieveBatch oneBatch.batchId).isOk) = some false := by
  decide +kernel

end Batches

end ProductionStack.Services
