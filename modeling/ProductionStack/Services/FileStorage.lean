import ProductionStack.Python.Json

/-!
The files of the batch API. A file is kept in the user's directory under its id, and
an id that the caller does not give is made of six digits of a random UUID.
-/

namespace ProductionStack.Services

open Lib Python

structure OpenAIFile where
  id : String
  bytes : Nat
  createdAt : Int
  filename : String
  purpose : String

/-- Opening a file empties it; the write may stop in the middle. -/
inductive Writing where
  | finished
  | refused (e : PyExc)
  | stopped (written : Nat) (e : PyExc)

/-- A call of `save_file`. `hex` is what `uuid.uuid4().hex` gives, and `ctime` what
`os.path.getctime` says afterwards. -/
structure SaveFile where
  fileId : Option String
  userId : String
  fileName : Option String
  content : Option Bytes
  purpose : String
  hex : String
  writing : Writing
  ctime : Int

namespace SaveFile

def chosenId (s : SaveFile) : String :=
  s.fileId.getD ("file-" ++ String.ofList (s.hex.toList.take 6))

/-- What the call leaves in the file, if it gets as far as opening it. -/
def written (s : SaveFile) : Option Bytes :=
  match s.content, s.writing with
  | none, _ | some _, .refused _ => none
  | some content, .finished => some content
  | some content, .stopped n _ => some (content.take n)

def result (s : SaveFile) : Except PyExc OpenAIFile :=
  match s.content, s.writing with
  | none, _ => .error (.new .valueError "Content cannot be None")
  | some _, .refused e | some _, .stopped _ e => .error e
  | some content, .finished => .ok {
      id := s.chosenId
      bytes := content.length
      createdAt := s.ctime
      filename := (s.fileName.filter (· ≠ "")).getD s.chosenId
      purpose := s.purpose }

end SaveFile

inductive FileCall where
  | saveFile (s : SaveFile)
  | deleteFile (fileId userId : String)

section Storage

/-! `path` says which file the system finds under a user's directory and an id. -/

variable {π : Type} [DecidableEq π] (path : String → String → π)

def saveFile (files : Dict π Bytes) (s : SaveFile) : Dict π Bytes :=
  match s.written with
  | some content => files.set (path s.userId s.chosenId) content
  | none => files

def getFileContent (files : Dict π Bytes) (fileId userId : String) :
    Except PyExc Bytes :=
  match files.get? (path userId fileId) with
  | some content => .ok content
  | none => .error (.new (.derived "FileNotFoundError" .exception)
      ("File " ++ fileId ++ " not found"))

def storageStep (files : Dict π Bytes) : FileCall → Dict π Bytes
  | .saveFile s => saveFile path files s
  | .deleteFile fileId userId => files.erase (path userId fileId)

def storageRun (files : Dict π Bytes) (calls : List FileCall) : Dict π Bytes :=
  calls.foldl (storageStep path) files

/-- None of the calls deletes the file. -/
def Undeleted (file : π) (calls : List FileCall) : Prop :=
  ∀ fileId userId, .deleteFile fileId userId ∈ calls → path userId fileId ≠ file

/-- Whatever was saved is what its id gives, as long as it is not deleted. -/
def KeepsFiles (files : Dict π Bytes) (calls : List FileCall) : Prop :=
  ∀ before s file later rest, calls = before ++ .saveFile s :: (later ++ rest) →
    s.result = .ok file → Undeleted path (path s.userId file.id) later →
    ∃ content, s.content = some content ∧
      getFileContent path (storageRun path files (before ++ .saveFile s :: later)) file.id
        s.userId = .ok content

/-- Until a saved file is deleted, no other call that writes has an id for the same file,
unless it writes the same content. -/
def Unrepeated (calls : List FileCall) : Prop :=
  ∀ before s file later again rest,
    calls = before ++ .saveFile s :: (later ++ .saveFile again :: rest) →
    s.result = .ok file → Undeleted path (path s.userId file.id) later →
    path again.userId again.chosenId = path s.userId file.id →
    ∀ content, again.written = some content → s.content = some content

end Storage

/-! A file that was saved. -/

section Kept

variable {π : Type} [DecidableEq π] {path : String → String → π} {files : Dict π Bytes}
  {s : SaveFile} {file : OpenAIFile} {p : π} {content : Bytes}

theorem SaveFile.result_ok (h : s.result = .ok file) :
    file.id = s.chosenId ∧ ∃ content, s.content = some content ∧ s.written = some content := by
  unfold SaveFile.result at h
  split at h
  · cases h
  · cases h
  · cases h
  · rename_i content hcontent hwriting
    cases h
    refine ⟨rfl, content, hcontent, ?_⟩
    simp only [SaveFile.written, hcontent, hwriting]

theorem get?_saveFile (files : Dict π Bytes) (s : SaveFile) (p : π) :
    (saveFile path files s).get? p =
      if p = path s.userId s.chosenId then s.written.or (files.get? p) else files.get? p := by
  unfold saveFile
  cases s.written with
  | none => simp
  | some content =>
    simp only [Dict.get?_set, Option.some_or]

/-- A call that neither deletes the file nor writes anything else into it. -/
theorem get?_storageStep {call : FileCall} (h : files.get? p = some content)
    (hdelete : ∀ fileId userId, call = .deleteFile fileId userId → path userId fileId ≠ p)
    (hsave : ∀ s c, call = .saveFile s → path s.userId s.chosenId = p → s.written = some c →
      c = content) : (storageStep path files call).get? p = some content := by
  cases call with
  | deleteFile fileId userId =>
    change (files.erase _).get? p = _
    rw [Dict.get?_erase_of_ne _ (Ne.symm (hdelete fileId userId rfl))]
    exact h
  | saveFile s =>
    change (saveFile path files s).get? p = _
    rw [get?_saveFile]
    split
    · rename_i hp
      cases hwritten : s.written with
      | none => exact h
      | some c => rw [hsave s c rfl hp.symm hwritten, Option.some_or]
    · exact h

theorem get?_storageRun {calls : List FileCall} (h : files.get? p = some content)
    (hdelete : Undeleted path p calls)
    (hsave : ∀ s c, .saveFile s ∈ calls → path s.userId s.chosenId = p → s.written = some c →
      c = content) : (storageRun path files calls).get? p = some content := by
  induction calls generalizing files with
  | nil => exact h
  | cons call rest ih =>
    apply ih
    · apply get?_storageStep h
      · rintro fileId userId rfl
        exact hdelete fileId userId List.mem_cons_self
      · rintro s c rfl
        exact hsave s c List.mem_cons_self
    · intro fileId userId hmem
      exact hdelete fileId userId (List.mem_cons_of_mem _ hmem)
    · intro s c hmem
      exact hsave s c (List.mem_cons_of_mem _ hmem)

theorem getFileContent_eq_ok_iff {fileId userId : String} :
    getFileContent path files fileId userId = .ok content ↔
      files.get? (path userId fileId) = some content := by
  unfold getFileContent
  cases files.get? (path userId fileId) <;> simp

theorem storageRun_append (files : Dict π Bytes) (first second : List FileCall) :
    storageRun path files (first ++ second) =
      storageRun path (storageRun path files first) second := List.foldl_append

end Kept

/-- Every returned id yields what was saved under it until it is deleted, exactly if no
other call writes something else under an id of the same file meanwhile. -/
theorem keeps_files_iff {π : Type} [DecidableEq π] (path : String → String → π)
    (files : Dict π Bytes) (calls : List FileCall) :
    KeepsFiles path files calls ↔ Unrepeated path calls := by
  constructor
  · intro hkeeps before s file later again rest hcalls hsaved hundeleted hpath content hwritten
    have hundeleted' : Undeleted path (path s.userId file.id) (later ++ [.saveFile again]) := by
      intro fileId userId hmem
      simp only [List.mem_append, List.mem_singleton, reduceCtorEq, or_false] at hmem
      exact hundeleted fileId userId hmem
    obtain ⟨kept, hkept, hget⟩ := hkeeps before s file (later ++ [.saveFile again]) rest
      (by simp [hcalls]) hsaved hundeleted'
    -- the last call is the one that writes again
    rw [getFileContent_eq_ok_iff, ← List.cons_append, ← List.append_assoc, storageRun_append] at hget
    change (saveFile path _ again).get? _ = _ at hget
    rw [get?_saveFile, if_pos hpath.symm, hwritten, Option.some_or] at hget
    rw [hkept, hget]
  · rintro hunrepeated before s file later rest hcalls hsaved hundeleted
    obtain ⟨hid, content, hcontent, hwritten⟩ := SaveFile.result_ok hsaved
    refine ⟨content, hcontent, ?_⟩
    rw [getFileContent_eq_ok_iff, storageRun_append]
    change (storageRun path (saveFile path _ s) later).get? _ = _
    apply get?_storageRun
    · rw [get?_saveFile, hid, if_pos rfl, hwritten, Option.some_or]
    · exact hundeleted
    · intro again c hmem hpath hagain
      obtain ⟨first, second, hlater⟩ := List.append_of_mem hmem
      have hfirst : Undeleted path (path s.userId file.id) first := by
        intro fileId userId hfirst
        exact hundeleted fileId userId (by simp [hlater, hfirst])
      have hsame := hunrepeated before s file first again (second ++ rest)
        (by simp [hcalls, hlater]) hsaved hfirst hpath c hagain
      exact Option.some.inj (hsame.symm.trans hcontent)

/-- Two random ids that agree in their first six digits. -/
theorem file_overwritten :
    ¬ KeepsFiles Prod.mk .empty
      [.saveFile ⟨none, "uid_default", some "a.jsonl", some [1], "batch",
          "3f2a9c00000040008000000000000001", .finished, 0⟩,
        .saveFile ⟨none, "uid_default", some "b.jsonl", some [2], "batch",
          "3f2a9c00000040008000000000000002", .finished, 0⟩] := by
  intro h
  obtain ⟨content, hcontent, hget⟩ := h [] _ _ [.saveFile _] [] rfl rfl (by simp [Undeleted])
  obtain rfl := Option.some.inj hcontent
  exact absurd hget (by decide +kernel)

end ProductionStack.Services
