import Mathlib.Data.Bool.AllAny
import Mathlib.Data.List.Basic

/-!
A reader of server-sent events. Lines end with a line feed, a carriage return or both.
A blank line ends an event; its data are the values of its `data` lines, one below the
other. Events without data and an event that the stream breaks off are dropped, and so
are the other fields and comments. A byte order mark may come first.
-/

namespace ProductionStack.Lib.EventStream

abbrev Line := List UInt8

def lineFeed : UInt8 := 10

def carriageReturn : UInt8 := 13

def colon : UInt8 := 58

def space : UInt8 := 32

/-- `data`. -/
def dataName : Line := [100, 97, 116, 97]

/-- The value of a `data` line. The blank after the colon does not belong to it. -/
def dataOf (line : Line) : Option Line :=
  if line.takeWhile (· ≠ colon) = dataName then
    match (line.dropWhile (· ≠ colon)).drop 1 with
    | first :: rest => some (if first = space then rest else first :: rest)
    | [] => some []
  else none

structure Reader where
  line : Line
  afterReturn : Bool
  data : List Line
  events : List Line
  deriving DecidableEq

namespace Reader

def start : Reader := ⟨[], false, [], []⟩

/-- The line is complete. -/
def endLine (r : Reader) : Reader :=
  if r.line = [] then
    if r.data = [] then r
    else { r with data := [], events := r.events ++ [[lineFeed].intercalate r.data] }
  else { r with line := [], data := r.data ++ (dataOf r.line).toList }

def feed (r : Reader) (byte : UInt8) : Reader :=
  if byte = carriageReturn then { r.endLine with afterReturn := true }
  else if byte = lineFeed then
    if r.afterReturn then { r with afterReturn := false } else r.endLine
  else { r with line := r.line ++ [byte], afterReturn := false }

def feedAll (r : Reader) (bytes : List UInt8) : Reader := bytes.foldl feed r

theorem feedAll_append (r : Reader) (first second : List UInt8) :
    r.feedAll (first ++ second) = (r.feedAll first).feedAll second := List.foldl_append

/-- No line and no event has been begun. -/
structure AtBoundary (r : Reader) : Prop where
  line : r.line = []
  data : r.data = []

end Reader

def byteOrderMark : List UInt8 := [0xEF, 0xBB, 0xBF]

def withoutMark (bytes : List UInt8) : List UInt8 :=
  if byteOrderMark <+: bytes then bytes.drop 3 else bytes

def read (bytes : List UInt8) : Reader := Reader.start.feedAll (withoutMark bytes)

/-- The data of the events of a stream. -/
def events (bytes : List UInt8) : List Line := (read bytes).events

/-- `data: ...` and a blank line. -/
def frame (data : Line) : List UInt8 := dataName ++ [colon, space] ++ data ++ [lineFeed, lineFeed]

/-! A frame after what was read. -/

/-- Nothing in it ends a line. -/
def Unbroken (bytes : List UInt8) : Prop := ∀ b ∈ bytes, b ≠ lineFeed ∧ b ≠ carriageReturn

theorem Reader.feedAll_unbroken {bytes : List UInt8} (h : Unbroken bytes) (hne : bytes ≠ [])
    (r : Reader) : r.feedAll bytes = { r with line := r.line ++ bytes, afterReturn := false } := by
  induction bytes generalizing r with
  | nil => exact absurd rfl hne
  | cons b rest ih =>
    obtain ⟨hfeed, hreturn⟩ := h b List.mem_cons_self
    have hfirst : r.feed b = { r with line := r.line ++ [b], afterReturn := false } := by
      simp [Reader.feed, hfeed, hreturn]
    change (r.feed b).feedAll rest = _
    rw [hfirst]
    by_cases hrest : rest = []
    · subst hrest
      rfl
    · rw [ih (fun b hb => h b (List.mem_cons_of_mem _ hb)) hrest]
      simp

/-- The line of a frame, behind what was there of a line. -/
def merged (r : Reader) (data : Line) : Line := r.line ++ (dataName ++ [colon, space] ++ data)

variable {data : Line}

/-- After a frame the reader is between two events, and has taken the data lines it had
and the one that the merged line may be. -/
theorem Reader.feedAll_frame (h : Unbroken data) (r : Reader) :
    r.feedAll (frame data) = ⟨[], false, [],
      r.events ++ if r.data ++ (dataOf (merged r data)).toList = [] then []
        else [[lineFeed].intercalate (r.data ++ (dataOf (merged r data)).toList)]⟩ := by
  have hline : Unbroken (dataName ++ [colon, space] ++ data) := by
    intro b hb
    rcases List.mem_append.mp hb with hname | hdata
    · have hplain : ∀ b ∈ dataName ++ [colon, space], b ≠ lineFeed ∧ b ≠ carriageReturn :=
        List.all_iff_forall_prop.mp (by decide)
      exact hplain b hname
    · exact h b hdata
  have hne : dataName ++ [colon, space] ++ data ≠ [] := by simp [dataName]
  have hmerged : merged r data ≠ [] := by simp [merged, dataName]
  unfold frame
  rw [Reader.feedAll_append, Reader.feedAll_unbroken hline hne]
  change Reader.feed (Reader.feed ⟨merged r data, false, r.data, r.events⟩ lineFeed) lineFeed = _
  have hfirst : Reader.feed ⟨merged r data, false, r.data, r.events⟩ lineFeed =
      ⟨[], false, r.data ++ (dataOf (merged r data)).toList, r.events⟩ := by
    simp [Reader.feed, Reader.endLine, lineFeed, carriageReturn, hmerged]
  rw [hfirst]
  by_cases hdata : r.data ++ (dataOf (merged r data)).toList = []
  · simp only [hdata, if_true, List.append_nil]
    rfl
  · simp [Reader.feed, Reader.endLine, lineFeed, carriageReturn, hdata]

theorem length_of_dataOf {line value : Line} (h : dataOf line = some value) :
    line.length ≤ value.length + 6 := by
  unfold dataOf at h
  split at h
  · rename_i hname
    have hparts : line.length = (line.takeWhile (· ≠ colon)).length +
        (line.dropWhile (· ≠ colon)).length := by
      rw [← List.length_append, List.takeWhile_append_dropWhile]
    have hdropped : ((line.dropWhile (· ≠ colon)).drop 1).length =
        (line.dropWhile (· ≠ colon)).length - 1 := List.length_drop
    rw [hname] at hparts
    change line.length = 4 + _ at hparts
    split at h
    · rename_i first rest hrest
      rw [hrest, List.length_cons] at hdropped
      have hvalue := Option.some.inj h
      split at hvalue
      · subst hvalue
        omega
      · subst hvalue
        rw [List.length_cons]
        omega
    · rename_i hrest
      rw [hrest, List.length_nil] at hdropped
      omega
  · cases h

theorem dataOf_own (data : Line) : dataOf (dataName ++ [colon, space] ++ data) = some data := by
  simp [dataOf, dataName, colon, space]

/-- The merged line has the data of the frame only if nothing was there. -/
theorem dataOf_merged_iff (r : Reader) (data : Line) :
    dataOf (merged r data) = some data ↔ r.line = [] := by
  constructor
  · intro h
    have hlength := length_of_dataOf h
    simp only [merged, dataName, List.length_append, List.length_cons, List.length_nil] at hlength
    apply List.eq_nil_of_length_eq_zero
    omega
  · intro h
    unfold merged
    rw [h]
    exact dataOf_own data

theorem intercalate_eq_iff (h : Unbroken data) (lines : List Line)
    (hne : lines ≠ []) : [lineFeed].intercalate lines = data ↔ lines = [data] := by
  constructor
  · intro heq
    match lines with
    | [] => exact absurd rfl hne
    | [line] =>
      rw [← heq]
      simp
    | first :: second :: rest =>
      have hmem : lineFeed ∈ data := by
        rw [← heq]
        simp [List.intercalate]
      exact absurd rfl (h lineFeed hmem).1
  · rintro rfl
    simp

/-- Where a frame can stand: at a boundary; or behind a single data line that says the
same, when the merged line is not a data line. -/
inductive Clear (data : Line) (r : Reader) : Prop where
  | boundary (h : r.AtBoundary)
  | repeated (hdata : r.data = [data]) (hline : dataOf (merged r data) = none)

theorem frame_events_iff (h : Unbroken data) (r : Reader) :
    (r.feedAll (frame data)).events = r.events ++ [data] ↔ Clear data r := by
  rw [r.feedAll_frame h, List.append_right_inj]
  cases hmerged : dataOf (merged r data) with
  | none =>
    have hline : r.line ≠ [] := by
      intro hline
      rw [(dataOf_merged_iff r data).mpr hline] at hmerged
      cases hmerged
    simp only [Option.toList_none, List.append_nil]
    constructor
    · intro heq
      split at heq
      · cases heq
      · rename_i hne
        exact .repeated ((intercalate_eq_iff h r.data hne).mp (List.singleton_inj.mp heq)) hmerged
    · intro hclear
      cases hclear with
      | boundary hboundary => exact absurd hboundary.line hline
      | repeated hdata _ => simp [hdata]
  | some value =>
    have hne : r.data ++ (some value).toList ≠ [] := by simp
    rw [if_neg hne, List.singleton_inj, intercalate_eq_iff h _ hne]
    constructor
    · intro heq
      cases hdata : r.data with
      | nil =>
        rw [hdata] at heq
        have hvalue : value = data := List.singleton_inj.mp heq
        rw [hvalue] at hmerged
        exact .boundary ⟨(dataOf_merged_iff r data).mp hmerged, hdata⟩
      | cons first rest =>
        have hlength := congrArg List.length heq
        simp [hdata] at hlength
    · intro hclear
      cases hclear with
      | boundary hboundary =>
        rw [(dataOf_merged_iff r data).mpr hboundary.line] at hmerged
        rw [hboundary.data, Option.some.inj hmerged]
        rfl
      | repeated _ hnone =>
        rw [hmerged] at hnone
        cases hnone

/-! Whole streams. -/

theorem withoutMark_append (bytes : List UInt8) (data : Line) (rest : List UInt8) :
    withoutMark (bytes ++ (frame data ++ rest)) = withoutMark bytes ++ (frame data ++ rest) := by
  unfold withoutMark
  match bytes with
  | [] | [a] | [a, b] => simp [byteOrderMark, frame, dataName]
  | a :: b :: c :: more =>
    by_cases hmark : byteOrderMark <+: a :: b :: c :: more
    · rw [if_pos hmark, if_pos (hmark.trans (List.prefix_append _ _))]
      rfl
    · have hmark' : ¬ byteOrderMark <+: a :: b :: c :: more ++ (frame data ++ rest) := by
        intro h
        apply hmark
        simpa [byteOrderMark] using h
      rw [if_neg hmark, if_neg hmark']

/-- Two frames after what was received come out as their two events exactly if the first
can stand there. -/
theorem events_frames_iff {last : Line} (hdata : Unbroken data) (hlast : Unbroken last)
    (received : List UInt8) :
    events (received ++ (frame data ++ frame last)) = events received ++ [data, last] ↔
      Clear data (read received) := by
  have hboundary : ((read received).feedAll (frame data)).AtBoundary := by
    rw [Reader.feedAll_frame hdata]
    exact ⟨rfl, rfl⟩
  have hsecond := (frame_events_iff hlast _).mpr (.boundary hboundary)
  have hevents : events (received ++ (frame data ++ frame last)) =
      ((read received).feedAll (frame data)).events ++ [last] := by
    unfold events read
    rw [withoutMark_append, Reader.feedAll_append, Reader.feedAll_append]
    exact hsecond
  have hlists : events received ++ [data, last] = (events received ++ [data]) ++ [last] := by simp
  rw [hevents, hlists, List.append_left_inj]
  exact frame_events_iff hdata (read received)

end ProductionStack.Lib.EventStream
