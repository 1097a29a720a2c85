import ProductionStack.Lib.EventStream
import ProductionStack.Request.Delivery

/-!
The two frames that `process_request` sends when an event stream stalls, as a reader of
server-sent events takes them behind whatever part of the stream came through.
-/

namespace ProductionStack.Request

open Lib Python Stats

/-! The text of the frames. -/

/-- A character that `json.dumps` writes as it is. -/
def Plain (c : Char) : Prop := 32 ≤ c.toNat ∧ c.toNat < 127 ∧ c.toNat ≠ 34 ∧ c.toNat ≠ 92

instance (c : Char) : Decidable (Plain c) := inferInstanceAs (Decidable (_ ∧ _))

variable {c : Char} {r : BackendResponse}

theorem plain_of_isDigit (h : c.isDigit = true) : Plain c := by
  simp only [Char.isDigit, Bool.and_eq_true, decide_eq_true_eq] at h
  have hlow : 48 ≤ c.toNat := h.1
  have hhigh : c.toNat ≤ 57 := h.2
  unfold Plain
  omega

theorem plain_toDigits {n : Nat} (h : c ∈ Nat.toDigits 10 n) : Plain c :=
  plain_of_isDigit (Nat.isDigit_of_mem_toDigits (by decide) (by decide) h)

theorem mem_stripZeros {digits : List Char} (h : c ∈ stripZeros digits) : c ∈ digits := by
  unfold stripZeros at h
  rw [List.mem_reverse] at h
  exact List.mem_reverse.mp (List.dropWhile_subset _ h)

theorem mem_pointed {whole fraction : List Char} (h : c ∈ pointed whole fraction) :
    c ∈ whole ∨ c = '.' ∨ c ∈ fraction := by
  unfold pointed at h
  split at h
  · exact Or.inl h
  · rcases List.mem_append.mp h with h | h
    · exact Or.inl h
    · exact Or.inr (List.mem_cons.mp h)

/-- A number is written with plain characters. -/
theorem plain_formatG (q : ℚ) : ∀ c ∈ (formatG q).toList, Plain c := by
  have hdigits {n : Nat} {c : Char} (h : c ∈ stripZeros (Nat.toDigits 10 n)) : Plain c :=
    plain_toDigits (mem_stripZeros h)
  have hzeros {n : Nat} {c : Char} (h : c ∈ List.replicate n '0') : Plain c := by
    rw [List.eq_of_mem_replicate h]
    decide
  intro c hc
  unfold formatG at hc
  dsimp only at hc
  split at hc
  · rw [String.toList_ofList] at hc
    rcases mem_pointed hc with h | rfl | h
    · rcases List.mem_append.mp (List.mem_of_mem_take h) with h | h
      · exact hdigits h
      · exact hzeros h
    · decide
    · exact hdigits (List.mem_of_mem_drop h)
  · split at hc
    · rw [String.toList_ofList] at hc
      rcases mem_pointed hc with h | rfl | h
      · rw [List.mem_singleton.mp h]
        decide
      · decide
      · rcases List.mem_append.mp h with h | h
        · exact hzeros h
        · exact hdigits h
    · rw [String.toList_ofList] at hc
      rcases List.mem_append.mp hc with h | h
      · rcases mem_pointed h with h | rfl | h
        · exact hdigits (List.mem_of_mem_take h)
        · decide
        · exact hdigits (List.mem_of_mem_drop h)
      · rcases List.mem_cons.mp h with rfl | h
        · decide
        · rcases List.mem_cons.mp h with rfl | h
          · split <;> decide
          · split at h
            · rcases List.mem_cons.mp h with rfl | h
              · decide
              · exact plain_toDigits h
            · exact plain_toDigits h

theorem plain_formatBound (bound : Option ℚ) : ∀ c ∈ (formatBound bound).toList, Plain c := by
  have hdefault : ∀ c ∈ "the configured bound".toList, Plain c :=
    List.all_iff_forall_prop.mp (by decide)
  unfold formatBound
  split
  · split
    · intro c hc
      rw [String.toList_append] at hc
      rcases List.mem_append.mp hc with h | h
      · exact plain_formatG _ c h
      · have hs : ∀ c ∈ "s".toList, Plain c := List.all_iff_forall_prop.mp (by decide)
        exact hs c h
    · exact hdefault
  · exact hdefault

def stallMessage (timeout : ClientTimeout) : String :=
  "Upstream backend stalled mid-stream (read gap exceeded " ++
    formatBound timeout.sockRead ++ "). Partial output above is incomplete."

/-- `json.dumps` of the error. -/
def stallPayload (timeout : ClientTimeout) : String :=
  "\x7b\"error\": \x7b\"message\": " ++ dumpString (stallMessage timeout) ++ ", \"type\": " ++
    dumpString "gateway_timeout" ++ ", \"code\": " ++ dumpString "backend_stream_stall" ++
    "\x7d\x7d"

variable {s : String} (timeout : ClientTimeout)

theorem plain_stallMessage : ∀ c ∈ (stallMessage timeout).toList, Plain c := by
  have hbefore : ∀ c ∈ "Upstream backend stalled mid-stream (read gap exceeded ".toList,
      Plain c := List.all_iff_forall_prop.mp (by decide)
  have hafter : ∀ c ∈ "). Partial output above is incomplete.".toList, Plain c :=
    List.all_iff_forall_prop.mp (by decide)
  intro c hc
  unfold stallMessage at hc
  rw [String.toList_append, String.toList_append] at hc
  rcases List.mem_append.mp hc with hc | hc
  · rcases List.mem_append.mp hc with hc | hc
    · exact hbefore c hc
    · exact plain_formatBound _ c hc
  · exact hafter c hc

theorem escapeChar_plain (h : Plain c) : escapeChar c = String.singleton c := by
  obtain ⟨hlow, hhigh, hquote, hslash⟩ := h
  unfold escapeChar
  split
  all_goals first
    | omega
    | rfl
    | skip
  simp [hlow, hhigh]

theorem dumpString_plain (h : ∀ c ∈ s.toList, Plain c) : dumpString s = "\"" ++ s ++ "\"" := by
  have hjoin : String.join (s.toList.map escapeChar) = s := by
    rw [← String.toList_inj, String.toList_join, List.flatMap_map]
    have hsingle : ∀ c ∈ s.toList, (escapeChar c).toList = [c] := by
      intro c hc
      rw [escapeChar_plain (h c hc), String.toList_singleton]
    rw [List.flatMap_congr hsingle]
    simp
  unfold dumpString
  rw [hjoin]

theorem encode_append (s t : String) : encode (s ++ t) = encode s ++ encode t := by
  simp [encode, String.toList_append]

/-- The frames are those of the error and of the end. -/
theorem sseStallFrames_eq : sseStallFrames timeout =
      (EventStream.frame (encode (stallPayload timeout)), EventStream.frame (encode "[DONE]")) := by
  have hpayload : stallPayload timeout = "\x7b\"error\": \x7b\"message\": \"" ++
      stallMessage timeout ++
      "\", \"type\": \"gateway_timeout\", \"code\": \"backend_stream_stall\"\x7d\x7d" := by
    unfold stallPayload
    have htype : ∀ c ∈ "gateway_timeout".toList, Plain c :=
      List.all_iff_forall_prop.mp (by decide)
    have hcode : ∀ c ∈ "backend_stream_stall".toList, Plain c :=
      List.all_iff_forall_prop.mp (by decide)
    rw [dumpString_plain (plain_stallMessage timeout), dumpString_plain htype,
      dumpString_plain hcode]
    rw [← String.toList_inj]
    simp [String.toList_append]
  have herror : (sseStallFrames timeout).1 = EventStream.frame (encode (stallPayload timeout)) := by
    rw [hpayload]
    unfold sseStallFrames EventStream.frame stallMessage
    simp only [encode_append]
    rfl
  have hdone : (sseStallFrames timeout).2 = EventStream.frame (encode "[DONE]") := by
    change encode "data: [DONE]\n\n" = _
    decide
  rw [← herror, ← hdone]

theorem unbroken_encode (h : ∀ c ∈ s.toList, 32 ≤ c.toNat ∧ c.toNat < 127) :
    EventStream.Unbroken (encode s) := by
  intro b hb
  obtain ⟨c, hc, hb⟩ := List.mem_flatMap.mp hb
  obtain ⟨hlow, hhigh⟩ := h c hc
  have hascii : String.utf8EncodeChar c = [UInt8.ofNat c.toNat] := by
    unfold String.utf8EncodeChar
    have hle : c.val.toNat ≤ 127 := by
      change c.toNat ≤ 127
      omega
    simp only [hle, if_true]
    rfl
  rw [hascii, List.mem_singleton] at hb
  have hvalue : b.toNat = c.toNat := by
    rw [hb]
    simp
    omega
  constructor
  · rintro rfl
    change 10 = c.toNat at hvalue
    omega
  · rintro rfl
    change 13 = c.toNat at hvalue
    omega

theorem unbroken_stallPayload : EventStream.Unbroken (encode (stallPayload timeout)) := by
  apply unbroken_encode
  have hplain (s : String) (h : ∀ c ∈ s.toList, Plain c) :
      ∀ c ∈ (dumpString s).toList, 32 ≤ c.toNat ∧ c.toNat < 127 := by
    have hquote : ∀ c ∈ "\"".toList, 32 ≤ c.toNat ∧ c.toNat < 127 :=
      List.all_iff_forall_prop.mp (by decide)
    intro c hc
    rw [dumpString_plain h, String.toList_append, String.toList_append] at hc
    simp only [List.mem_append] at hc
    rcases hc with (hc | hc) | hc
    · exact hquote c hc
    · exact ⟨(h c hc).1, (h c hc).2.1⟩
    · exact hquote c hc
  have hmessage := hplain _ (plain_stallMessage timeout)
  have htype := hplain "gateway_timeout" (List.all_iff_forall_prop.mp (by decide))
  have hcode := hplain "backend_stream_stall" (List.all_iff_forall_prop.mp (by decide))
  have hopen : ∀ c ∈ "\x7b\"error\": \x7b\"message\": ".toList, 32 ≤ c.toNat ∧ c.toNat < 127 :=
    List.all_iff_forall_prop.mp (by decide)
  have hthen : ∀ c ∈ ", \"type\": ".toList, 32 ≤ c.toNat ∧ c.toNat < 127 :=
    List.all_iff_forall_prop.mp (by decide)
  have hlast : ∀ c ∈ ", \"code\": ".toList, 32 ≤ c.toNat ∧ c.toNat < 127 :=
    List.all_iff_forall_prop.mp (by decide)
  have hclose : ∀ c ∈ "\x7d\x7d".toList, 32 ≤ c.toNat ∧ c.toNat < 127 :=
    List.all_iff_forall_prop.mp (by decide)
  intro c hc
  unfold stallPayload at hc
  simp only [String.toList_append, List.mem_append] at hc
  rcases hc with (((((hc | hc) | hc) | hc) | hc) | hc) | hc
  · exact hopen c hc
  · exact hmessage c hc
  · exact hthen c hc
  · exact htype c hc
  · exact hlast c hc
  · exact hcode c hc
  · exact hclose c hc

/-! What the consumer gets. -/

/-- The bytes of what was yielded. -/
def bodyOf (items : List Item) : Bytes :=
  items.flatMap fun
    | .head _ _ => []
    | .chunk bytes => bytes

theorem bodyOf_outputs (h : r.stalls = true) : bodyOf (r.outputs timeout) = r.chunks.flatten ++
      (EventStream.frame (encode (stallPayload timeout)) ++
        EventStream.frame (encode "[DONE]")) := by
  have hchunks (chunks : List Bytes) : bodyOf (chunks.map .chunk) = chunks.flatten := by
    simp [bodyOf, List.flatMap_map, List.flatMap_id']
  have hitems : bodyOf r.items = r.chunks.flatten := hchunks r.chunks
  unfold BackendResponse.outputs
  rw [if_pos h, sseStallFrames_eq]
  have hframes (first second : Bytes) : bodyOf (r.items ++ [Item.chunk first, Item.chunk second]) =
        bodyOf r.items ++ (first ++ second) := by
    simp [bodyOf]
  rw [hframes, hitems]

/-- A consumer that is not interrupted gets all outputs of the response. -/
theorem yielded_of_run {app : App} {request : HttpRequest} {body : Body}
    {backendUrl requestId endpoint : String} {parentSpan : Option Nat} {window : ℚ}
    {earlier : List Op} {result : Except Raised Unit} {w : World} (hrun : Prog.Reaches allows
      (processRequest app request body backendUrl requestId endpoint parentSpan)
      (.start window earlier) (.ret result) w)
    (hresponse : (digest w.log).delivery.response = some r)
    (htaken : (digest w.log).delivery.interrupted = false) :
    (digest w.log).delivery.yielded = r.outputs (resolveBackendClientTimeout app) := by
  obtain ⟨a, outcome, v, ha, hdigest, hsettled⟩ := settled_of_run hrun hresponse
  have hdelivers := hsettled.delivers
  rw [ha.clientTimeout_eq] at hdelivers
  rw [hdigest] at hresponse htaken ⊢
  exact hdelivers.whole r hresponse htaken

/-- What a reader gets from a stream that stalls. -/
theorem events_outputs_iff (hstalls : r.stalls = true) :
    EventStream.events (bodyOf (r.outputs timeout)) = EventStream.events r.chunks.flatten ++
        [encode (stallPayload timeout), encode "[DONE]"] ↔
      EventStream.Clear (encode (stallPayload timeout)) (EventStream.read r.chunks.flatten) := by
  rw [bodyOf_outputs timeout hstalls]
  have hdone : EventStream.Unbroken (encode "[DONE]") :=
    unbroken_encode (List.all_iff_forall_prop.mp (by decide))
  exact EventStream.events_frames_iff (unbroken_stallPayload timeout) hdone _

/-- In every run in which an event stream stalls and the consumer takes all it gets, a
reader gets the error and the end as the two events after those of the stream exactly if
the error can stand where the stream broke off. -/
theorem stall_frames_delivered_iff (app : App) (request : HttpRequest) (body : Body)
    (backendUrl requestId endpoint : String) (parentSpan : Option Nat) (window : ℚ)
    (earlier : List Op) (result : Except Raised Unit) (w : World) (r : BackendResponse)
    (hrun : Prog.Reaches allows
      (processRequest app request body backendUrl requestId endpoint parentSpan)
      (.start window earlier) (.ret result) w)
    (hresponse : (digest w.log).delivery.response = some r) (hstalls : r.stalls = true)
    (htaken : (digest w.log).delivery.interrupted = false) :
    EventStream.events (bodyOf (digest w.log).delivery.yielded) =
        EventStream.events r.chunks.flatten ++
          [encode (stallPayload (resolveBackendClientTimeout app)), encode "[DONE]"] ↔
      EventStream.Clear (encode (stallPayload (resolveBackendClientTimeout app)))
        (EventStream.read r.chunks.flatten) := by
  rw [yielded_of_run hrun hresponse htaken]
  exact events_outputs_iff _ hstalls

/-- A stream that delivers this and then stalls. -/
def stalledAfter (received : String) : BackendResponse :=
  { stalledResponse "text/event-stream" with chunks := [encode received] }

/-- The stream breaks off between two events. -/
theorem stall_frames_after_event : ∃ w,
    Prog.Reaches allows (processRequest plainApp ⟨"POST", []⟩ modelBody "http://a" "r" "/v1" none)
      (.start 60 []) (.ret (.ok ())) w ∧
    EventStream.events (bodyOf (digest w.log).delivery.yielded) =
      [encode "x", encode (stallPayload defaultBackendClientTimeout), encode "[DONE]"] := by
  have hrun := served_reaches (stalledAfter "data: x\n\n") .resumed
  have hiff := stall_frames_delivered_iff _ _ _ _ _ _ _ _ _ _ _ (stalledAfter "data: x\n\n") hrun
    rfl rfl rfl
  have hread : EventStream.read (stalledAfter "data: x\n\n").chunks.flatten =
      ⟨[], false, [], [encode "x"]⟩ := by decide
  have hevents := hiff.mpr (.boundary (by rw [hread]; exact ⟨rfl, rfl⟩))
  refine ⟨_, hrun, ?_⟩
  rw [hevents]
  unfold EventStream.events
  rfl

/-- The stream breaks off within a line: what is there of it and the frame become one
line. -/
theorem stall_frames_within_line : ∃ w,
    Prog.Reaches allows (processRequest plainApp ⟨"POST", []⟩ modelBody "http://a" "r" "/v1" none)
      (.start 60 []) (.ret (.ok ())) w ∧
    EventStream.events (bodyOf (digest w.log).delivery.yielded) ≠
      EventStream.events (stalledAfter "data: x").chunks.flatten ++
        [encode (stallPayload defaultBackendClientTimeout), encode "[DONE]"] := by
  have hrun := served_reaches (stalledAfter "data: x") .resumed
  have hread : EventStream.read (stalledAfter "data: x").chunks.flatten =
      ⟨encode "data: x", false, [], []⟩ := by decide
  refine ⟨_, hrun, ?_⟩
  intro hevents
  have hyielded := yielded_of_run hrun (r := stalledAfter "data: x") rfl rfl
  have hclear := (events_outputs_iff _ rfl).mp hevents
  cases hclear with
  | boundary hboundary => cases hboundary.line
  | repeated hdata _ => cases hdata

end ProductionStack.Request
