import ProductionStack.Request.Accounting

/-!
Every run of `process_request`, whatever the backend does and wherever its
consumer closes or cancels it. `Relayed` and `Exchanged` say how the nested
contexts can end; the handlers and the `finally` clause follow from them.
-/

namespace ProductionStack.Request

open Lib Python Stats Py

/-- The stream breaks off with a timeout while it is an event stream. -/
def BackendResponse.stalls (r : BackendResponse) : Bool :=
  match r.ending with
  | .raises e => e.isInstance [.timeoutError] &&
      BackendCall.isEventStream (header r.headers "content-type" "")
  | .eof => false

/-- Headers and status, then the chunks. -/
def BackendResponse.items (r : BackendResponse) : List Item :=
  .head r.headers r.status :: r.chunks.map .chunk

/-- All that a consumer can get out of a response: its items, and the two stall
frames when the stream stalls. -/
def BackendResponse.outputs (timeout : ClientTimeout) (r : BackendResponse) : List Item :=
  r.items ++
    if r.stalls then
      [.chunk (sseStallFrames timeout).1, .chunk (sseStallFrames timeout).2]
    else []

theorem items_prefix_outputs (timeout : ClientTimeout) (r : BackendResponse) :
    r.items <+: r.outputs timeout := List.prefix_append _ _

/-- The locals the handlers read are the same. -/
structure SameContext (l l' : Locals) : Prop where
  entryTimeout : l'.entryTimeout = l.entryTimeout
  headersSent : l'.headersSent = l.headersSent
  backendContentType : l'.backendContentType = l.backendContentType

theorem SameContext.refl (l : Locals) : SameContext l l := ⟨rfl, rfl, rfl⟩

variable {l : Locals} {timeout : ClientTimeout} {asserts : World → Event → Prop} {w : World}
  {d : Digest} {post : Except Raised Unit → Locals → World → Prop} {i : Interrupt}
  {result : Except Raised Unit} {l' : Locals} {ending : Ending} {out : List Item}
  {trouble : Option Trouble} {outcome : TerminalOutcome}

theorem SameContext.trans {l'' : Locals} (h : SameContext l l') (h' : SameContext l' l'') :
    SameContext l l'' where
  entryTimeout := h'.entryTimeout.trans h.entryTimeout
  headersSent := h'.headersSent.trans h.headersSent
  backendContentType := h'.backendContentType.trans h.backendContentType

/-- How relaying `chunks` can end: all of them delivered and the stream at its
end, all of them delivered and the stream failed, or an interruption after some
of them. -/
inductive Relayed (l : Locals) (v : Delivery) (ending : Ending) (chunks : List Bytes) :
    Except Raised Unit → Locals → Delivery → Prop where
  | finished (l' : Locals) (hending : ending = .eof) (hsame : SameContext l l')
      (hfull : l'.fullResponse = l.fullResponse ++ chunks.flatten) :
      Relayed l v ending chunks (.ok ()) l'
        { v with yielded := v.yielded ++ chunks.map .chunk }
  | failed (l' : Locals) (e : PyExc) (hending : ending = .raises e) (hsame : SameContext l l') :
      Relayed l v ending chunks (.error (.error e)) l'
        { v with yielded := v.yielded ++ chunks.map .chunk, trouble := some .backend }
  | interrupted (l' : Locals) (i : Interrupt) (out : List Item)
      (hout : out <+: chunks.map .chunk) (hsame : SameContext l l') :
      Relayed l v ending chunks (.error (.interrupt i)) l'
        { v with yielded := v.yielded ++ out, trouble := some .consumer, interrupted := true }

variable {v : Delivery}

/-- What follows a delivered chunk, seen from before it. -/
theorem Relayed.cons {l₁ : Locals} {v' : Delivery} {chunk : Bytes} {rest : List Bytes}
    {r : Except Raised Unit}
    (h : Relayed l₁ { v with yielded := v.yielded ++ [chunk].map .chunk } ending rest r l' v')
    (hsame : SameContext l l₁) (hfull : l₁.fullResponse = l.fullResponse ++ [chunk].flatten) :
    Relayed l v ending (chunk :: rest) r l' v' := by
  cases h with
  | finished _ hending hsame' hfull' =>
    have hend : Relayed l v ending (chunk :: rest) (.ok ()) l' _ :=
      .finished l' hending (hsame.trans hsame') (by simp [hfull', hfull])
    simpa using hend
  | failed _ e hending hsame' =>
    have hend : Relayed l v ending (chunk :: rest) (.error (.error e)) l' _ :=
      .failed l' e hending (hsame.trans hsame')
    simpa using hend
  | interrupted _ i out hout hsame' =>
    have hend : Relayed l v ending (chunk :: rest) (.error (.interrupt i)) l' _ :=
      .interrupted l' i (.chunk chunk :: out) (by simpa using hout) (hsame.trans hsame')
    simpa using hend

/-- The interruption comes while the next arrival is awaited. -/
theorem Relayed.atOnce {chunks : List Bytes} {arrival : Arrival} (hv : v.trouble = none)
    (i : Interrupt) : Relayed l v ending chunks (.error (.interrupt i)) l
      (v.after ⟨.nextChunk arrival, .interrupted i⟩) := by
  have hend : Relayed l v ending chunks (.error (.interrupt i)) l _ :=
    .interrupted l i [] List.nil_prefix (.refl l)
  simpa [Delivery.after, hv, Arrival.trouble, Wake.trouble, Wake.isInterrupted] using hend

section Streaming

/-- Events that are neither awaits nor yields show nothing in the delivery. -/
theorem reportFirstToken_spec (a : BackendCall) (hw : w.Shows d v) (hquiet : Quiet asserts) :
    Ensures tracked asserts a.reportFirstToken l w fun r l' w' => r = .ok () ∧
      l' = { l with firstToken := true } ∧ w'.Shows d v := by
  apply ensures_locals_bind
  split
  · apply ensures_update_bind
    apply ensures_note (hquiet _ _ rfl)
    intro t w₁ _ h₁
    refine ⟨hquiet _ _ rfl, ?_⟩
    intro answer w₂ hstep
    refine ⟨rfl, rfl, ?_⟩
    change digest w₂.log = _
    rw [digest_step hstep, h₁, hw, Digest.after_delivery d v _ rfl, Digest.after_delivery d _ _ rfl]
    rfl
  · next hfirst =>
      refine ⟨rfl, ?_, hw⟩
      cases l
      simp_all

theorem relayChunk_spec (a : BackendCall) (chunk : Bytes) (hw : w.Shows d v) (hv : v.trouble = none)
    (hquiet : Quiet asserts) (hassert : ∀ w, w.Shows d v → asserts w (.yields (.chunk chunk))) :
    Ensures tracked asserts (a.relayChunk chunk) l w fun r l' w' =>
      ∃ v', w'.Shows d v' ∧ Relayed l v .eof [chunk] r l' v' := by
  apply ensures_update_bind
  apply ensures_seq (reportFirstToken_spec a hw hquiet)
  · rintro _ l₁ w₁ ⟨-, rfl, h₁⟩
    apply ensures_update_bind
    refine (yieldItem_spec (.chunk chunk) h₁ (hassert w₁ h₁)).imp ?_
    rintro r l₂ w₂ ⟨rfl, ⟨rfl, h₂⟩ | ⟨i, rfl, h₂⟩⟩
    · exact ⟨_, h₂, .finished _ rfl ⟨rfl, rfl, rfl⟩ (by simp)⟩
    · rw [hv, Option.none_or] at h₂
      exact ⟨_, h₂, .interrupted _ i [.chunk chunk] (List.prefix_refl _) ⟨rfl, rfl, rfl⟩⟩
  · rintro e l₁ w₁ ⟨h, -⟩
    cases h

theorem streamContent_spec (a : BackendCall) (ending : Ending) (chunks : List Bytes)
    (hw : w.Shows d v) (hv : v.trouble = none) (hquiet : Quiet asserts)
    (hassert : ∀ w out chunk, out ++ [chunk] <+: chunks → digest w.log = { d with delivery :=
        { v with yielded := v.yielded ++ out.map .chunk } } →
      asserts w (.yields (.chunk chunk))) :
    Ensures tracked asserts (a.streamContent ending chunks) l w fun r l' w' =>
      ∃ v', w'.Shows d v' ∧ Relayed l v ending chunks r l' v' := by
  induction chunks generalizing l w v with
  | nil =>
    apply ensures_unbooked hw rfl (hquiet _ _ rfl)
    intro wake w₁ h₁
    cases wake with
    | interrupted i => exact ⟨_, h₁, .atOnce hv i⟩
    | resumed =>
      cases ending with
      | eof =>
        have hend : Relayed l v .eof [] (.ok ()) l _ :=
          .finished l rfl (.refl l) (by simp)
        refine ⟨_, h₁, ?_⟩
        simpa [Delivery.after, Arrival.trouble, Wake.trouble, Wake.isInterrupted] using hend
      | raises e =>
        have hend : Relayed l v (.raises e) [] (.error (.error e)) l _ :=
          .failed l e rfl (.refl l)
        refine ⟨_, h₁, ?_⟩
        simpa [Delivery.after, hv, Arrival.trouble, Wake.trouble, Wake.isInterrupted] using hend
  | cons chunk rest ih =>
    apply ensures_unbooked hw rfl (hquiet _ _ rfl)
    intro wake w₁ h₁
    cases wake with
    | interrupted i => exact ⟨_, h₁, .atOnce hv i⟩
    | resumed =>
      have h₁ : w₁.Shows d v := by
        simpa [Delivery.after, Arrival.trouble, Wake.trouble, Wake.isInterrupted] using h₁
      have hfirst : ∀ w, w.Shows d v → asserts w (.yields (.chunk chunk)) := by
        intro w hdigest
        exact hassert w [] chunk (by simp) (by simpa using hdigest)
      apply ensures_seq (relayChunk_spec a chunk h₁ hv hquiet hfirst)
      · rintro _ l₂ w₂ ⟨v₂, h₂, hrelayed⟩
        cases hrelayed with
        | finished _ _ hsame hfull =>
          refine (ih h₂ hv ?_).imp ?_
          · intro w out next hout hdigest
            refine hassert w (chunk :: out) next ?_ (by simpa using hdigest)
            simpa using hout
          · rintro r l₃ w₃ ⟨v₃, h₃, hrest⟩
            exact ⟨v₃, h₃, hrest.cons hsame hfull⟩
      · rintro e l₂ w₂ ⟨v₂, h₂, hrelayed⟩
        refine ⟨v₂, h₂, ?_⟩
        cases hrelayed with
        | failed _ _ hending _ => cases hending
        | interrupted _ i out hout hsame =>
          exact .interrupted _ i out (hout.trans (by simp)) hsame

end Streaming

/-- How the exchange with the backend can end, from the first locals on. -/
inductive Exchanged : Except Raised Unit → Locals → Delivery → Prop where
  | finished (l : Locals) (r : BackendResponse) (hending : r.ending = .eof)
      (hfull : l.fullResponse = r.chunks.flatten) :
      Exchanged (.ok ()) l ⟨some r, r.items, none, false, false⟩
  | entryFailed (l : Locals) (e : PyExc) (hsent : l.headersSent = false) :
      Exchanged (.error (.error e)) l ⟨none, [], some .backend, false, false⟩
  | entryInterrupted (l : Locals) (i : Interrupt) (expired : Bool)
      (htimer : l.entryTimeout = some ⟨expired, true⟩) :
      Exchanged (.error (.interrupt i)) l
        ⟨none, [], some (if expired then .backend else .consumer), true, false⟩
  | streamFailed (l : Locals) (r : BackendResponse) (e : PyExc) (hending : r.ending = .raises e)
      (hsent : l.headersSent = true)
      (htype : l.backendContentType = header r.headers "content-type" "") :
      Exchanged (.error (.error e)) l ⟨some r, r.items, some .backend, false, false⟩
  | interrupted (l : Locals) (r : BackendResponse) (i : Interrupt) (out : List Item)
      (released : Bool) (hout : out <+: r.items) (htimer : l.entryTimeout = some ⟨false, false⟩) :
      Exchanged (.error (.interrupt i)) l ⟨some r, out, some .consumer, true, released⟩
  | failedThenInterrupted (l : Locals) (r : BackendResponse) (i : Interrupt)
      (htimer : l.entryTimeout = some ⟨false, false⟩) :
      Exchanged (.error (.interrupt i)) l ⟨some r, r.items, some .backend, true, true⟩

/-- An exchange that is interrupted has not left an expired deadline open. -/
theorem Exchanged.timer {i : Interrupt} (h : Exchanged (.error (.interrupt i)) l v) :
    l.entryTimeout ≠ some ⟨true, false⟩ := by
  cases h with
  | entryInterrupted _ _ _ htimer => simp [htimer]
  | interrupted _ _ _ _ _ _ htimer => simp [htimer]
  | failedThenInterrupted _ _ _ htimer => simp [htimer]

section Exchange

/-- The assertions are about yields only, and hold while what was yielded is
part of the outputs. -/
structure Permits (asserts : World → Event → Prop) (d : Digest) (timeout : ClientTimeout) :
    Prop where
  quiet : Quiet asserts
  yields : ∀ w v r item, w.Shows d v → v.response = some r →
    v.yielded ++ [item] <+: r.outputs timeout → asserts w (.yields item)

/-- How the body of the response context can end. -/
inductive Served (l : Locals) (r : BackendResponse) :
    Except Raised Unit → Locals → Delivery → Prop where
  | finished (l' : Locals) (hending : r.ending = .eof)
      (hfull : l'.fullResponse = l.fullResponse ++ r.chunks.flatten)
      (htimer : l'.entryTimeout = l.entryTimeout) :
      Served l r (.ok ()) l' ⟨some r, r.items, none, false, false⟩
  | failed (l' : Locals) (e : PyExc) (hending : r.ending = .raises e)
      (hsent : l'.headersSent = true)
      (htype : l'.backendContentType = header r.headers "content-type" "")
      (htimer : l'.entryTimeout = l.entryTimeout) :
      Served l r (.error (.error e)) l' ⟨some r, r.items, some .backend, false, false⟩
  | interrupted (l' : Locals) (i : Interrupt) (out : List Item) (hout : out <+: r.items)
      (htimer : l'.entryTimeout = l.entryTimeout) :
      Served l r (.error (.interrupt i)) l' ⟨some r, out, some .consumer, true, false⟩

theorem relayResponse_spec (a : BackendCall) (r : BackendResponse)
    (hpermits : Permits asserts d timeout) (hw : w.Shows d ⟨some r, [], none, false, false⟩) :
    Ensures tracked asserts (a.relayResponse r) l w fun result l' w' =>
      ∃ v', w'.Shows d v' ∧ Served l r result l' v' := by
  apply ensures_update_bind
  have hhead : asserts w (.yields (.head r.headers r.status)) := by
    apply hpermits.yields w _ r _ hw rfl
    exact ⟨r.chunks.map .chunk ++ _, rfl⟩
  apply ensures_seq (yieldItem_spec (.head r.headers r.status) hw hhead)
  · rintro _ l₁ w₁ ⟨rfl, ⟨-, h₁⟩ | ⟨i, hi, -⟩⟩
    · apply ensures_update_bind
      refine (streamContent_spec a r.ending r.chunks h₁ rfl hpermits.quiet ?_).imp ?_
      · intro w out chunk hout hdigest
        apply hpermits.yields w _ r _ hdigest rfl
        have hitems : Item.head r.headers r.status :: (out ++ [chunk]).map .chunk <+: r.items :=
          List.cons_prefix_cons.mpr ⟨rfl, hout.map _⟩
        simpa using hitems.trans (items_prefix_outputs timeout r)
      · rintro result l₂ w₂ ⟨v₂, h₂, hrelayed⟩
        refine ⟨v₂, h₂, ?_⟩
        cases hrelayed with
        | finished _ hending hsame hfull =>
          exact .finished l₂ hending hfull hsame.entryTimeout
        | failed _ e hending hsame =>
          exact .failed l₂ e hending hsame.headersSent hsame.backendContentType hsame.entryTimeout
        | interrupted _ i out hout hsame =>
          exact .interrupted l₂ i _ (List.cons_prefix_cons.mpr ⟨rfl, hout⟩) hsame.entryTimeout
    · cases hi
  · rintro e l₁ w₁ ⟨rfl, ⟨he, -⟩ | ⟨i, he, h₁⟩⟩
    · cases he
    · cases he
      exact ⟨_, h₁, .interrupted _ i _ (List.cons_prefix_cons.mpr ⟨rfl, List.nil_prefix⟩) rfl⟩

theorem leaveResponse_spec (hquiet : asserts w .leaveResponse) (hw : w.Shows d v) :
    Ensures tracked asserts BackendCall.leaveResponse l w fun result l' w' => l' = l ∧
      ((result = .ok () ∧ w'.Shows d v) ∨
      ∃ i, result = .error (.interrupt i) ∧
        digest w'.log = { d with delivery := { v with
          trouble := v.trouble.or (some .consumer)
          interrupted := true
          releaseInterrupted := true } }) := by
  apply ensures_unbooked hw rfl hquiet
  intro wake w' h'
  cases wake with
  | resumed =>
    refine ⟨rfl, Or.inl ⟨rfl, ?_⟩⟩
    simpa [Delivery.after, Wake.trouble, Wake.isInterrupted] using h'
  | interrupted i =>
    refine ⟨rfl, Or.inr ⟨i, rfl, ?_⟩⟩
    simpa [Delivery.after, Wake.trouble, Wake.isInterrupted] using h'

/-- The response context as a whole. -/
theorem servedExchange_spec (a : BackendCall) (r : BackendResponse)
    (hpermits : Permits asserts d timeout) (hw : w.Shows d ⟨some r, [], none, false, false⟩)
    (hfresh : l.fullResponse = []) (htimer : l.entryTimeout = some ⟨false, false⟩) :
    Ensures tracked asserts (withExit (a.relayResponse r) fun _ => BackendCall.leaveResponse) l w
      fun result l' w' =>
        ∃ v', w'.Shows d v' ∧ Exchanged result l' v' := by
  apply ensures_withExit.mpr
  refine (relayResponse_spec a r hpermits hw).imp ?_
  rintro result l₁ w₁ ⟨v₁, h₁, hserved⟩
  refine (leaveResponse_spec (hpermits.quiet _ _ rfl) h₁).imp ?_
  rintro left l₂ w₂ ⟨rfl, ⟨rfl, h₂⟩ | ⟨i, rfl, h₂⟩⟩
  · refine ⟨v₁, h₂, ?_⟩
    cases hserved with
    | finished _ hending hfull _ => exact .finished l₂ r hending (by simpa [hfresh] using hfull)
    | failed _ e hending hsent htype _ => exact .streamFailed l₂ r e hending hsent htype
    | interrupted _ i out hout htimer' =>
      exact .interrupted l₂ r i out false hout (htimer'.trans htimer)
  · refine ⟨_, h₂, ?_⟩
    cases hserved with
    | finished _ _ _ htimer' =>
      exact .interrupted l₂ r i _ true (List.prefix_refl _) (htimer'.trans htimer)
    | failed _ e _ _ _ htimer' => exact .failedThenInterrupted l₂ r i (htimer'.trans htimer)
    | interrupted _ _ out hout htimer' =>
      exact .interrupted l₂ r i out true hout (htimer'.trans htimer)

theorem leaveTimeout_error {e : PyExc} (h : post (.error (.error e)) l w) :
    Ensures tracked asserts (BackendCall.leaveTimeout (.error e)) l w post := by
  apply ensures_locals_bind
  split
  · next heq => cases heq
  · exact h

theorem leaveTimeout_interrupt (htimer : l.entryTimeout ≠ some ⟨true, false⟩)
    (h : post (.error (.interrupt i)) l w) :
    Ensures tracked asserts (BackendCall.leaveTimeout (.interrupt i)) l w post := by
  apply ensures_locals_bind
  split
  · next heq _ => exact absurd heq htimer
  · exact h

theorem timedExchange_spec (a : BackendCall)
    (hpermits : Permits asserts { d with sent := d.sent ++ [a.backendRequest] } timeout)
    (hw : w.Shows d .start) :
    Ensures tracked asserts a.timedExchange Locals.start w fun result l' w' =>
      ∃ v', digest w'.log = { d with sent := d.sent ++ [a.backendRequest], delivery := v' } ∧
        Exchanged result l' v' := by
  apply ensures_update_bind
  apply ensures_tryExcept.mpr
  apply ensures_note (hpermits.quiet _ _ rfl)
  intro entry w₁ _ h₁
  rw [hw] at h₁
  have h₁ : digest w₁.log = { d with
      sent := d.sent ++ [a.backendRequest]
      delivery := ⟨entry.response?, [], entry.trouble, entry.isInterrupted, false⟩ } := by
    simpa [Digest.after, Delivery.after, Delivery.start, issuedBy, openAfter] using h₁
  cases entry with
  | response r =>
    refine (servedExchange_spec a r hpermits h₁ rfl rfl).imp ?_
    rintro result l₂ w₂ ⟨v₂, h₂, hexchanged⟩
    cases result with
    | ok _ => exact ⟨v₂, h₂, hexchanged⟩
    | error raised =>
      cases raised with
      | error e => exact leaveTimeout_error ⟨v₂, h₂, hexchanged⟩
      | interrupt i => exact leaveTimeout_interrupt hexchanged.timer ⟨v₂, h₂, hexchanged⟩
  | raised e => exact ⟨_, h₁, .entryFailed _ e rfl⟩
  | deadline => exact ⟨_, h₁, .entryFailed _ _ rfl⟩
  | interrupted i expired =>
    cases expired <;> exact ⟨_, h₁, .entryInterrupted _ i _ rfl⟩

end Exchange

/-- What the accounting lets out, if it is done at all. -/
def BackendCall.accountingOutcome (a : BackendCall) (body : Bytes) : Option PyExc :=
  if !a.isStreaming.truthy && !body.isEmpty then accountingError a.app.recursionLimit body
  else none

variable {a : BackendCall}

theorem accountingOutcome_not_timeout {body : Bytes} {e : PyExc}
    (h : a.accountingOutcome body = some e) : e.isInstance [.timeoutError] = false := by
  unfold BackendCall.accountingOutcome at h
  split at h
  · exact accountingError_not_timeout h
  · cases h

section Handlers

variable (a)

theorem silent_endSpan (error : Option Raised) : Silent (a.endSpan error) := by
  unfold BackendCall.endSpan
  split
  · exact silent_note rfl
  · exact silent_pure ()

theorem silent_storeResponse (l : Locals) : Silent (a.storeResponse l) := by
  unfold BackendCall.storeResponse
  split
  · exact silent_note rfl
  · exact silent_pure ()

theorem silent_addPostRequest (l : Locals) : Silent (a.addPostRequest l) := by
  unfold BackendCall.addPostRequest
  split
  · exact silent_note rfl
  · exact silent_pure ()

theorem accountTokens_spec (l₀ : Locals) (hquiet : Quiet asserts) :
    Ensures tracked asserts (a.accountTokens l₀) l w fun r l' w' =>
      l' = l ∧ digest w'.log = digest w.log ∧ r = match a.accountingOutcome l₀.fullResponse with
          | none => .ok ()
          | some e => .error (.error e) := by
  unfold BackendCall.accountTokens BackendCall.accountingOutcome
  split
  · exact trackTokens_spec a l₀.fullResponse hquiet
  · exact ⟨rfl, rfl, rfl⟩

theorem afterResponse_spec (hquiet : Quiet asserts) :
    Ensures tracked asserts a.afterResponse l w fun r l' w' =>
      l'.terminalOutcome = .complete ∧ digest w'.log = digest w.log ∧
        r = match a.accountingOutcome l.fullResponse with
          | none => .ok ()
          | some e => .error (.error e) := by
  apply ensures_update_bind
  apply ensures_locals_bind
  apply ensures_seq (accountTokens_spec a _ hquiet)
  · rintro _ l₁ w₁ ⟨rfl, h₁, hok⟩
    apply (silent_storeResponse a _).then hquiet
    intro _ w₂ h₂
    refine (silent_addPostRequest a _ asserts _ w₂ hquiet).imp ?_
    rintro r l₃ w₃ ⟨⟨_, rfl⟩, rfl, h₃⟩
    exact ⟨rfl, h₃.trans (h₂.trans h₁), hok⟩
  · rintro e l₁ w₁ ⟨rfl, h₁, herror⟩
    exact ⟨rfl, h₁, herror⟩

/-- How a whole attempt can end: what it raises, how the handle is retired, and
what was delivered. -/
inductive Settled (a : BackendCall) : Except Raised Unit → TerminalOutcome → Delivery → Prop where
  | completed (r : BackendResponse) (hending : r.ending = .eof)
      (hbody : a.accountingOutcome r.chunks.flatten = none) :
      Settled a (.ok ()) .complete ⟨some r, r.items, none, false, false⟩
  | unaccounted (r : BackendResponse) (e : PyExc) (hending : r.ending = .eof)
      (hbody : a.accountingOutcome r.chunks.flatten = some e) :
      Settled a (.error (.error e)) .fail ⟨some r, r.items, none, false, false⟩
  | entryFailed (e : PyExc) :
      Settled a (.error (.error e)) .fail ⟨none, [], some .backend, false, false⟩
  | entryExpired (i : Interrupt) :
      Settled a (.error (.interrupt i)) .fail ⟨none, [], some .backend, true, false⟩
  | entryInterrupted (i : Interrupt) :
      Settled a (.error (.interrupt i)) .abort ⟨none, [], some .consumer, true, false⟩
  | streamFailed (r : BackendResponse) (e : PyExc) (hending : r.ending = .raises e)
      (hstalls : r.stalls = false) :
      Settled a (.error (.error e)) .fail ⟨some r, r.items, some .backend, false, false⟩
  | stalled (r : BackendResponse) (hstalls : r.stalls = true) :
      Settled a (.ok ()) .fail
        ⟨some r, r.outputs a.clientTimeout, some .backend, false, false⟩
  | stalledInterrupted (r : BackendResponse) (i : Interrupt) (out : List Item)
      (hstalls : r.stalls = true) (hout : out <+: r.outputs a.clientTimeout) :
      Settled a (.error (.interrupt i)) .fail ⟨some r, out, some .backend, true, false⟩
  | interrupted (r : BackendResponse) (i : Interrupt) (out : List Item) (released : Bool)
      (hout : out <+: r.items) :
      Settled a (.error (.interrupt i)) .abort ⟨some r, out, some .consumer, true, released⟩
  | failedThenInterrupted (r : BackendResponse) (i : Interrupt) :
      Settled a (.error (.interrupt i)) .abort ⟨some r, r.items, some .backend, true, true⟩

/-- The handler of an interruption: an expired deadline is a failure of the
backend, everything else an abort. -/
theorem onInterrupt_spec (i : Interrupt) (hquiet : Quiet asserts) :
    Ensures tracked asserts (a.onRaised (.interrupt i)) l w fun r l' w' =>
      r = .error (.interrupt i) ∧ digest w'.log = digest w.log ∧
        l'.terminalOutcome = if l.entryTimeout.any (·.expired) then .fail else .abort := by
  apply ensures_locals_bind
  split
  · next hexpired =>
      apply ensures_update_bind
      apply (silent_note rfl).then hquiet
      intro _ w₁ h₁
      apply (silent_endSpan a _).then hquiet
      intro _ w₂ h₂
      exact ⟨rfl, h₂.trans h₁, rfl⟩
  · exact ⟨rfl, rfl, rfl⟩

/-- The handler of an error: retire as failed, and hand on the stall frames if
an event stream timed out. -/
theorem onError_spec (e : PyExc) (hquiet : Quiet asserts)
    (hraise : ∀ l' w', (l.headersSent && e.isInstance [.timeoutError] &&
        BackendCall.isEventStream l.backendContentType) = false →
      digest w'.log = digest w.log → l'.terminalOutcome = .fail → post (.error (.error e)) l' w')
    (hframes : ∀ l' w', (l.headersSent && e.isInstance [.timeoutError] &&
        BackendCall.isEventStream l.backendContentType) = true →
      digest w'.log = digest w.log → l'.terminalOutcome = .fail → Ensures tracked asserts (do
        yieldItem (.chunk (sseStallFrames a.clientTimeout).1)
        yieldItem (.chunk (sseStallFrames a.clientTimeout).2)) l' w' post) :
    Ensures tracked asserts (a.onRaised (.error e)) l w post := by
  apply (silent_note rfl).then hquiet
  intro _ w₁ h₁
  apply (silent_endSpan a _).then hquiet
  intro _ w₂ h₂
  apply ensures_locals_bind
  split
  · next hstalls =>
      apply (silent_note rfl).then hquiet
      intro _ w₃ h₃
      exact hframes _ w₃ hstalls (h₃.trans (h₂.trans h₁)) rfl
  · next hstalls =>
      exact hraise _ w₂ (by simpa using hstalls) (h₂.trans h₁) rfl

/-- An attempt that is interrupted with its deadline in this state. -/
theorem onInterrupt_settles {timer : EntryTimeout}
    (hquiet : Quiet asserts) (hw : w.Shows d v) (htimer : l.entryTimeout = some timer)
    (hsettled : Settled a (.error (.interrupt i)) (if timer.expired then .fail else .abort) v) :
    Ensures tracked asserts (a.onRaised (.interrupt i)) l w fun result l' w' =>
      ∃ v', w'.Shows d v' ∧ Settled a result l'.terminalOutcome v' := by
  refine (onInterrupt_spec a i hquiet).imp ?_
  rintro result l₂ w₂ ⟨rfl, h₂, houtcome⟩
  refine ⟨_, h₂.trans hw, ?_⟩
  rw [houtcome, htimer]
  exact hsettled

/-- The two stall frames. -/
theorem stallFrames_spec (r : BackendResponse) (hstalls : r.stalls = true)
    (hpermits : Permits asserts d a.clientTimeout) (hfail : l.terminalOutcome = .fail)
    (hw : w.Shows d ⟨some r, r.items, some .backend, false, false⟩) : Ensures tracked asserts (do
        yieldItem (.chunk (sseStallFrames a.clientTimeout).1)
        yieldItem (.chunk (sseStallFrames a.clientTimeout).2)) l w fun result l' w' =>
      ∃ v', w'.Shows d v' ∧ l'.terminalOutcome = .fail ∧ Settled a result .fail v' := by
  have houtputs : r.outputs a.clientTimeout = r.items ++
      [.chunk (sseStallFrames a.clientTimeout).1, .chunk (sseStallFrames a.clientTimeout).2] := by
    rw [BackendResponse.outputs, if_pos hstalls]
  have hone : r.items ++ [.chunk (sseStallFrames a.clientTimeout).1] <+:
      r.outputs a.clientTimeout := by
    rw [houtputs]
    exact ⟨[.chunk (sseStallFrames a.clientTimeout).2], by simp⟩
  apply ensures_seq (yieldItem_spec _ hw (hpermits.yields w _ r _ hw rfl hone))
  · rintro _ l₁ w₁ ⟨rfl, ⟨-, h₁⟩ | ⟨i, hi, -⟩⟩
    · have htwo : (r.items ++ [.chunk (sseStallFrames a.clientTimeout).1]) ++
          [.chunk (sseStallFrames a.clientTimeout).2] = r.outputs a.clientTimeout := by
        rw [houtputs]
        simp
      have hall : (r.items ++ [.chunk (sseStallFrames a.clientTimeout).1]) ++
          [.chunk (sseStallFrames a.clientTimeout).2] <+: r.outputs a.clientTimeout :=
        ⟨[], by rw [List.append_nil, htwo]⟩
      have hassert := hpermits.yields w₁ _ r _ h₁ rfl hall
      refine (yieldItem_spec _ h₁ hassert).imp ?_
      rintro result l₂ w₂ ⟨rfl, ⟨rfl, h₂⟩ | ⟨i, rfl, h₂⟩⟩
      · refine ⟨_, h₂, hfail, ?_⟩
        rw [htwo]
        exact .stalled r hstalls
      · exact ⟨_, h₂, hfail, .stalledInterrupted r i _ hstalls hall⟩
    · cases hi
  · rintro e l₁ w₁ ⟨rfl, ⟨he, -⟩ | ⟨i, he, h₁⟩⟩
    · cases he
    · cases he
      exact ⟨_, h₁, hfail, .stalledInterrupted r i _ hstalls hone⟩

/-- The `try` block with its handlers, from the first locals on. -/
theorem tried_spec
    (hpermits : Permits asserts { d with sent := d.sent ++ [a.backendRequest] } a.clientTimeout)
    (hw : w.Shows d .start) :
    Ensures tracked asserts (tryExcept (do
        a.timedExchange
        a.afterResponse) a.onRaised) Locals.start w fun result l' w' =>
      ∃ v', w'.Shows { d with sent := d.sent ++ [a.backendRequest] } v' ∧
        Settled a result l'.terminalOutcome v' := by
  apply ensures_tryExcept.mpr
  apply ensures_seq (timedExchange_spec a hpermits hw)
  · rintro _ l₁ w₁ ⟨v₁, h₁, hexchanged⟩
    cases hexchanged with
    | finished _ r hending hfull =>
      refine (afterResponse_spec a hpermits.quiet).imp ?_
      rintro result l₂ w₂ ⟨hcomplete, h₂, hresult⟩
      rw [hfull] at hresult
      cases hbody : a.accountingOutcome r.chunks.flatten with
      | none =>
        rw [hbody] at hresult
        subst hresult
        exact ⟨_, h₂.trans h₁, hcomplete ▸ .completed r hending hbody⟩
      | some e =>
        rw [hbody] at hresult
        subst hresult
        apply onError_spec a e hpermits.quiet
        · intro l₃ w₃ _ h₃ hfail
          exact ⟨_, h₃.trans (h₂.trans h₁), hfail ▸ .unaccounted r e hending hbody⟩
        · intro l₃ w₃ hstalls
          simp [accountingOutcome_not_timeout hbody] at hstalls
  · rintro raised l₁ w₁ ⟨v₁, h₁, hexchanged⟩
    cases hexchanged with
    | entryFailed _ e hsent =>
      apply onError_spec a e hpermits.quiet
      · intro l₂ w₂ _ h₂ hfail
        exact ⟨_, h₂.trans h₁, hfail ▸ .entryFailed e⟩
      · intro l₂ w₂ hstalls
        simp [hsent] at hstalls
    | entryInterrupted _ i expired htimer =>
      refine onInterrupt_settles a hpermits.quiet h₁ htimer ?_
      cases expired with
      | false => exact .entryInterrupted i
      | true => exact .entryExpired i
    | streamFailed _ r e hending hsent htype =>
      have hstalls_eq : r.stalls = (l₁.headersSent && e.isInstance [.timeoutError] &&
          BackendCall.isEventStream l₁.backendContentType) := by
        simp [BackendResponse.stalls, hending, hsent, htype]
      apply onError_spec a e hpermits.quiet
      · intro l₂ w₂ hstalls h₂ hfail
        exact ⟨_, h₂.trans h₁, hfail ▸ .streamFailed r e hending (hstalls_eq.trans hstalls)⟩
      · intro l₂ w₂ hstalls h₂ hfail
        refine (stallFrames_spec a r (hstalls_eq.trans hstalls) hpermits hfail
          (h₂.trans h₁)).imp ?_
        rintro result l₃ w₃ ⟨v₃, h₃, hfail', hsettled⟩
        exact ⟨v₃, h₃, hfail' ▸ hsettled⟩
    | interrupted _ r i out released hout htimer =>
      exact onInterrupt_settles a hpermits.quiet h₁ htimer (.interrupted r i out released hout)
    | failedThenInterrupted _ r i htimer =>
      exact onInterrupt_settles a hpermits.quiet h₁ htimer (.failedThenInterrupted r i)

/-- The `finally` clause retires the handle once and raises nothing. -/
theorem retire_spec (hquiet : Quiet asserts) :
    Ensures tracked asserts a.retire l w fun r _ w' => r = .ok () ∧
      digest w'.log = { digest w.log with
        retired := (digest w.log).retired ++ [(l.terminalOutcome, a.handle)]
        live := (digest w.log).live.filter (· ≠ a.handle) } := by
  apply ensures_locals_bind
  apply (silent_note rfl).then hquiet
  intro t w₁ h₁
  apply ensures_note (hquiet _ _ rfl)
  intro hook w₂ hstep h₂
  have hok : hook = .ok () := by
    have hcalled : l.terminalOutcome.hook w₁.monitor a.handle t = (hook, w₂.monitor) :=
      hstep.2.1.2.2
    rw [← hook_ok hstep.1.coherent l.terminalOutcome a.handle t, hcalled]
  subst hok
  apply (silent_note rfl).then hquiet
  intro _ w₃ h₃
  apply (silent_note rfl).then hquiet
  intro _ w₄ h₄
  refine (silent_endSpan a none asserts _ w₄ hquiet).imp ?_
  rintro r l₅ w₅ ⟨⟨_, rfl⟩, -, h₅⟩
  refine ⟨rfl, ?_⟩
  rw [h₅, h₄, h₃, h₂, h₁]
  simp [Digest.after, Delivery.after, issuedBy, openAfter]

theorem run_spec
    (hpermits : Permits asserts { d with sent := d.sent ++ [a.backendRequest] } a.clientTimeout)
    (hw : w.Shows d .start) :
    Ensures tracked asserts a.run Locals.start w fun result _ w' =>
      ∃ outcome v', digest w'.log = { d with
          sent := d.sent ++ [a.backendRequest]
          retired := d.retired ++ [(outcome, a.handle)]
          live := d.live.filter (· ≠ a.handle)
          delivery := v' } ∧ Settled a result outcome v' := by
  unfold BackendCall.run Py.tryFinally
  apply ensures_withExit.mpr
  refine (tried_spec a hpermits hw).imp ?_
  rintro result l₁ w₁ ⟨v₁, h₁, hsettled⟩
  refine (retire_spec a hpermits.quiet).imp ?_
  rintro r l₂ w₂ ⟨rfl, h₂⟩
  rw [h₁] at h₂
  exact ⟨l₁.terminalOutcome, v₁, h₂, hsettled⟩

end Handlers

section Generator

variable {app : App} {request : HttpRequest} {body : Body} {backendUrl requestId endpoint : String}
  (parentSpan : Option Nat)

/-- What parsing the body gives: an error, or the two fields. -/
def Parsed (app : App) (body : Body) : Except Raised (Json × Json) → Prop
  | .error raised => ∃ e, raised = .error e
  | .ok (isStreaming, modelName) => ∃ json, body.loads app.recursionLimit = .ok json ∧
      json.get "stream" (.bool false) = .ok isStreaming ∧
      json.get "model" (.str "unknown") = .ok modelName

/-- `a` is a call of `process_request` with these arguments. -/
structure IsCall (app : App) (request : HttpRequest) (body : Body)
    (backendUrl requestId endpoint : String) (a : BackendCall) : Prop where
  parsed : Parsed app body (.ok (a.isStreaming, a.modelName))
  appEq : a.app = app
  requestEq : a.request = request
  bodyEq : a.body = body
  urlEq : a.backendUrl = backendUrl
  idEq : a.requestId = requestId
  endpointEq : a.endpoint = endpoint

theorem IsCall.clientTimeout_eq (h : IsCall app request body backendUrl requestId endpoint a) :
    a.clientTimeout = resolveBackendClientTimeout app := by
  rw [BackendCall.clientTimeout, h.appEq]

/-- The digest while the attempt of `a` is under way. -/
def Digest.underway (d : Digest) (a : BackendCall) : Digest :=
  { d with
    issued := d.issued ++ [a.handle]
    live := d.live ++ [a.handle]
    sent := d.sent ++ [a.backendRequest] }

theorem parseBody_spec : Ensures tracked asserts (parseBody app body) l w fun r l' w' =>
      l' = l ∧ w' = w ∧ Parsed app body r := by
  have hraise (e : PyExc) : Ensures tracked asserts (onParseError (.error e)) l w
      fun r l' w' => l' = l ∧ w' = w ∧ Parsed app body r := by
    unfold onParseError
    dsimp only
    split <;> exact ⟨rfl, rfl, _, rfl⟩
  apply ensures_tryExcept.mpr
  cases hloads : body.loads app.recursionLimit with
  | error e =>
    exact hraise e
  | ok json =>
    apply ensures_eval_ok rfl
    cases hstream : json.get "stream" (.bool false) with
    | error e =>
      exact hraise e
    | ok isStreaming =>
      apply ensures_eval_ok rfl
      cases hmodel : json.get "model" (.str "unknown") with
      | error e =>
        exact hraise e
      | ok modelName =>
        exact ⟨rfl, rfl, json, hloads, hstream, hmodel⟩

theorem silent_openSpan (tracingActive : Bool) : Silent (openSpan tracingActive) := by
  unfold openSpan
  split
  · intro asserts l w hquiet
    apply (silent_note rfl).then hquiet
    intro span w' h
    exact ⟨⟨some span, rfl⟩, rfl, h⟩
  · exact silent_pure none

theorem silent_tracedHeaders (headers : Headers) (span : Option Nat) :
    Silent (tracedHeaders headers span) := by
  unfold tracedHeaders
  split
  · exact silent_note rfl
  · exact silent_pure headers

/-- A handle that was just issued is not among those still open. -/
theorem fresh_handle {w' : World} {url rid : String} {t : ℚ} {handle : RequestHandle}
    (h : tracked w (.onNewRequest url rid t) handle w') : handle ∉ (digest w.log).live := by
  obtain ⟨htracked, ⟨-, -, hmoves⟩, -⟩ := h
  have hhandle : handle = ⟨w.monitor.nextHandle⟩ := (congrArg Prod.fst hmoves).symm
  rw [digest_live]
  intro member
  have hbelow := htracked.below handle (openHandles_subset w.log handle member)
  rw [hhandle] at hbelow
  exact Nat.lt_irrefl _ hbelow

/-- How `process_request` can finish: before it has a handle, or with one
settled attempt. -/
def Finished (app : App) (request : HttpRequest) (body : Body)
    (backendUrl requestId endpoint : String) (d : Digest) (w : World)
    (result : Except Raised Unit) : Prop :=
  (digest w.log = d ∧ ∃ e, result = .error (.error e)) ∨
  ∃ a outcome v, IsCall app request body backendUrl requestId endpoint a ∧
    digest w.log = { d.underway a with
      live := d.live
      retired := d.retired ++ [(outcome, a.handle)]
      delivery := v } ∧ Settled a result outcome v

variable
  (hpermits : ∀ a, IsCall app request body backendUrl requestId endpoint a →
    Permits asserts ((digest w.log).underway a) a.clientTimeout)
  (hquiet : Quiet asserts)

include hpermits hquiet

theorem processRequestBody_spec :
    Ensures tracked asserts
      (processRequestBody app request body backendUrl requestId endpoint parentSpan)
      Locals.start w fun result _ w' =>
        Finished app request body backendUrl requestId endpoint (digest w.log) w' result := by
  apply (silent_openSpan _).then hquiet
  intro span w₁ h₁
  apply ensures_seq parseBody_spec
  · rintro ⟨isStreaming, modelName⟩ l₂ w₂ ⟨rfl, rfl, hparsed⟩
    apply (silent_note rfl).then hquiet
    intro startTime w₃ h₃
    apply ensures_note (hquiet _ _ rfl)
    intro handle w₄ hstep h₄
    have hfresh := fresh_handle hstep
    apply (silent_tracedHeaders _ span).then hquiet
    intro headers w₅ h₅
    let a : BackendCall := {
      app, request, body, backendUrl, requestId, endpoint, span, isStreaming, modelName,
      startTime, handle, headers }
    have hcall : IsCall app request body backendUrl requestId endpoint a :=
      ⟨hparsed, rfl, rfl, rfl, rfl, rfl, rfl⟩
    have hstart : digest w₅.log = { digest w.log with
        issued := (digest w.log).issued ++ [handle]
        live := (digest w.log).live ++ [handle]
        delivery := .start } := by
      rw [h₅, h₄, h₃, h₁]
      simp [Digest.after, Delivery.after, issuedBy, openAfter]
    rw [h₃, h₁] at hfresh
    have hlive : ((digest w.log).live ++ [handle]).filter (· ≠ handle) = (digest w.log).live := by
      rw [List.filter_append, List.filter_eq_self.mpr]
      · simp
      · intro other member
        have hne : other ≠ handle := by
          rintro rfl
          exact hfresh member
        simpa using hne
    let d : Digest := { digest w.log with
      issued := (digest w.log).issued ++ [handle]
      live := (digest w.log).live ++ [handle] }
    have hrun := run_spec (d := d) a (hpermits a hcall) hstart
    refine hrun.imp ?_
    rintro result l₆ w₆ ⟨outcome, v, h₆, hsettled⟩
    refine Or.inr ⟨a, outcome, v, hcall, ?_, hsettled⟩
    rw [h₆]
    simp only [Digest.underway, Digest.mk.injEq, and_true]
    exact ⟨rfl, hlive, rfl, rfl, rfl⟩
  · rintro raised l₂ w₂ ⟨rfl, rfl, e, rfl⟩
    exact Or.inl ⟨h₁, e, rfl⟩

theorem processRequest_spec : Prog.Always tracked asserts
      (Finished app request body backendUrl requestId endpoint (digest w.log))
      (processRequest app request body backendUrl requestId endpoint parentSpan) w := by
  unfold processRequest
  rw [Prog.always_bind]
  exact processRequestBody_spec parentSpan hpermits hquiet

end Generator

/-- The fields that say what a consumer got agree with the response. -/
structure Delivery.Delivers (timeout : ClientTimeout) (v : Delivery) : Prop where
  nothing : v.response = none → v.yielded = []
  part : ∀ r, v.response = some r → v.yielded <+: r.outputs timeout
  whole : ∀ r, v.response = some r → v.interrupted = false → v.yielded = r.outputs timeout

variable {r : BackendResponse}

theorem outputs_of_not_stalls (timeout : ClientTimeout) (h : r.stalls = false) :
    r.outputs timeout = r.items := by
  simp [BackendResponse.outputs, h]

theorem not_stalls_of_eof (h : r.ending = .eof) : r.stalls = false := by
  simp [BackendResponse.stalls, h]

/-- A delivery whose response was handed on without interruption. -/
theorem delivers_whole (h : out = r.outputs timeout) :
    Delivery.Delivers timeout ⟨some r, out, trouble, false, false⟩ where
  nothing := nofun
  part r' hr := by
    obtain rfl := Option.some.inj hr
    exact h ▸ List.prefix_refl _
  whole r' hr _ := by
    obtain rfl := Option.some.inj hr
    exact h

theorem delivers_part {released : Bool} (h : out <+: r.outputs timeout) :
    Delivery.Delivers timeout ⟨some r, out, trouble, true, released⟩ where
  nothing := nofun
  part r' hr := by
    obtain rfl := Option.some.inj hr
    exact h
  whole r' _ hfalse := by cases hfalse

theorem Settled.delivers (h : Settled a result outcome v) : v.Delivers a.clientTimeout := by
  cases h with
  | completed r hending _ | unaccounted r e hending _ =>
    exact delivers_whole (outputs_of_not_stalls _ (not_stalls_of_eof hending)).symm
  | entryFailed e | entryExpired i | entryInterrupted i => exact ⟨fun _ => rfl, nofun, nofun⟩
  | streamFailed r e _ hstalls => exact delivers_whole (outputs_of_not_stalls _ hstalls).symm
  | stalled r _ => exact delivers_whole rfl
  | stalledInterrupted r i out _ hout => exact delivers_part hout
  | interrupted r i out released hout =>
    exact delivers_part (hout.trans (items_prefix_outputs _ r))
  | failedThenInterrupted r i => exact delivers_part (items_prefix_outputs _ r)

/-- The handle is retired by what came first; only an interruption while the
failed response is being left turns a failure into an abort. -/
theorem Settled.outcome_eq (h : Settled a result outcome v) : (v.trouble = some .backend →
      outcome = if v.releaseInterrupted then .abort else .fail) ∧
    (v.trouble = some .consumer → outcome = .abort) := by
  cases h <;> simp

/-- What is asserted at a yield: the item is the next of the outputs. -/
def YieldsOutputs (timeout : ClientTimeout) (w : World) (e : Event) : Prop :=
  ∀ item, e = .yields item → ∃ r, (digest w.log).delivery.response = some r ∧
    (digest w.log).delivery.yielded ++ [item] <+: r.outputs timeout

theorem permits_yieldsOutputs (d : Digest) (timeout : ClientTimeout) :
    Permits (YieldsOutputs timeout) d timeout where
  quiet w e he := by
    rintro item rfl
    cases he
  yields w v r item hw hr hout := by
    rintro _ ⟨⟩
    rw [hw]
    exact ⟨r, hr, hout⟩

theorem processRequest_always (app : App) (request : HttpRequest) (body : Body)
    (backendUrl requestId endpoint : String) (parentSpan : Option Nat) (w : World) :
    Prog.Always tracked (YieldsOutputs (resolveBackendClientTimeout app))
      (Finished app request body backendUrl requestId endpoint (digest w.log))
      (processRequest app request body backendUrl requestId endpoint parentSpan) w := by
  apply processRequest_spec parentSpan
  · intro a ha
    rw [ha.clientTimeout_eq]
    exact permits_yieldsOutputs _ _
  · exact (permits_yieldsOutputs (digest w.log) _).quiet

/-- Whatever the backend does and wherever the consumer closes or cancels the
generator: once it has a handle, it retires that handle exactly once before it
finishes, as failed if the backend failed or timed out first and as aborted if
the consumer came first. The one exception is a failure whose response cannot be
left before the consumer interrupts: it is retired as aborted. The consumer
gets a prefix of the outputs of the response, and all of them unless it
interrupted. -/
theorem process_request_retires_once (app : App) (request : HttpRequest) (body : Body)
    (backendUrl requestId endpoint : String) (parentSpan : Option Nat) (window : ℚ)
    (earlier : List Op) (p : Prog service (Except Raised Unit)) (w : World)
    (hrun : Prog.Reaches allows
      (processRequest app request body backendUrl requestId endpoint parentSpan)
      (.start window earlier) p w) :
    (∀ item next, p = .perform (.yields item) next →
      ∃ r, (digest w.log).delivery.response = some r ∧
        (digest w.log).delivery.yielded ++ [item] <+:
          r.outputs (resolveBackendClientTimeout app)) ∧
    (∀ result, p = .ret result →
      ((digest w.log).issued = [] ∧ (digest w.log).retired = [] ∧
        (digest w.log).delivery.yielded = []) ∨
      ∃ handle outcome, (digest w.log).issued = [handle] ∧
        (digest w.log).retired = [(outcome, handle)] ∧
        ((digest w.log).delivery.trouble = some .backend →
          outcome = if (digest w.log).delivery.releaseInterrupted then .abort else .fail) ∧
        ((digest w.log).delivery.trouble = some .consumer → outcome = .abort) ∧
        (digest w.log).delivery.Delivers (resolveBackendClientTimeout app)) := by
  have hrun := reaches_tracked hrun
  have halways := processRequest_always app request body backendUrl requestId endpoint
    parentSpan (.start window earlier)
  constructor
  · rintro item next rfl
    exact halways.performed hrun item rfl
  · rintro result rfl
    rcases halways.returned hrun with ⟨hdigest, -⟩ | ⟨a, outcome, v, ha, hdigest, hsettled⟩
    · rw [hdigest]
      exact Or.inl ⟨rfl, rfl, rfl⟩
    · have hdelivers := hsettled.delivers
      rw [ha.clientTimeout_eq] at hdelivers
      rw [hdigest]
      exact Or.inr ⟨a.handle, outcome, rfl, rfl, hsettled.outcome_eq.1, hsettled.outcome_eq.2,
        hdelivers⟩

def plainApp : App where
  otelEnabled := false
  backendClientTimeout := none
  semanticCacheAvailable := false
  callbacks := false
  recursionLimit := 1000

/-- A stream that delivers one chunk and then times out. -/
def stalledResponse (contentType : String) : BackendResponse where
  status := 200
  headers := [("Content-Type", contentType)]
  chunks := [[1]]
  ending := .raises (.new .socketTimeoutError "")

/-- The backend answers with `r`, and leaving the response ends with `wake`. -/
def servedBy (r : BackendResponse) (wake : Wake) : (e : Event) → e.Answer
  | .sendRequest _ => Entry.response r
  | .leaveResponse => wake
  | e => calm e

theorem servedBy_answerable (r : BackendResponse) (wake : Wake) (e : Event) :
    answerable e (servedBy r wake e) := by
  cases e with
  | sendRequest _ => exact trivial
  | leaveResponse => exact trivial
  | _ => exact calm_answerable _

def modelBody : Body := .dumped (.obj [("model", .str "m")])

theorem served_reaches (r : BackendResponse) (wake : Wake) :
    let run := (processRequest plainApp ⟨"POST", []⟩ modelBody "http://a" "r" "/v1" none).interpret
      (scripted (servedBy r wake)) (.start 60 [])
    Prog.Reaches allows (processRequest plainApp ⟨"POST", []⟩ modelBody "http://a" "r" "/v1" none)
      (.start 60 []) (.ret run.1) run.2 :=
  scripted_reaches _ (servedBy_answerable r wake) _ _

theorem process_request_retires_once_stalled : ∃ w,
    Prog.Reaches allows (processRequest plainApp ⟨"POST", []⟩ modelBody "http://a" "r" "/v1" none)
      (.start 60 []) (.ret (.ok ())) w ∧
    (digest w.log).retired = [(.fail, ⟨0⟩)] ∧
    (digest w.log).delivery.yielded =
      (stalledResponse "text/event-stream").outputs defaultBackendClientTimeout := by
  have hrun := served_reaches (stalledResponse "text/event-stream") .resumed
  refine ⟨_, hrun, rfl, ?_⟩
  rcases (process_request_retires_once _ _ _ _ _ _ _ _ _ _ _ hrun).2 _ rfl with
    ⟨hnone, -⟩ | ⟨handle, outcome, -, -, -, -, hdelivers⟩
  · cases hnone
  · exact hdelivers.whole _ rfl rfl

/-- The stream times out, and the task is cancelled while the failed response is
being left: the cancellation replaces the timeout. -/
theorem process_request_failure_retired_as_abort : ∃ w,
    Prog.Reaches allows (processRequest plainApp ⟨"POST", []⟩ modelBody "http://a" "r" "/v1" none)
      (.start 60 []) (.ret (.error (.interrupt .cancelledError))) w ∧
    (digest w.log).delivery.trouble = some .backend ∧
    (digest w.log).retired = [(.abort, ⟨0⟩)] := by
  have hrun := served_reaches (stalledResponse "application/json") (.interrupted .cancelledError)
  exact ⟨_, hrun, rfl, rfl⟩

/-- A run that got a response ends with a settled attempt. -/
theorem settled_of_run {app : App} {request : HttpRequest} {body : Body}
    {backendUrl requestId endpoint : String} {parentSpan : Option Nat} {window : ℚ}
    {earlier : List Op} {w : World}
    (hrun : Prog.Reaches allows (processRequest app request body backendUrl requestId endpoint parentSpan) (.start window earlier) (.ret result) w)
    (hresponse : (digest w.log).delivery.response = some r) :
    ∃ a outcome v, IsCall app request body backendUrl requestId endpoint a ∧
      digest w.log = { (digest (World.start window earlier).log).underway a with
        live := (digest (World.start window earlier).log).live
        retired := (digest (World.start window earlier).log).retired ++ [(outcome, a.handle)]
        delivery := v } ∧ Settled a result outcome v := by
  have halways := processRequest_always app request body backendUrl requestId endpoint
    parentSpan (.start window earlier)
  rcases halways.returned (reaches_tracked hrun) with ⟨hdigest, -⟩ | hfinished
  · rw [hdigest] at hresponse
    cases hresponse
  · exact hfinished

end ProductionStack.Request
