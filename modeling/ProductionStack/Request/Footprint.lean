import ProductionStack.Request.Disaggregated
import ProductionStack.Request.Multipart

/-!
What the generators behind the proxied requests perform at all, whatever they
are answered: the one of the general path sends the one request it was made
for, the others send nothing, and none of them reads service discovery.
-/

namespace ProductionStack.Request

open Lib Python Stats Py

/-- The events that neither send a request nor read service discovery. -/
def Event.isQuiet : Event → Bool
  | .sendRequest _ | .getEndpointInfo => false
  | _ => true

/-- Every request sent meets `Q`, and service discovery is not read. -/
def Sends (Q : BackendRequest → Prop) : Event → Prop
  | .sendRequest request => Q request
  | .getEndpointInfo => False
  | _ => True

variable {Q : BackendRequest → Prop} (e : Event)

theorem sends_of_quiet {e : Event} (he : e.isQuiet = true) : Sends Q e := by
  cases e with
  | sendRequest _ | getEndpointInfo => cases he
  | _ => exact trivial

theorem sends_of_plain (he : e.isPlain = true) : Sends Q e := by
  cases e with
  | sendRequest _ | getEndpointInfo => cases he
  | _ => exact trivial

variable {L : Type} {E : Event → Prop}

section Sends

variable {α : Type} (span : Option Nat) (error : Option Raised)

theorem note_sends {e : Event} (he : e.isQuiet = true) :
    Performs (Sends Q) (note e : Py service L _) :=
  performs_perform (sends_of_quiet he)

theorem resume_sends (wake : Wake) : Performs (Sends Q) (resume wake : Py service L Unit) :=
  resume_performs wake

theorem yieldItem_sends (item : Item) : Performs (Sends Q) (yieldItem item : Py service L Unit) :=
  yieldItem_performs sends_of_plain item

theorem eval_sends (x : Except PyExc α) : Performs (Sends Q) (eval x : Py service L α) :=
  performs_ofExcept _

theorem endRouterSpan_performs
    (status : Nat) (hspan : ∀ span error status, E (.endSpan span error status)) :
    Performs E (endRouterSpan span error status : Py service L Unit) := by
  cases span with
  | some span => exact performs_perform (hspan _ _ _)
  | none => exact performs_ofExcept (.ok ())

theorem endRouterSpan_sends (status : Nat) :
    Performs (Sends Q) (endRouterSpan span error status : Py service L Unit) :=
  endRouterSpan_performs span error status fun _ _ _ => trivial

end Sends

/-! What a routing function performs before it knows where to send a request. -/

section Prelude

theorem openRouterSpan_performs (app : App) (endpoint : String)
    (hspan : ∀ name, E (.startSpan name)) : Performs E (openRouterSpan app endpoint) := by
  unfold openRouterSpan
  split
  · exact (performs_perform (hspan _)).bind fun _ => performs_ofExcept (.ok _)
  · exact performs_ofExcept (.ok _)

namespace GeneralCall

variable (c : GeneralCall)

theorem preRequest_performs (json : JsonObject) (hpre : E (.preRequest json)) :
    Performs E (c.preRequest json) := by
  unfold preRequest
  split
  · exact (performs_perform hpre).bind fun _ => performs_ofExcept _
  · exact performs_ofExcept (.ok none)

theorem modelEverExisted_performs (model : Json) (hseen : E (.hasEverSeenModel model)) :
    Performs E (c.modelEverExisted model) := by
  unfold modelEverExisted
  split
  · exact (performs_perform hseen).bind fun seen => performs_ofExcept seen
  · exact performs_ofExcept (.ok false)

theorem readStats_performs (htime : E .time) (hstats : ∀ t, E (.getRequestStats t)) :
    Performs E c.readStats := by
  unfold readStats
  split
  · exact performs_ofExcept (.ok ())
  · apply (performs_perform htime).bind
    intro t
    apply (performs_perform (hstats t)).bind
    intro stats
    cases stats <;> exact performs_ofExcept _

end GeneralCall

end Prelude

/-! What the generator performs apart from the exchange itself. -/

/-- The events that keep the books of an exchange. -/
def Event.isAside : Event → Bool
  | .time | .onRequestResponse _ _ | .metric _ | .leaveResponse => true
  | .storeInSemanticCache _ _ _ _ | .addPostRequestTask _ => true
  | _ => false

theorem sends_of_aside (he : e.isAside = true) : Sends Q e := by
  cases e with
  | sendRequest _ | getEndpointInfo => cases he
  | _ => exact trivial

namespace BackendCall

section Aside

variable (haside : ∀ e : Event, e.isAside = true → E e) (a : BackendCall)

include haside

theorem reportFirstToken_performs : Performs E a.reportFirstToken := by
  apply performs_locals.bind
  intro l
  split
  · apply (performs_update _).bind
    intro _
    exact (performs_perform (haside _ rfl)).bind fun t => performs_perform (haside _ rfl)
  · exact performs_ofExcept (.ok ())

theorem leaveResponse_performs : Performs E leaveResponse :=
  (performs_perform (haside _ rfl)).bind fun wake => resume_performs wake

theorem countTokens_performs (usage : Json) (key : String) (metric : Json → Metric) :
    Performs E (countTokens usage key metric) := by
  apply (performs_ofExcept _).bind
  intro present
  split
  · apply (performs_ofExcept _).bind
    intro amount
    exact (performs_ofExcept _).bind fun _ => performs_perform (haside _ rfl)
  · exact performs_ofExcept (.ok ())

theorem trackTokens_performs (response : Bytes) : Performs E (a.trackTokens response) := by
  apply Performs.tryExcept
  · apply (performs_ofExcept _).bind
    intro responseData
    apply (performs_ofExcept _).bind
    intro usage
    exact (countTokens_performs haside _ _ _).bind fun _ => countTokens_performs haside _ _ _
  · intro raised
    cases raised with
    | interrupt i => exact performs_ofExcept _
    | error e =>
      change Performs _ (if _ then _ else _)
      split <;> exact performs_ofExcept _

theorem afterResponse_performs : Performs E a.afterResponse := by
  apply (performs_update _).bind
  intro _
  apply performs_locals.bind
  intro l
  have htokens : Performs E (a.accountTokens l) := by
    unfold accountTokens
    split
    · exact a.trackTokens_performs haside _
    · exact performs_ofExcept (.ok ())
  have hstore : Performs E (a.storeResponse l) := by
    unfold storeResponse
    split
    · exact performs_perform (haside _ rfl)
    · exact performs_ofExcept (.ok ())
  have hpost : Performs E (a.addPostRequest l) := by
    unfold addPostRequest
    split
    · exact performs_perform (haside _ rfl)
    · exact performs_ofExcept (.ok ())
  exact htokens.bind fun _ => hstore.bind fun _ => hpost

end Aside

variable (a : BackendCall)

theorem endSpan_sends (error : Option Raised) : Performs (Sends Q) (a.endSpan error) := by
  unfold endSpan
  split
  · exact note_sends rfl
  · exact performs_ofExcept (.ok ())

theorem relayChunk_sends (chunk : Bytes) : Performs (Sends Q) (a.relayChunk chunk) := by
  apply (performs_update _).bind
  intro _
  apply (a.reportFirstToken_performs sends_of_aside).bind
  intro _
  exact (performs_update _).bind fun _ => yieldItem_sends _

theorem streamContent_sends (ending : Ending) (chunks : List Bytes) :
    Performs (Sends Q) (a.streamContent ending chunks) := by
  induction chunks with
  | nil =>
    apply nextChunk_performs sends_of_plain
    cases ending <;> exact performs_ofExcept _
  | cons chunk rest ih =>
    apply nextChunk_performs sends_of_plain
    exact (a.relayChunk_sends chunk).bind fun _ => ih

theorem relayResponse_sends (r : BackendResponse) : Performs (Sends Q) (a.relayResponse r) := by
  apply (performs_update _).bind
  intro _
  apply (yieldItem_sends _).bind
  intro _
  exact (performs_update _).bind fun _ => a.streamContent_sends r.ending r.chunks

theorem onRaised_sends (raised : Raised) : Performs (Sends Q) (a.onRaised raised) := by
  cases raised with
  | interrupt i =>
    apply performs_locals.bind
    intro l
    split
    · apply (performs_update _).bind
      intro _
      apply (note_sends rfl).bind
      intro _
      exact (a.endSpan_sends _).bind fun _ => performs_ofExcept _
    · exact (performs_update _).bind fun _ => performs_ofExcept _
  | error e =>
    apply (performs_update _).bind
    intro _
    apply (note_sends rfl).bind
    intro _
    apply (a.endSpan_sends _).bind
    intro _
    apply performs_locals.bind
    intro l
    split
    · apply (note_sends rfl).bind
      intro _
      exact (yieldItem_sends _).bind fun _ => yieldItem_sends _
    · exact performs_ofExcept _

theorem retire_sends : Performs (Sends Q) a.retire := by
  apply performs_locals.bind
  intro l
  apply (note_sends rfl).bind
  intro t
  apply (note_sends rfl).bind
  intro hook
  cases hook with
  | ok _ =>
    apply (note_sends rfl).bind
    intro t
    exact (note_sends rfl).bind fun _ => a.endSpan_sends none
  | error e => exact performs_ofExcept _

end BackendCall

section Generators

theorem parseBody_performs (app : App) (body : Body) : Performs E (parseBody app body) := by
  apply Performs.tryExcept
  · apply (performs_ofExcept _).bind
    intro requestJson
    apply (performs_ofExcept _).bind
    intro isStreaming
    exact (performs_ofExcept _).bind fun _ => performs_ofExcept (.ok _)
  · intro raised
    cases raised with
    | interrupt i => exact performs_ofExcept _
    | error e =>
      change Performs _ (if _ then _ else _)
      split <;> exact performs_ofExcept _

theorem openSpan_performs (active : Bool) (hspan : ∀ name, E (.startSpan name)) :
    Performs E (openSpan active) := by
  cases active with
  | true => exact (performs_perform (hspan _)).bind fun _ => performs_ofExcept (.ok _)
  | false => exact performs_ofExcept (.ok _)

theorem tracedHeaders_performs (headers : Headers) (span : Option Nat)
    (hinject : ∀ span, E (.injectContext headers span)) :
    Performs E (tracedHeaders headers span) := by
  cases span with
  | some span => exact performs_perform (hinject span)
  | none => exact performs_ofExcept (.ok _)

variable {p : Prog service (Except Raised Unit)} (span : Option Nat) (status : Nat)
  (stallError : Option PyExc)

theorem aclose_sends (h : p.Performs (Sends Q)) : (aclose p).Performs (Sends Q) := by
  induction p with
  | ret r => exact trivial
  | perform e k ih =>
    cases e with
    | yields item => exact trivial
    | _ => exact ⟨h.1, fun answer => ih answer (h.2 answer)⟩

theorem endStreamSpan_sends (result : Except Raised Unit) :
    Performs (Sends Q) (endStreamSpan span status stallError result) := by
  match result with
  | .ok () => exact endRouterSpan_sends _ _ _
  | .error (.error e) => exact endRouterSpan_sends _ _ _
  | .error (.interrupt i) => exact endRouterSpan_sends _ _ _

theorem tracedStream_sends (h : p.Performs (Sends Q)) :
    (tracedStream span status stallError p).Performs (Sends Q) := by
  induction p generalizing stallError with
  | ret r => exact ((endStreamSpan_sends span status stallError r).run ()).bind fun _ => trivial
  | perform e k ih =>
    cases e with
    | yields item =>
      refine ⟨trivial, ?_⟩
      intro wake
      cases wake with
      | resumed => exact ih .resumed stallError (h.2 .resumed)
      | interrupted i =>
        refine ((endStreamSpan_sends span status stallError _).run ()).bind fun _ => ?_
        exact (aclose_sends (h.2 (.interrupted .generatorExit))).bind fun _ => trivial
    | stashStallError e => exact ⟨trivial, fun answer => ih answer (some e) (h.2 answer)⟩
    | _ => exact ⟨h.1, fun answer => ih answer stallError (h.2 answer)⟩

end Generators

theorem awaited_sends (entry : Entry) :
    Performs (Sends Q) (awaited entry : Py service L BackendResponse) := by
  cases entry <;> exact performs_ofExcept _

theorem exitResponse_sends : Performs (Sends Q) (exitResponse : Py service L Unit) :=
  (note_sends rfl).bind fun wake => resume_sends wake

namespace Orchestration

theorem relayStream_sends (ending : Ending) (chunks : List Bytes) :
    Performs (Sends Q) (relayStream ending chunks) := by
  induction chunks with
  | nil =>
    apply nextChunk_performs sends_of_plain
    cases ending <;> exact performs_ofExcept _
  | cons chunk rest ih =>
    apply nextChunk_performs sends_of_plain
    split
    · exact ih
    · exact (yieldItem_sends _).bind fun _ => ih

theorem generateStream_sends (r : BackendResponse) : (generateStream r).Performs (Sends Q) := by
  have hbody : Performs (Sends Q) (Py.tryFinally (relayStream r.ending r.chunks) (do
      note .releaseResponse
      let _ ← time
      pure ())) := by
    apply (relayStream_sends r.ending r.chunks).tryFinally
    apply (note_sends rfl).bind
    intro _
    exact (note_sends rfl).bind fun _ => performs_ofExcept (.ok ())
  exact (hbody.run ()).bind fun _ => trivial

end Orchestration

namespace MultipartCall

variable (m : MultipartCall) (outcome : TerminalOutcome) (handle : RequestHandle)
  (r : BackendResponse)

theorem terminalHook_sends (handle : RequestHandle) :
    Performs (Sends Q) (terminalHook outcome handle : Py service L Unit) := by
  apply (note_sends rfl).bind
  intro t
  apply (note_sends rfl).bind
  intro hook
  cases hook <;> exact performs_ofExcept _

theorem closeAndRetire_sends (handle : RequestHandle) :
    Performs (Sends Q) (closeAndRetire outcome handle : Py service L Unit) :=
  (note_sends rfl).bind fun _ => terminalHook_sends outcome handle

theorem bodyIterator_sends : (bodyIterator handle r).Performs (Sends Q) := by
  have hstream : Performs (Sends Q) (tracedStream handle r) := by
    apply Performs.tryFinally
    · exact relay_performs sends_of_plain handle r
    · exact performs_locals.bind fun l => closeAndRetire_sends _ handle
  exact (hstream.run _).bind fun _ => trivial

theorem readResponse_sends :
    Performs (Sends Q) (m.readResponse handle r) := by
  apply Performs.tryFinally
  · apply Performs.tryExcept
    · exact readAll_performs sends_of_plain m handle r
    · exact onReadError_performs sends_of_plain m r
  · exact performs_locals.bind fun l => closeAndRetire_sends _ handle

end MultipartCall

end ProductionStack.Request
