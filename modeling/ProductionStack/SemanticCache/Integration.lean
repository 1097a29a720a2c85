import ProductionStack.Request.ProcessRequest
import ProductionStack.Request.World
import ProductionStack.Routing.PrefixAware
import ProductionStack.SemanticCache.FaissAdapter

/-!
The semantic cache between the proxy and its clients: `process_request` hands it what a
backend has answered, and later requests may be answered from it. The cache is enabled
here; otherwise nothing is stored and nothing served.
-/

namespace ProductionStack.SemanticCache

open Lib Python Request

/-- A call of `store_in_semantic_cache`. `status` is what the backend answered with, which
the call does not say. -/
structure Offer where
  endpoint : String
  method : String
  body : Body
  chunk : Bytes
  status : Option Nat

/-- `content[:50]`. -/
def slice50 : Json → Except PyExc Unit
  | .str _ | .arr _ => .ok ()
  | _ => .error (.new .typeError "object is not subscriptable")

/-- `messages[0]`, where `len(messages) > 0`. -/
def firstItem : Json → Except PyExc Json
  | .arr (m :: _) => .ok m
  | .str s => .ok (.str (String.ofList (s.toList.take 1)))
  | .obj _ => .error (.new .keyError "0")
  | _ => .error (.new .typeError "object has no len()")

/-- The first message is logged. -/
def logRequest (messages : Json) : Except PyExc Unit :=
  if messages.truthy then do
    let message ← firstItem messages
    let content ← message.get "content" (.str "")
    let _ ← message.get "role" (.str "user")
    slice50 content
  else pure ()

def logResponse : List Json → Except PyExc Unit
  | [] => pure ()
  | message :: _ => do
      let content ← message.get "content" (.str "")
      slice50 content

/-- `choice["message"]`, if there is one. -/
def choiceMessage (choice : Json) : Except PyExc (Option Json) := do
  if ← choice.contains "message" then some <$> choice.item "message" else pure none

def responseMessages (response : Json) : Except PyExc (List Json) := do
  if ← response.contains "choices" then
    let choices ← Routing.iterItems (← response.item "choices")
    let messages ← choices.mapM choiceMessage
    pure (messages.filterMap id)
  else pure []

def defaultUsage : Json :=
  .obj [("prompt_tokens", .int 0), ("completion_tokens", .int 0), ("total_tokens", .int 0)]

/-- What is to be stored of a response. -/
def responseEntry (request response : Json) : Except PyExc Metadata := do
  let model ← request.get "model" (.str "")
  let messages ← request.get "messages" (.arr [])
  logRequest messages
  let answers ← responseMessages response
  let usage ← response.get "usage" defaultUsage
  logResponse answers
  pure ⟨messages, answers, model, usage⟩

/-- What `store_in_semantic_cache` passes on to the cache. -/
def offeredEntry (limit : Nat) (o : Offer) : Except PyExc (Option Metadata) :=
  if o.endpoint = "/v1/chat/completions" ∧ o.method = "POST" then do
    let request ← o.body.loads limit
    let skip ← request.get "skip_cache" (.bool false)
    if skip.truthy then pure none
    else
      let stream ← request.get "stream" (.bool false)
      if stream.truthy then pure none
      else match jsonLoads limit o.chunk with
        | .ok response => some <$> responseEntry request response
        | .error e => if e.isInstance [.jsonDecodeError] then pure none else .error e
  else pure none

section Cache

variable {V : Type} (embed : Json → Except PyExc V) (limit : Nat)

/-- What `store_in_semantic_cache` stores. `embed` is `get_embedding`, which may raise;
whatever is raised is logged. -/
def Offer.entry (o : Offer) : Option (Entry V) :=
  match offeredEntry limit o with
  | .ok (some metadata) => (embed metadata.requestMessages).toOption.map (⟨·, metadata⟩)
  | _ => none

/-- The cache after these calls. -/
def cacheAfter (offers : List Offer) : FAISSAdapter V :=
  .storeAll (offers.filterMap (Offer.entry embed limit))

end Cache

structure CachedResponse (K : Type) where
  id : String
  created : Int
  model : Json
  choices : List Json
  usage : Json
  similarityScore : K

def cachedChoice (message : Json) (i : Nat) : Json :=
  .obj [("index", .int i), ("message", message), ("finish_reason", .str "stop")]

/-- `check_semantic_cache`, where the index gives `nearest`; `reached` is how a similarity
compares with the threshold that a request has or leaves to the default. -/
def checkSemanticCache {K : Type} [Field K] {dim : Nat} (embed : Json → Except PyExc (Fin dim → K))
    (reached : Json → K → Except PyExc Bool) (db : FAISSAdapter (Fin dim → K)) (body : Json)
    (nearest : Option Nat) (uuid : String) (now : Int) :
    Except PyExc (Option (CachedResponse K)) := do
  let model ← body.get "model" (.str "")
  let messages ← body.get "messages" (.arr [])
  let threshold ← body.get "cache_similarity_threshold" .null
  let skip ← body.get "skip_cache" (.bool false)
  if skip.truthy then pure none
  else if messages.truthy then
    logRequest messages
    let embedding ← embed messages
    match ← db.search embedding model (reached threshold) nearest with
    | none => pure none
    | some result =>
      logResponse result.responseMessages
      pure (some {
        id := "chatcmpl-" ++ uuid, created := now, model, usage := result.usage
        choices := result.responseMessages.zipIdx.map fun m => cachedChoice m.1 m.2
        similarityScore := result.similarityScore })
  else pure none

/-! What `process_request` hands over. -/

structure Handed where
  status : Option Nat
  offers : List Offer

def Handed.start : Handed := ⟨none, []⟩

/-- Whatever is answered, the last status and the calls of the cache are noted. -/
def Handed.after (s : Handed) : (e : Event) → e.Answer → Handed
  | .sendRequest _, .response r => { s with status := some r.status }
  | .storeInSemanticCache endpoint method body chunk, _ =>
    { s with offers := s.offers ++ [⟨endpoint, method, body, chunk, s.status⟩] }
  | _, _ => s

def handing : Env service Handed := fun s e answer s' => s' = s.after e answer

/-- Some run of `process_request` makes this call. -/
def Handed.By (app : App) (o : Offer) : Prop :=
  ∃ request body backendUrl requestId endpoint parentSpan p s,
    Prog.Reaches handing (processRequest app request body backendUrl requestId endpoint parentSpan)
      .start p s ∧ o ∈ s.offers

/-- The backend answered with a status below 400, and these are the messages of its choices. -/
def Offer.Success (limit : Nat) (o : Offer) (messages : List Json) : Prop :=
  (∃ status, o.status = some status ∧ status < 400) ∧
    ∃ response, jsonLoads limit o.chunk = .ok response ∧ responseMessages response = .ok messages

section Replay

variable {K : Type} [Field K] {dim : Nat}

variable {db : FAISSAdapter (Fin dim → K)} {nearest : Option Nat} {metadata : Metadata} {o : Offer}

theorem search_ok {embedding : Fin dim → K} {model : Json} {reached : K → Except PyExc Bool}
    {result : SearchResult K} (h : db.search embedding model reached nearest = .ok (some result)) :
    ∃ metadata ∈ db.metadata, result.responseMessages = metadata.responseMessages := by
  unfold FAISSAdapter.search at h
  split at h
  · cases h
  · obtain ⟨reaches, -, h⟩ := bind_ok h
    split at h
    · split at h
      · cases h
      · rename_i metadata hmetadata
        split at h
        · cases h
          exact ⟨metadata, List.mem_of_getElem? hmetadata, rfl⟩
        · cases h
    · cases h

variable {limit : Nat}

/-- A response from the cache has the choices of something that is stored. -/
theorem checkSemanticCache_ok {embed : Json → Except PyExc (Fin dim → K)}
    {reached : Json → K → Except PyExc Bool} {body : Json} {uuid : String} {now : Int}
    {response : CachedResponse K}
    (h : checkSemanticCache embed reached db body nearest uuid now = .ok (some response)) :
    ∃ metadata ∈ db.metadata,
      response.choices = metadata.responseMessages.zipIdx.map fun m => cachedChoice m.1 m.2 := by
  obtain ⟨model, -, h⟩ := bind_ok h
  obtain ⟨messages, -, h⟩ := bind_ok h
  obtain ⟨threshold, -, h⟩ := bind_ok h
  obtain ⟨skip, -, h⟩ := bind_ok h
  split at h
  · cases h
  split at h
  · obtain ⟨-, -, h⟩ := bind_ok h
    obtain ⟨embedding, -, h⟩ := bind_ok h
    obtain ⟨found, hsearch, h⟩ := bind_ok h
    cases found with
    | none => cases h
    | some result =>
      obtain ⟨-, -, ⟨⟩⟩ := bind_ok h
      obtain ⟨metadata, hmem, hmessages⟩ := search_ok hsearch
      exact ⟨metadata, hmem, by rw [hmessages]⟩
  · cases h

theorem responseEntry_ok {request response : Json}
    (h : responseEntry request response = .ok metadata) :
    responseMessages response = .ok metadata.responseMessages := by
  obtain ⟨model, -, h⟩ := bind_ok h
  obtain ⟨messages, -, h⟩ := bind_ok h
  obtain ⟨-, -, h⟩ := bind_ok h
  obtain ⟨answers, hanswers, h⟩ := bind_ok h
  obtain ⟨usage, -, h⟩ := bind_ok h
  obtain ⟨-, -, ⟨⟩⟩ := bind_ok h
  exact hanswers

/-- What is stored was read from the response. -/
theorem offeredEntry_ok (h : offeredEntry limit o = .ok (some metadata)) :
    ∃ response, jsonLoads limit o.chunk = .ok response ∧
      responseMessages response = .ok metadata.responseMessages := by
  unfold offeredEntry at h
  split at h
  · obtain ⟨request, -, h⟩ := bind_ok h
    obtain ⟨skip, -, h⟩ := bind_ok h
    split at h
    · cases h
    obtain ⟨stream, -, h⟩ := bind_ok h
    split at h
    · cases h
    split at h
    · rename_i response hresponse
      obtain ⟨found, hfound, ⟨⟩⟩ := bind_ok h
      exact ⟨response, hresponse, responseEntry_ok hfound⟩
    · split at h <;> cases h
  · cases h

theorem Offer.entry_eq_some {V : Type} {embed : Json → Except PyExc V} {e : Entry V}
    (h : o.entry embed limit = some e) : offeredEntry limit o = .ok (some e.metadata) := by
  unfold Offer.entry at h
  split at h
  · rename_i metadata hmetadata
    obtain ⟨embedding, -, rfl⟩ := Option.map_eq_some_iff.mp h
    exact hmetadata
  · cases h

/-- If every response that was stored had a status below 400 and a choice with a message,
then what is served from the cache has a choice, and the messages of such a response. -/
theorem replays_successes (app : App) (embed : Json → Except PyExc (Fin dim → K))
    (reached : Json → K → Except PyExc Bool) (offers : List { o : Offer // Handed.By app o })
    (hoffers : ∀ o ∈ offers, ∀ e, o.1.entry embed app.recursionLimit = some e →
      (∃ status, o.1.status = some status ∧ status < 400) ∧ e.metadata.responseMessages ≠ [])
    (body : Json) (nearest : Option Nat) (uuid : String) (now : Int) (response : CachedResponse K)
    (hserved : checkSemanticCache embed reached (cacheAfter embed app.recursionLimit
      (offers.map (·.1))) body nearest uuid now = .ok (some response)) :
    response.choices ≠ [] ∧ ∃ o ∈ offers, ∃ messages, o.1.Success app.recursionLimit messages ∧
      response.choices = messages.zipIdx.map fun m => cachedChoice m.1 m.2 := by
  obtain ⟨metadata, hmetadata, hchoices⟩ := checkSemanticCache_ok hserved
  rw [cacheAfter, FAISSAdapter.storeAll_eq] at hmetadata
  obtain ⟨e, he, rfl⟩ := List.mem_map.mp hmetadata
  obtain ⟨o, ho, hentry⟩ := List.mem_filterMap.mp he
  obtain ⟨offer, hoffer, rfl⟩ := List.mem_map.mp ho
  obtain ⟨hstatus, hne⟩ := hoffers offer hoffer e hentry
  refine ⟨?_, offer, hoffer, _, ⟨hstatus, offeredEntry_ok (Offer.entry_eq_some hentry)⟩, hchoices⟩
  rw [hchoices]
  simpa [List.zipIdx_eq_nil_iff] using hne

end Replay

/-! One chat request, whatever the backend answers. -/

def cachingApp : App := ⟨false, none, true, false, 1000⟩

def chatRequest : Json :=
  .obj [("model", .str "m"), ("messages", .arr [.obj [("role", .str "user"), ("content", .str "hi")]])]

def answering (status : Nat) (text : String) : (e : Event) → e.Answer
  | .sendRequest _ => Entry.response ⟨status, [], [encode text], .eof, ""⟩
  | e => calm e

def handOver (status : Nat) (text : String) (e : Event) (s : Handed) : e.Answer × Handed :=
  (answering status text e, s.after e (answering status text e))

def chatOffers (status : Nat) (text : String) : List Offer :=
  ((processRequest cachingApp ⟨"POST", []⟩ (.dumped chatRequest) "http://e" "r"
    "/v1/chat/completions" none).interpret (handOver status text) Handed.start).2.offers

theorem chatOffers_handed {status : Nat} {text : String} {o : Offer}
    (h : o ∈ chatOffers status text) : Handed.By cachingApp o := by
  have hhandler : ∀ e s, handing s e (handOver status text e s).1 (handOver status text e s).2 := by
    intro e s
    rfl
  exact ⟨_, _, _, _, _, _, _, _, Prog.interpret_reaches hhandler _ _, h⟩

/-- The same request again, with an embedding that is the same for all. -/
def askAgain (offers : List Offer) : Except PyExc (Option (CachedResponse ℚ)) :=
  checkSemanticCache (fun _ => .ok fun _ : Fin 1 => 1) (fun _ => atLeast (95 / 100))
    (cacheAfter (fun _ => .ok fun _ => 1) 1000 offers) chatRequest (some 0) "" 0

/-- A response with one choice is replayed with it. -/
theorem replays_one_choice : ∃ o, Handed.By cachingApp o ∧ o.status = some 200 ∧
    ∃ response, askAgain [o] = .ok (some response) ∧ response.choices ≠ [] := by
  have hserved : ((chatOffers 200
      "\x7b\"choices\":[\x7b\"message\":\x7b\"content\":\"hello\"\x7d\x7d]\x7d").any fun o =>
      o.status = some 200 && (askAgain [o]).toOption.any (·.isSome) &&
        (o.entry (fun _ => .ok fun _ : Fin 1 => (1 : ℚ)) 1000).all
          (!·.metadata.responseMessages.isEmpty)) = true := by
    decide +kernel
  obtain ⟨o, ho, h⟩ := List.any_eq_true.mp hserved
  simp only [Bool.and_eq_true, decide_eq_true_eq] at h
  obtain ⟨⟨hstatus, hsome⟩, hentry⟩ := h
  obtain ⟨served, hagain, hsome⟩ := (Option.any_eq_true _ _).mp hsome
  obtain ⟨response, rfl⟩ := Option.isSome_iff_exists.mp hsome
  have hagain : askAgain [o] = .ok (some response) := by
    cases hask : askAgain [o] with
    | error e => simp [hask, Except.toOption] at hagain
    | ok found => simpa [hask, Except.toOption] using hagain
  refine ⟨o, chatOffers_handed ho, hstatus, response, hagain, ?_⟩
  refine (replays_successes cachingApp _ _ [⟨o, chatOffers_handed ho⟩] ?_ _ _ _ _ _ hagain).1
  intro offer hoffer e he
  obtain rfl := List.mem_singleton.mp hoffer
  refine ⟨⟨200, hstatus, by decide⟩, ?_⟩
  rw [show o.entry _ 1000 = some e from he] at hentry
  simpa using hentry

/-- An error is stored and replayed, without any choice. -/
theorem error_replayed : ∃ o, Handed.By cachingApp o ∧ o.status = some 503 ∧
    ∃ response, askAgain [o] = .ok (some response) ∧ response.choices = [] := by
  have hserved : ((chatOffers 503 "\x7b\"error\":\"overloaded\"\x7d").any fun o =>
      o.status = some 503 && (askAgain [o]).toOption.any (·.any (·.choices.isEmpty))) = true := by
    decide +kernel
  obtain ⟨o, ho, h⟩ := List.any_eq_true.mp hserved
  simp only [Bool.and_eq_true, decide_eq_true_eq] at h
  obtain ⟨hstatus, hsome⟩ := h
  obtain ⟨served, hagain, hsome⟩ := (Option.any_eq_true _ _).mp hsome
  obtain ⟨response, rfl, hempty⟩ := (Option.any_eq_true _ _).mp hsome
  refine ⟨o, chatOffers_handed ho, hstatus, response, ?_, List.isEmpty_iff.mp hempty⟩
  cases hask : askAgain [o] with
  | error e => simp [hask, Except.toOption] at hagain
  | ok found => simpa [hask, Except.toOption] using hagain

end ProductionStack.SemanticCache
