import Mathlib.Logic.Function.Basic
import ProductionStack.Discovery.Registration

/-!
The sessions of disaggregated prefill. `app.state` has one client session for the
prefill engines and one for the decode engines. Discovery by pod IP makes new
ones whenever it adds an engine, both classes do so when the application starts,
and nothing else changes them. Every run of `initialize_client_sessions` is one
step here: the watcher waits for the one it submits, and those of the start only
close sessions that were never used.
-/

namespace ProductionStack.Discovery

open Lib Python Request

inductive Role where
  | prefill
  | decode
  deriving DecidableEq

/-- `prefill_model_labels` and `decode_model_labels`. -/
structure RoleLabels where
  prefill : Option (List String)
  decode : Option (List String)

variable {labels : RoleLabels} {role : Role} {cls : K8sClass}

namespace RoleLabels

def of (labels : RoleLabels) : Role → Option (List String)
  | .prefill => labels.prefill
  | .decode => labels.decode

/-- The engine has one of the labels of the role. -/
def carries (labels : RoleLabels) (role : Role) (endpoint : EndpointInfo) : Bool :=
  match labels.of role, endpoint.modelLabel with
  | some names, some label => names.contains label
  | _, _ => false

/-- Whose session is made for an engine: `elif` leaves a label of both lists to the
prefill client. -/
def roleOf (labels : RoleLabels) (endpoint : EndpointInfo) : Option Role :=
  if labels.carries .prefill endpoint then some .prefill
  else if labels.carries .decode endpoint then some .decode
  else none

theorem carries_of_roleOf {endpoint : EndpointInfo}
    (h : labels.roleOf endpoint = some role) : labels.carries role endpoint := by
  unfold roleOf at h
  split at h
  · next hprefill =>
      cases h
      exact hprefill
  · split at h
    · next hdecode =>
        cases h
        exact hdecode
    · cases h

end RoleLabels

structure ClientSession where
  baseUrl : String
  closed : Bool
  deriving DecidableEq

/-- `app.state.prefill_client` and `app.state.decode_client`. -/
abbrev Clients := Role → Option ClientSession

namespace Clients

def close (role : Role) (clients : Clients) : Clients :=
  Function.update clients role ((clients role).map fun client => { client with closed := true })

/-- A new session in place of the old, which only discovery by pod IP closes.
`opens` says which base URLs `ClientSession` takes. -/
def connect (cls : K8sClass) (opens : String → Except PyExc Unit) (role : Role) (url : String)
    (clients : Clients) : Except PyExc Unit × Clients :=
  let clients := if cls = .podIP then clients.close role else clients
  match opens url with
  | .ok () => (.ok (), Function.update clients role (some ⟨url, false⟩))
  | .error e => (.error e, clients)

/-- The loop of `initialize_client_sessions`. -/
def connectAll (cls : K8sClass) (opens : String → Except PyExc Unit) (labels : RoleLabels) :
    List EndpointInfo → Clients → Except PyExc Unit × Clients
  | [], clients => (.ok (), clients)
  | endpoint :: rest, clients =>
    match labels.roleOf endpoint with
    | none => connectAll cls opens labels rest clients
    | some role =>
      match clients.connect cls opens role endpoint.url with
      | (.ok (), clients) => connectAll cls opens labels rest clients
      | (.error e, clients) => (.error e, clients)

def initializeClientSessions (cls : K8sClass) (opens : String → Except PyExc Unit)
    (labels : RoleLabels) (endpoints : List EndpointInfo) (clients : Clients) :
    Except PyExc Unit × Clients :=
  if labels.prefill.isSome && labels.decode.isSome then
    clients.connectAll cls opens labels endpoints
  else (.ok (), clients)

variable {opens : String → Except PyExc Unit}

theorem connect_ok (cls : K8sClass) {url : String} (hopens : opens url = .ok ())
    (clients : Clients) : (clients.connect cls opens role url).1 = .ok () ∧
    (clients.connect cls opens role url).2 role = some ⟨url, false⟩ ∧
    ∀ other, other ≠ role → (clients.connect cls opens role url).2 other = clients other := by
  unfold connect close
  rw [hopens]
  refine ⟨rfl, Function.update_self _ _ _, ?_⟩
  intro other hother
  dsimp only
  rw [Function.update_of_ne hother]
  split
  · rw [Function.update_of_ne hother]
  · rfl

variable {endpoints : List EndpointInfo}

/-- Every role gets the last of its engines; one without engines keeps its client. -/
theorem connectAll_role
    (hopens : ∀ endpoint ∈ endpoints, ∀ role, labels.roleOf endpoint = some role →
      opens endpoint.url = .ok ()) (clients : Clients) (role : Role) :
    (∃ endpoint ∈ endpoints, labels.roleOf endpoint = some role ∧
      (clients.connectAll cls opens labels endpoints).2 role = some ⟨endpoint.url, false⟩) ∨
    (∀ endpoint ∈ endpoints, labels.roleOf endpoint ≠ some role) ∧
      (clients.connectAll cls opens labels endpoints).2 role = clients role := by
  induction endpoints generalizing clients with
  | nil => exact Or.inr ⟨by simp, rfl⟩
  | cons endpoint rest ih =>
    have hrest : ∀ other ∈ rest, ∀ role, labels.roleOf other = some role →
        opens other.url = .ok () :=
      fun other hother => hopens other (List.mem_cons_of_mem _ hother)
    cases hrole : labels.roleOf endpoint with
    | none =>
      have heq : clients.connectAll cls opens labels (endpoint :: rest) =
          clients.connectAll cls opens labels rest := by
        simp only [connectAll, hrole]
      rw [heq]
      rcases ih hrest clients with ⟨other, hother, hlast⟩ | ⟨hnone, hkept⟩
      · exact Or.inl ⟨other, List.mem_cons_of_mem _ hother, hlast⟩
      · refine Or.inr ⟨?_, hkept⟩
        intro other hother
        rcases List.mem_cons.mp hother with rfl | hother
        · simp [hrole]
        · exact hnone other hother
    | some first =>
      obtain ⟨hok, hself, hothers⟩ :=
        connect_ok cls (hopens endpoint List.mem_cons_self first hrole) clients
      have heq : clients.connectAll cls opens labels (endpoint :: rest) =
          connectAll cls opens labels rest (clients.connect cls opens first endpoint.url).2 := by
        simp only [connectAll, hrole]
        split
        · next h => rw [h]
        · next h =>
            rw [h] at hok
            cases hok
      rw [heq]
      rcases ih hrest (clients.connect cls opens first endpoint.url).2 with
        ⟨other, hother, hlast⟩ | ⟨hnone, hkept⟩
      · exact Or.inl ⟨other, List.mem_cons_of_mem _ hother, hlast⟩
      · by_cases hsame : role = first
        · subst hsame
          exact Or.inl ⟨endpoint, List.mem_cons_self, hrole, hkept.trans hself⟩
        · refine Or.inr ⟨?_, hkept.trans (hothers role hsame)⟩
          intro other hother
          rcases List.mem_cons.mp hother with rfl | hother
          · rw [hrole]
            intro h
            exact hsame (Option.some.inj h).symm
          · exact hnone other hother

/-- The same of the whole coroutine, which makes no session unless both lists of
labels are given. -/
theorem initializeClientSessions_role (cls : K8sClass)
    (hopens : ∀ endpoint ∈ endpoints, ∀ role, labels.roleOf endpoint = some role →
      opens endpoint.url = .ok ()) (clients : Clients) (role : Role) :
    (∃ endpoint ∈ endpoints, labels.roleOf endpoint = some role ∧
      (clients.initializeClientSessions cls opens labels endpoints).2 role =
        some ⟨endpoint.url, false⟩) ∨
    (labels.prefill.isSome → labels.decode.isSome →
      ∀ endpoint ∈ endpoints, labels.roleOf endpoint ≠ some role) ∧
      (clients.initializeClientSessions cls opens labels endpoints).2 role = clients role := by
  unfold initializeClientSessions
  split
  · rcases connectAll_role hopens clients role with hlast | ⟨hnone, hkept⟩
    · exact Or.inl hlast
    · exact Or.inr ⟨fun _ _ => hnone, hkept⟩
  · next hlists =>
      refine Or.inr ⟨?_, rfl⟩
      intro hprefill hdecode
      exact absurd (by simp [hprefill, hdecode]) hlists

end Clients

/-! Events and the start of the application. -/

/-- A discovery object, whether the event loop is attached, and the clients. -/
structure Watched (cls : K8sClass) where
  discovery : cls.State
  attached : Bool
  clients : Clients

/-- `lifespan` attaches the event loop and makes the sessions; the coroutine that
`set_event_loop` submits makes them once more, some time later. -/
inductive WatchedStep (cls : K8sClass) where
  | event (event : WatchEvent cls)
  | lifespan
  | deferred

namespace Watched

variable (settings : Settings) (opens : String → Except PyExc Unit) (labels : RoleLabels)

def start (cls : K8sClass) : Watched cls := ⟨cls.initial, false, fun _ => none⟩

def endpoints (s : Watched cls) : List EndpointInfo := (cls.engines s.discovery).values

/-- What is raised is logged, or ends the start of the application. -/
def refresh (s : Watched cls) : Watched cls :=
  { s with clients := (s.clients.initializeClientSessions cls opens labels s.endpoints).2 }

/-- Only `_add_engine` of discovery by pod IP makes new sessions. -/
def refreshes (event : WatchEvent cls) (s : Watched cls) : Bool :=
  cls = .podIP && s.attached && (event.registration settings).isSome

def step (s : Watched cls) : WatchedStep cls → Watched cls
  | .event event =>
    match event.handle settings s.discovery with
    | .error _ => s
    | .ok next =>
      let after := { s with discovery := next }
      if s.refreshes settings event then after.refresh opens labels else after
  | .lifespan => { s with attached := true }.refresh opens labels
  | .deferred =>
    if cls = .podIP ∧ s.attached then s.refresh opens labels else s

def run (s : Watched cls) (steps : List (WatchedStep cls)) : Watched cls :=
  steps.foldl (step settings opens labels) s

/-- If an engine of the role is registered, the client is an open session to one. -/
def Current (role : Role) (s : Watched cls) : Prop :=
  (∃ endpoint ∈ s.endpoints, labels.carries role endpoint) →
    ∃ client, s.clients role = some client ∧ client.closed = false ∧
      ∃ endpoint ∈ s.endpoints, labels.carries role endpoint ∧ endpoint.url = client.baseUrl

/-! When the clients stay current. -/

/-- New sessions can be made for what is registered: their URLs are taken, and if a
role has engines, both lists of labels are given and one of its engines counts as its own. -/
structure Connectable (endpoints : List EndpointInfo) : Prop where
  opens : ∀ endpoint ∈ endpoints, ∀ role, labels.roleOf endpoint = some role →
    opens endpoint.url = .ok ()
  own : ∀ role, (∃ endpoint ∈ endpoints, labels.carries role endpoint) →
    labels.prefill.isSome ∧ labels.decode.isSome ∧
      ∃ endpoint ∈ endpoints, labels.roleOf endpoint = some role

/-- If an engine of the role is left, one is left at the URL of the client. -/
def Leaves (role : Role) (client : Option ClientSession) (endpoints : List EndpointInfo) : Prop :=
  (∃ endpoint ∈ endpoints, labels.carries role endpoint) →
    ∃ session, client = some session ∧
      ∃ endpoint ∈ endpoints, labels.carries role endpoint ∧ endpoint.url = session.baseUrl

/-- The condition on a step: sessions that are made can be made, and where none are
made the event does not take the client's engine away from under it. -/
def Allows (s : Watched cls) : WatchedStep cls → Prop
  | .event event =>
    match event.handle settings s.discovery with
    | .error _ => True
    | .ok next =>
      if s.refreshes settings event then Connectable opens labels (cls.engines next).values
      else s.attached → ∀ role, Leaves labels role (s.clients role) (cls.engines next).values
  | .lifespan => Connectable opens labels s.endpoints
  | .deferred => cls = .podIP ∧ s.attached → Connectable opens labels s.endpoints

/-- Every step of a run meets the condition. -/
def AllowsAll : Watched cls → List (WatchedStep cls) → Prop
  | _, [] => True
  | s, next :: rest =>
    s.Allows settings opens labels next ∧ AllowsAll (s.step settings opens labels next) rest

/-- No client is closed, and with the loop attached they are all current. -/
structure Sound (s : Watched cls) : Prop where
  opened : ∀ role client, s.clients role = some client → client.closed = false
  current : s.attached → ∀ role, s.Current labels role

variable {settings opens labels}

variable {s : Watched cls}

theorem sound_refresh
    (hopened : ∀ role client, s.clients role = some client → client.closed = false)
    (hconnectable : Connectable opens labels s.endpoints) :
    (s.refresh opens labels).Sound labels := by
  have hrole := Clients.initializeClientSessions_role cls hconnectable.opens s.clients
  refine ⟨?_, ?_⟩
  · intro role client hclient
    change (s.clients.initializeClientSessions cls opens labels s.endpoints).2 role = _ at hclient
    rcases hrole role with ⟨endpoint, -, -, hlast⟩ | ⟨-, hkept⟩
    · rw [hlast] at hclient
      cases hclient
      rfl
    · rw [hkept] at hclient
      exact hopened role client hclient
  · intro _ role hengine
    obtain ⟨hprefill, hdecode, own, hown, hownRole⟩ := hconnectable.own role hengine
    rcases hrole role with ⟨endpoint, hendpoint, hroleOf, hlast⟩ | ⟨hnone, -⟩
    · exact ⟨_, hlast, rfl, endpoint, hendpoint, RoleLabels.carries_of_roleOf hroleOf, rfl⟩
    · exact absurd hownRole (hnone hprefill hdecode own hown)

/-- Without new sessions it is for the event to leave an engine at the client. -/
theorem Sound.of_leaves {s' : Watched cls} (h : s.Sound labels) (hclients : s'.clients = s.clients)
    (hattached : s'.attached = s.attached)
    (hleaves : s.attached → ∀ role, Leaves labels role (s.clients role) s'.endpoints) :
    s'.Sound labels := by
  refine ⟨?_, ?_⟩
  · rw [hclients]
    exact h.opened
  · intro hattach role hengine
    rw [hattached] at hattach
    obtain ⟨client, hclient, hurl⟩ := hleaves hattach role hengine
    refine ⟨client, ?_, h.opened role client hclient, hurl⟩
    rw [hclients]
    exact hclient

theorem Sound.step (h : s.Sound labels) {next : WatchedStep cls}
    (hallows : s.Allows settings opens labels next) :
    (s.step settings opens labels next).Sound labels := by
  cases next with
  | event event =>
    dsimp only [Watched.step]
    dsimp only [Allows] at hallows
    cases hhandle : event.handle settings s.discovery with
    | error e => exact h
    | ok after =>
      simp only [hhandle] at hallows ⊢
      split at hallows
      · next hrefreshes =>
          rw [if_pos hrefreshes]
          exact sound_refresh h.opened hallows
      · next hrefreshes =>
          rw [if_neg hrefreshes]
          exact h.of_leaves rfl rfl hallows
  | lifespan => exact sound_refresh h.opened hallows
  | deferred =>
    dsimp only [Watched.step]
    split
    · next hattached => exact sound_refresh h.opened (hallows hattached)
    · exact h

theorem sound_start : (start cls).Sound labels where
  opened := by
    intro role client hclient
    cases hclient
  current := by
    intro hattached
    cases hattached

theorem Sound.run (h : s.Sound labels) {steps : List (WatchedStep cls)}
    (hallows : s.AllowsAll settings opens labels steps) :
    (s.run settings opens labels steps).Sound labels := by
  induction steps generalizing s with
  | nil => exact h
  | cons next rest ih =>
    obtain ⟨hnext, hrest⟩ := hallows
    exact ih (h.step hnext) hrest

theorem AllowsAll.of_append {before : List (WatchedStep cls)} (after : List (WatchedStep cls))
    (h : s.AllowsAll settings opens labels (before ++ after)) :
    s.AllowsAll settings opens labels before := by
  induction before generalizing s with
  | nil => trivial
  | cons next rest ih => exact ⟨h.1, ih h.2⟩

def podEvent (type : WatchType) (pod : Pod) : WatchEvent .podIP :=
  ⟨type, pod, ⟨⟨.ok ["m"], .ok false⟩, .ok []⟩⟩

end Watched

end ProductionStack.Discovery
