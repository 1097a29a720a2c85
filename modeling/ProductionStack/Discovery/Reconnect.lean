import ProductionStack.Discovery.Registration

/-!
The outer loop of `_watch_engines` against a cluster that changes. A watch
stream starts with an `ADDED` event for every object that exists and then
carries every later change, until it ends; the loop then opens another one. What
changes in the meantime is in no stream.
-/

namespace ProductionStack.Discovery

open Lib Python Request

variable {cls : K8sClass}

/-- A stream that is being read: the events that were sent and not processed yet.
The first `initial` of them list the objects that existed when the stream was
opened. `opened` and `later` only record what happened: the names of those
objects, and the names in the events processed after them. -/
structure Stream (cls : K8sClass) where
  queue : List (WatchType × cls.Object)
  initial : Nat
  opened : List String
  later : List String

structure Cluster (cls : K8sClass) where
  objects : List cls.Object
  stream : Option (Stream cls)
  discovery : cls.State

/-- What can happen next. The objects of `modify` and `delete` are their new and
their last states. -/
inductive Action (cls : K8sClass) where
  | create (object : cls.Object)
  | modify (object : cls.Object)
  | delete (object : cls.Object)
  | connect
  | deliver (answers : cls.Answers)
  | disconnect

namespace Cluster

def start (cls : K8sClass) : Cluster cls := ⟨[], none, cls.initial⟩

def names (c : Cluster cls) : List String := c.objects.map cls.nameOf

def engines (c : Cluster cls) : Dict String EndpointInfo := cls.engines c.discovery

/-- A change of the cluster, which the open stream is sent, if there is one. -/
def change (c : Cluster cls) (objects : List cls.Object) (type : WatchType)
    (object : cls.Object) : Cluster cls := { c with
  objects := objects
  stream := c.stream.map fun s => { s with queue := s.queue ++ [(type, object)] } }

def openStream (c : Cluster cls) : Cluster cls := { c with
  stream := some {
    queue := c.objects.map fun object => (.added, object)
    initial := c.objects.length
    opened := c.names
    later := [] } }

/-- An exception in the loop body ends the stream, like its timeout. -/
def process (settings : Settings) (c : Cluster cls) (s : Stream cls) (event : WatchEvent cls)
    (rest : List (WatchType × cls.Object)) : Cluster cls :=
  match event.handle settings c.discovery with
  | .ok discovery => { c with
      discovery := discovery
      stream := some { s with
        queue := rest
        initial := s.initial - 1
        later := if s.initial = 0 then event.name :: s.later else s.later } }
  | .error _ => { c with stream := none }

def step (settings : Settings) (c : Cluster cls) : Action cls → Option (Cluster cls)
  | .create object =>
    if cls.nameOf object ∈ c.names then none
    else some (c.change (c.objects ++ [object]) .added object)
  | .modify object =>
    if cls.nameOf object ∈ c.names then
      some (c.change (c.objects.map fun other =>
        if cls.nameOf other = cls.nameOf object then object else other) .modified object)
    else none
  | .delete object =>
    if cls.nameOf object ∈ c.names then
      some (c.change (c.objects.filter fun other => cls.nameOf other ≠ cls.nameOf object)
        .deleted object)
    else none
  | .connect =>
    match c.stream with
    | some _ => none
    | none => some c.openStream
  | .deliver answers =>
    match c.stream with
    | none => none
    | some s =>
      match s.queue with
      | [] => none
      | (type, object) :: rest => some (c.process settings s ⟨type, object, answers⟩ rest)
  | .disconnect =>
    match c.stream with
    | none => none
    | some _ => some { c with stream := none }

end Cluster

/-- The states of the runs whose steps all meet a condition. -/
inductive Reachable (settings : Settings)
    (meets : Cluster cls → Action cls → Cluster cls → Prop) : Cluster cls → Prop where
  | start : Reachable settings meets (.start cls)
  | step {c c' : Cluster cls} (action : Action cls) (before : Reachable settings meets c)
      (hstep : c.step settings action = some c') (hmeets : meets c action c') :
      Reachable settings meets c'

/-- No registered engine's object is deleted while no stream is open, and no
stream ends before the deletion of a registered engine's object, unless there is
a new object of that name, is processed. -/
structure DeletionsObserved (c : Cluster cls) (action : Action cls) (c' : Cluster cls) :
    Prop where
  whileClosed : ∀ object, action = .delete object → c.stream = none →
    cls.nameOf object ∉ c.engines
  atEnd : ∀ s, c.stream = some s → c'.stream = none →
    ∀ object, (.deleted, object) ∈ s.queue → cls.nameOf object ∈ c.engines →
      cls.nameOf object ∈ c.names

/-! Engines against objects. -/

/-- The object exists, or its deletion is still to be processed. -/
def Accounted (names : List String) (queue : List (WatchType × cls.Object)) (name : String) :
    Prop :=
  name ∈ names ∨ ∃ object, (.deleted, object) ∈ queue ∧ cls.nameOf object = name

/-- Whatever a queued event may register is accounted for by what follows it. -/
def QueueSound (names : List String) : List (WatchType × cls.Object) → Prop
  | [] => True
  | (type, object) :: rest =>
    (type ≠ .deleted → Accounted names rest (cls.nameOf object)) ∧ QueueSound names rest

variable {object : cls.Object} {names : List String} {type : WatchType}
  {rest : List (WatchType × cls.Object)} {names' : List String}
  {queue : List (WatchType × cls.Object)} {name : String} {entry : WatchType × cls.Object}
  {answers : cls.Answers} {c' : Cluster cls} {action : Action cls}

theorem queueSound_push (h : QueueSound names queue)
    (hkeeps : ∀ queue name, Accounted names queue name → Accounted names' (queue ++ [(type, object)]) name)
    (hlast : type ≠ .deleted → cls.nameOf object ∈ names') :
    QueueSound names' (queue ++ [(type, object)]) := by
  induction queue with
  | nil => exact ⟨fun hne => Or.inl (hlast hne), trivial⟩
  | cons entry rest ih =>
    obtain ⟨hentry, hrest⟩ := h
    exact ⟨fun hne => hkeeps _ _ (hentry hne), ih hrest⟩

variable {objects : List cls.Object}

theorem queueSound_listed (h : ∀ object ∈ objects, cls.nameOf object ∈ names) :
    QueueSound names (objects.map fun object => (WatchType.added, object)) := by
  induction objects with
  | nil => exact trivial
  | cons object rest ih =>
    obtain ⟨hobject, hrest⟩ := List.forall_mem_cons.mp h
    exact ⟨fun _ => Or.inl hobject, ih hrest⟩

/-- What holds while a stream is open. -/
structure StreamSound (c : Cluster cls) (s : Stream cls) : Prop where
  length : s.initial ≤ s.queue.length
  queue : QueueSound c.names s.queue
  accounted : ∀ name ∈ c.engines, Accounted c.names s.queue name
  listed : ∀ entry ∈ s.queue.take s.initial, cls.nameOf entry.2 ∈ s.opened
  announced : ∀ name ∈ c.engines, name ∈ s.opened ∨ name ∈ s.later

structure Sound (c : Cluster cls) : Prop where
  closed : c.stream = none → ∀ name ∈ c.engines, name ∈ c.names
  opened : ∀ s, c.stream = some s → StreamSound c s

theorem sound_start (cls : K8sClass) : Sound (.start cls) := by
  constructor
  · intro _ name member
    cases cls <;> cases member
  · intro s hs
    cases hs

variable {c : Cluster cls}

theorem sound_change (h : Sound c)
    (hkeeps : ∀ queue name, Accounted c.names queue name → Accounted (objects.map cls.nameOf) (queue ++ [(type, object)]) name)
    (hlast : type ≠ .deleted → cls.nameOf object ∈ objects.map cls.nameOf)
    (hclosed : c.stream = none → ∀ name ∈ c.engines, name ∈ objects.map cls.nameOf) :
    Sound (c.change objects type object) := by
  constructor
  · intro hnone name member
    exact hclosed (Option.map_eq_none_iff.mp hnone) name member
  · intro s' hs'
    obtain ⟨s, hs, rfl⟩ := Option.map_eq_some_iff.mp hs'
    have hsound := h.opened s hs
    have hlength : (s.queue ++ [(type, object)]).length = s.queue.length + 1 := List.length_append
    have hle := hsound.length
    constructor
    · change s.initial ≤ (s.queue ++ [(type, object)]).length
      omega
    · exact queueSound_push hsound.queue hkeeps hlast
    · exact fun name member => hkeeps _ _ (hsound.accounted name member)
    · intro entry member
      rw [List.take_append_of_le_length hle] at member
      exact hsound.listed entry member
    · exact hsound.announced

theorem sound_openStream (h : ∀ name ∈ c.engines, name ∈ c.names) : Sound c.openStream := by
  have hnames (object : cls.Object) (member : object ∈ c.objects) :
      cls.nameOf object ∈ c.names := List.mem_map_of_mem member
  constructor
  · intro hnone
    cases hnone
  · intro s hs
    obtain rfl := Option.some.inj hs
    constructor
    · simp
    · exact queueSound_listed hnames
    · exact fun name member => Or.inl (h name member)
    · intro entry member
      obtain ⟨object, hobject, rfl⟩ := List.mem_map.mp (List.mem_of_mem_take member)
      exact hnames object hobject
    · exact fun name member => Or.inl (h name member)

variable {settings : Settings}

/-- An event that is processed registers at most the engine it names, and the
deletion of an object removes its engine. -/
theorem mem_engines_of_handle {event : WatchEvent cls} {self self' : cls.State}
    (h : event.handle settings self = .ok self') (member : name ∈ cls.engines self') :
    (name = event.name ∧ event.type ≠ .deleted) ∨ name ∈ cls.engines self ∧
      (event.type = .deleted → name ≠ event.name) := by
  rw [WatchEvent.handle_engines h] at member
  by_cases hdeleted : event.type = .deleted
  · rw [WatchEvent.effect_deleted hdeleted] at member
    obtain ⟨hne, hold⟩ := (Dict.mem_erase _ _ _).mp member
    exact Or.inr ⟨hold, fun _ => hne⟩
  · rcases Dict.mem_of_mem_apply member with rfl | hold
    · exact Or.inl ⟨rfl, hdeleted⟩
    · exact Or.inr ⟨hold, fun hevent => absurd hevent hdeleted⟩

variable {s : Stream cls}

/-- The head of the queue is one of the initial events, if any are left. -/
theorem take_initial (hqueue : s.queue = entry :: rest) (hinitial : s.initial ≠ 0) :
    s.queue.take s.initial = entry :: rest.take (s.initial - 1) := by
  obtain ⟨n, hn⟩ := Nat.exists_eq_succ_of_ne_zero hinitial
  rw [hqueue, hn]
  rfl

theorem StreamSound.handled {discovery : cls.State} (h : StreamSound c s)
    (hqueue : s.queue = (type, object) :: rest)
    (hhandle : WatchEvent.handle settings (⟨type, object, answers⟩ : WatchEvent cls) c.discovery = .ok discovery)
    (stream : Option (Stream cls)) : StreamSound { c with discovery, stream } { s with
      queue := rest
      initial := s.initial - 1
      later := if s.initial = 0 then cls.nameOf object :: s.later else s.later } := by
  obtain ⟨hhead, hrest⟩ : (type ≠ .deleted → Accounted c.names rest (cls.nameOf object)) ∧
      QueueSound c.names rest := by
    have hsound := h.queue
    rwa [hqueue] at hsound
  have hlength : s.initial ≤ rest.length + 1 := by
    have hle := h.length
    rwa [hqueue] at hle
  constructor
  · change s.initial - 1 ≤ rest.length
    omega
  · exact hrest
  · intro name member
    rcases mem_engines_of_handle hhandle member with ⟨rfl, hne⟩ | ⟨hold, hremoved⟩
    · exact hhead hne
    · rcases h.accounted name hold with hexists | ⟨gone, hgone, rfl⟩
      · exact Or.inl hexists
      · rw [hqueue, List.mem_cons, Prod.mk.injEq] at hgone
        rcases hgone with ⟨htype, rfl⟩ | hgone
        · exact absurd rfl (hremoved htype.symm)
        · exact Or.inr ⟨gone, hgone, rfl⟩
  · intro entry member
    by_cases hinitial : s.initial = 0
    · simp [hinitial] at member
    · apply h.listed entry
      rw [take_initial hqueue hinitial]
      exact List.mem_cons_of_mem _ member
  · intro name member
    rcases mem_engines_of_handle hhandle member with ⟨rfl, -⟩ | ⟨hold, -⟩
    · by_cases hinitial : s.initial = 0
      · rw [if_pos hinitial]
        exact Or.inr List.mem_cons_self
      · apply Or.inl
        apply h.listed (type, object)
        rw [take_initial hqueue hinitial]
        exact List.mem_cons_self
    · refine (h.announced name hold).imp_right ?_
      intro hlater
      split
      · exact List.mem_cons_of_mem _ hlater
      · exact hlater

theorem sound_process (h : StreamSound c s) (hqueue : s.queue = (type, object) :: rest)
    (hend : (c.process settings s ⟨type, object, answers⟩ rest).stream = none → ∀ name ∈ c.engines, name ∈ c.names) :
    Sound (c.process settings s ⟨type, object, answers⟩ rest) := by
  unfold Cluster.process at hend ⊢
  cases hhandle : WatchEvent.handle settings (⟨type, object, answers⟩ : WatchEvent cls)
      c.discovery with
  | error e =>
    rw [hhandle] at hend
    constructor
    · exact fun _ => hend rfl
    · intro s hs
      cases hs
  | ok discovery =>
    constructor
    · intro hnone
      cases hnone
    · intro s' hs'
      obtain rfl := Option.some.inj hs'
      exact h.handled hqueue hhandle _

theorem accounted_of_subset (hsub : ∀ name ∈ names, name ∈ names') (h : Accounted names queue name)
    : Accounted names' (queue ++ [entry]) name := by
  rcases h with hexists | ⟨object, hqueued, rfl⟩
  · exact Or.inl (hsub name hexists)
  · exact Or.inr ⟨object, List.mem_append_left _ hqueued, rfl⟩

/-- Objects that appear or change take no engine's object away. -/
theorem sound_grow (h : Sound c) (hsub : ∀ name ∈ c.names, name ∈ objects.map cls.nameOf)
    (hobject : cls.nameOf object ∈ objects.map cls.nameOf) :
    Sound (c.change objects type object) := by
  refine sound_change h ?_ (fun _ => hobject) ?_
  · exact fun _ _ haccounted => accounted_of_subset hsub haccounted
  · exact fun hnone name member => hsub name (h.closed hnone name member)

theorem sound_delete (h : Sound c) (hobserved : c.stream = none → cls.nameOf object ∉ c.engines) :
    Sound (c.change (c.objects.filter fun other => cls.nameOf other ≠ cls.nameOf object)
      .deleted object) := by
  have hremain (name : String) (hne : name ≠ cls.nameOf object) (hexists : name ∈ c.names) :
      name ∈ (c.objects.filter fun other => cls.nameOf other ≠ cls.nameOf object).map
        cls.nameOf := by
    obtain ⟨other, hother, rfl⟩ := List.mem_map.mp hexists
    exact List.mem_map_of_mem (List.mem_filter.mpr ⟨hother, by simpa using hne⟩)
  refine sound_change h ?_ (fun hne => absurd rfl hne) ?_
  · intro queue name haccounted
    by_cases hname : name = cls.nameOf object
    · exact Or.inr ⟨object, by simp, hname.symm⟩
    · rcases haccounted with hexists | ⟨gone, hgone, rfl⟩
      · exact Or.inl (hremain name hname hexists)
      · exact Or.inr ⟨gone, List.mem_append_left _ hgone, rfl⟩
  · intro hnone name member
    apply hremain name _ (h.closed hnone name member)
    rintro rfl
    exact hobserved hnone member

theorem names_modified (c : Cluster cls) (object : cls.Object) : (c.objects.map fun other =>
      if cls.nameOf other = cls.nameOf object then object else other).map cls.nameOf = c.names := by
  rw [List.map_map]
  apply List.map_congr_left
  intro other _
  change cls.nameOf (if _ then _ else _) = _
  split
  · next hname => exact hname.symm
  · rfl

theorem sound_step (h : Sound c) (hstep : c.step settings action = some c')
    (hobserved : DeletionsObserved c action c') : Sound c' := by
  -- A stream that ends leaves no engine whose object is gone.
  have hend (s : Stream cls) (hs : c.stream = some s) (hnone : c'.stream = none) :
      ∀ name ∈ c.engines, name ∈ c.names := by
    intro name member
    rcases (h.opened s hs).accounted name member with hexists | ⟨object, hqueued, rfl⟩
    · exact hexists
    · exact hobserved.atEnd s hs hnone object hqueued member
  cases action with
  | create object =>
    obtain ⟨-, hsome⟩ := Option.ite_none_left_eq_some.mp hstep
    obtain rfl := Option.some.inj hsome
    apply sound_grow h
    · intro name hexists
      rw [List.map_append]
      exact List.mem_append_left _ hexists
    · simp
  | modify object =>
    obtain ⟨hexists, hsome⟩ := Option.ite_none_right_eq_some.mp hstep
    obtain rfl := Option.some.inj hsome
    have hsame := names_modified c object
    exact sound_grow h (fun name member => hsame ▸ member) (hsame ▸ hexists)
  | delete object =>
    obtain ⟨-, hsome⟩ := Option.ite_none_right_eq_some.mp hstep
    obtain rfl := Option.some.inj hsome
    exact sound_delete h (hobserved.whileClosed object rfl)
  | connect =>
    cases hs : c.stream with
    | some s => simp [Cluster.step, hs] at hstep
    | none =>
      simp only [Cluster.step, hs] at hstep
      obtain rfl := Option.some.inj hstep
      exact sound_openStream (h.closed hs)
  | deliver answers =>
    cases hs : c.stream with
    | none => simp [Cluster.step, hs] at hstep
    | some s =>
      cases hqueue : s.queue with
      | nil => simp [Cluster.step, hs, hqueue] at hstep
      | cons entry rest =>
        simp only [Cluster.step, hs, hqueue] at hstep
        obtain rfl := Option.some.inj hstep
        exact sound_process (h.opened s hs) hqueue (hend s hs)
  | disconnect =>
    cases hs : c.stream with
    | none => simp [Cluster.step, hs] at hstep
    | some s =>
      simp only [Cluster.step, hs] at hstep
      obtain rfl := Option.some.inj hstep
      constructor
      · exact fun _ => hend s hs rfl
      · intro s' hs'
        cases hs'

theorem sound_reachable (h : Reachable settings DeletionsObserved c) : Sound c := by
  induction h with
  | start => exact sound_start cls
  | step action _ hstep hmeets ih => exact sound_step ih hstep hmeets

/-- In every run in which no registered engine's deletion goes unobserved, every
registered engine is an object that existed when the newest stream was opened, or
that an event after the initial ones has named since. Right after the initial
events there is none of the latter. -/
theorem no_ghost_engines (settings : Settings) (cls : K8sClass) (c : Cluster cls)
    (hreachable : Reachable settings DeletionsObserved c) (s : Stream cls)
    (hstream : c.stream = some s) :
    ∀ name ∈ c.engines, name ∈ s.opened ∨ name ∈ s.later :=
  ((sound_reachable hreachable).opened s hstream).announced

def podA : Pod := ⟨"a", some "10.0.0.1", [true], none, []⟩

def servesM : PodAnswers where
  models := .ok ["m"]
  isSleeping := .ok false
  containers := .ok []

/-- Nothing is deleted and no stream ends with a deletion in its queue. -/
theorem deletionsObserved_of_no_delete (haction : ∀ object, action ≠ .delete object)
    (hqueue : ∀ s ∈ c.stream, ∀ object, (.deleted, object) ∉ s.queue) :
    DeletionsObserved c action c' where
  whileClosed object h := absurd h (haction object)
  atEnd s hs _ object hqueued := absurd hqueued (hqueue s hs object)

theorem no_ghost_engines_reconnected : ∃ (c : Cluster .podIP) (s : Stream .podIP),
    Reachable portSettings DeletionsObserved c ∧ c.stream = some s ∧ s.initial = 0 ∧
    s.later = [] ∧ "a" ∈ c.engines ∧ ∀ name ∈ c.engines, name ∈ s.opened ∨ name ∈ s.later := by
  have hcreated : Reachable portSettings DeletionsObserved _ :=
    .step (.create podA : Action .podIP) .start rfl (deletionsObserved_of_no_delete nofun nofun)
  have hconnected : Reachable portSettings DeletionsObserved _ :=
    .step .connect hcreated rfl (deletionsObserved_of_no_delete nofun nofun)
  have hregistered : Reachable portSettings DeletionsObserved _ :=
    .step (.deliver servesM) hconnected rfl (deletionsObserved_of_no_delete nofun (by
      rintro s ⟨⟩ object member
      simp [Cluster.change, Cluster.start] at member))
  have hclosed : Reachable portSettings DeletionsObserved _ :=
    .step .disconnect hregistered rfl (deletionsObserved_of_no_delete nofun (by
      rintro s ⟨⟩ object member
      cases member))
  have hreopened : Reachable portSettings DeletionsObserved _ :=
    .step .connect hclosed rfl (deletionsObserved_of_no_delete nofun nofun)
  have hlisted : Reachable portSettings DeletionsObserved _ :=
    .step (.deliver servesM) hreopened rfl (deletionsObserved_of_no_delete nofun (by
      rintro s ⟨⟩ object member
      simp [Cluster.change, Cluster.start] at member))
  exact ⟨_, _, hlisted, rfl, rfl, rfl, by decide,
    no_ghost_engines portSettings .podIP _ hlisted _ rfl⟩

/-- The pod is deleted between two streams. The second one lists no object at
all, and the pod is still registered. -/
theorem deleted_between_streams_stays : ∃ (c : Cluster .podIP) (s : Stream .podIP),
    Reachable portSettings (fun _ _ _ => True) c ∧ c.stream = some s ∧ s.initial = 0 ∧
    s.later = [] ∧ s.opened = [] ∧ "a" ∈ c.engines := by
  have hcreated : Reachable portSettings (fun _ _ _ => True) _ :=
    .step (.create podA : Action .podIP) .start rfl trivial
  have hconnected : Reachable portSettings (fun _ _ _ => True) _ :=
    .step .connect hcreated rfl trivial
  have hregistered : Reachable portSettings (fun _ _ _ => True) _ :=
    .step (.deliver servesM) hconnected rfl trivial
  have hclosed : Reachable portSettings (fun _ _ _ => True) _ :=
    .step .disconnect hregistered rfl trivial
  have hdeleted : Reachable portSettings (fun _ _ _ => True) _ :=
    .step (.delete podA) hclosed rfl trivial
  have hreopened : Reachable portSettings (fun _ _ _ => True) _ :=
    .step .connect hdeleted rfl trivial
  exact ⟨_, _, hreopened, rfl, rfl, rfl, rfl, by decide⟩

end ProductionStack.Discovery
