import ProductionStack.Config.HotReload
import ProductionStack.Discovery.ClientSessions

/-!
Which engines are for prefill and which for decode. `--prefill-model-labels` and
`--decode-model-labels` name labels, separated by commas. A start passes the two texts
on as they are, and `in` on a text looks for a substring and takes no `None`; a reload
passes lists.
-/

namespace ProductionStack.Config

open Lib Python Request ProductionStack.Discovery

/-- A model label, as a value. -/
def labelJson : Option String → Json
  | none => .null
  | some label => .str label

/-- `label in labels`. -/
def inLabels (label : Option String) : Value → Except PyExc Bool
  | .json (.str s) =>
    match label with
    | some label => .ok (decide (label.toList <:+: s.toList))
    | none => .error (.new .typeError
        "'in <string>' requires string as left operand, not NoneType")
  | .json (.arr items) => .ok (items.any (labelJson label).pyEq)
  | .json (.obj fields) => .ok (label.any fun label => fields.any (·.1 = label))
  | _ => .error (.new .typeError "argument is not iterable")

/-- Whose client session `initialize_client_sessions` makes for an engine. -/
def clientRole (prefill decode : Value) (endpoint : EndpointInfo) : Except PyExc (Option Role) := do
  if ← inLabels endpoint.modelLabel prefill then pure (some .prefill)
  else if ← inLabels endpoint.modelLabel decode then pure (some .decode)
  else pure none

/-- The roles that `initialize_client_sessions` finds in its loop over the engines. -/
def clientRoles (prefill decode : Value) (endpoints : List EndpointInfo) :
    Except PyExc (List (Option Role)) :=
  if isNone prefill || isNone decode then .ok (endpoints.map fun _ => none)
  else endpoints.mapM (clientRole prefill decode)

/-- `[e for e in endpoints if e.model_label in labels]`. -/
def labelled (labels : Value) : List EndpointInfo → Except PyExc (List EndpointInfo)
  | [] => .ok []
  | endpoint :: rest => do
      let found ← inLabels endpoint.modelLabel labels
      let more ← labelled labels rest
      pure (if found then endpoint :: more else more)

/-! What the labels are meant to say. -/

/-- The engine has one of the labels that the text names. -/
def carries (value : String) (endpoint : EndpointInfo) : Bool :=
  endpoint.modelLabel.any (splitOn value ',').contains

/-- A role that is given to just the engines that have a label of it. -/
def RightRole (prefill decode : String) (endpoint : EndpointInfo) (role : Option Role) : Prop :=
  (role = some .prefill ↔ carries prefill endpoint) ∧
    (role = some .decode ↔ carries decode endpoint)

/-- Service discovery tells the engines apart as meant. Without engines of its own, it
has none to tell apart. -/
def Discovery.Classifies (discovery : Discovery) (prefill decode : String)
    (endpoints : List EndpointInfo) : Prop :=
  discovery.view.cls ≠ .externalOnly →
    ∃ roles, clientRoles discovery.view.prefillModelLabels discovery.view.decodeModelLabels
        endpoints = .ok roles ∧
      List.Forall₂ (RightRole prefill decode) endpoints roles

/-- So does a router that tells them apart at all. -/
def RouterState.Classifies (router : RouterState) (prefill decode : String)
    (endpoints : List EndpointInfo) : Prop :=
  ∀ labels, router.labels = some labels →
    labelled labels.1 endpoints = .ok (endpoints.filter (carries prefill)) ∧
    labelled labels.2 endpoints = .ok (endpoints.filter (carries decode))

/-- Whatever service discovery and router a start with these two texts creates. -/
def ClassifiedAtStartup (prefill decode : String) (endpoints : List EndpointInfo) : Prop :=
  ∀ args : Namespace, args (.field .prefillModelLabels) = .str prefill →
    args (.field .decodeModelLabels) = .str decode →
    (∀ kube discovery, createAtStartup kube args = .ok discovery →
      discovery.Classifies prefill decode endpoints) ∧
    (∀ surroundings router, routerAtStartup surroundings args = .ok router →
      router.state.Classifies prefill decode endpoints)

/-- The engine has a label, which is part of a text only as one of its labels, and is
not a label of both. -/
def Plain (prefill decode : String) (endpoint : EndpointInfo) : Prop :=
  ∃ label, endpoint.modelLabel = some label ∧
    (label.toList <:+: prefill.toList → label ∈ splitOn prefill ',') ∧
    (label.toList <:+: decode.toList → label ∈ splitOn decode ',') ∧
    ¬ (label ∈ splitOn prefill ',' ∧ label ∈ splitOn decode ',')

/-! The two loops. -/

theorem mapM_ok_forall₂_iff {ε α β : Type} {f : α → Except ε β} {P : α → β → Prop} {xs : List α} :
    (∃ ys, xs.mapM f = .ok ys ∧ List.Forall₂ P xs ys) ↔ ∀ x ∈ xs, ∃ y, f x = .ok y ∧ P x y := by
  induction xs with
  | nil => simp [pure, Except.pure]
  | cons x xs ih =>
    rw [List.forall_mem_cons, ← ih]
    simp only [List.mapM_cons, bind_ok_iff]
    constructor
    · rintro ⟨_, ⟨y, hy, ys, hys, ⟨⟩⟩, hforall⟩
      cases hforall with
      | cons hP hrest => exact ⟨⟨y, hy, hP⟩, ys, hys, hrest⟩
    · rintro ⟨⟨y, hy, hP⟩, ys, hys, hrest⟩
      exact ⟨y :: ys, ⟨y, hy, ys, hys, rfl⟩, .cons hP hrest⟩

variable {labels : Value} {endpoints : List EndpointInfo} {prefill decode : String}

theorem labelled_of_found {found : EndpointInfo → Bool}
    (h : ∀ e ∈ endpoints, inLabels e.modelLabel labels = .ok (found e)) :
    labelled labels endpoints = .ok (endpoints.filter found) := by
  induction endpoints with
  | nil => rfl
  | cons endpoint rest ih =>
    obtain ⟨hfirst, hrest⟩ := List.forall_mem_cons.mp h
    rw [labelled, hfirst, ih hrest, List.filter_cons]
    rfl

theorem found_of_labelled {found : List EndpointInfo} (h : labelled labels endpoints = .ok found) :
    ∀ e ∈ endpoints, ∃ b, inLabels e.modelLabel labels = .ok b := by
  induction endpoints generalizing found with
  | nil => simp
  | cons endpoint rest ih =>
    obtain ⟨b, hb, h⟩ := bind_ok h
    obtain ⟨more, hmore, -⟩ := bind_ok h
    exact List.forall_mem_cons.mpr ⟨⟨b, hb⟩, ih hmore⟩

/-- A list that is filtered as meant tells every engine as meant. -/
theorem labelled_eq_filter_iff {meant : EndpointInfo → Bool} :
    labelled labels endpoints = .ok (endpoints.filter meant) ↔
      ∀ e ∈ endpoints, inLabels e.modelLabel labels = .ok (meant e) := by
  constructor
  · intro h e he
    obtain ⟨b, hb⟩ := found_of_labelled h e he
    let found (e : EndpointInfo) : Bool := (inLabels e.modelLabel labels).toOption.getD false
    have hfound : ∀ e ∈ endpoints, inLabels e.modelLabel labels = .ok (found e) := by
      intro e he
      obtain ⟨b, hb⟩ := found_of_labelled h e he
      simp [found, hb, Except.toOption]
    have hfilter : endpoints.filter found = endpoints.filter meant :=
      Except.ok.inj ((labelled_of_found hfound).symm.trans h)
    have hmem : found e = true ↔ meant e = true := by
      have hboth := congrArg (e ∈ ·) hfilter
      simpa [he] using hboth
    rw [hfound e he, Bool.eq_iff_iff.mpr hmem]
  · exact labelled_of_found

/-! Texts. -/

variable {label value : String}

theorem isInfix_of_mem_splitOn {sep : Char} (h : label ∈ splitOn value sep) :
    label.toList <:+: value.toList := by
  obtain ⟨part, hpart, rfl⟩ := List.mem_map.mp h
  have hjoin : [sep].intercalate (value.toList.splitOn sep) = value.toList :=
    List.intercalate_splitOn sep
  rw [String.toList_ofList, ← hjoin]
  exact isInfix_intercalate hpart

variable {endpoint : EndpointInfo} {args : Namespace}

theorem carries_some (h : endpoint.modelLabel = some label) (value : String) :
    carries value endpoint = true ↔ label ∈ splitOn value ',' := by
  simp [carries, h]

theorem inLabels_str (h : endpoint.modelLabel = some label) (value : String) :
    inLabels endpoint.modelLabel (.str value) = .ok (decide (label.toList <:+: value.toList)) := by
  rw [h]
  rfl

/-- A text tells an engine as meant if the engine has a label, which is not merely a
part of the text. -/
theorem inLabels_str_iff :
    inLabels endpoint.modelLabel (.str value) = .ok (carries value endpoint) ↔
      ∃ label, endpoint.modelLabel = some label ∧
        (label.toList <:+: value.toList → label ∈ splitOn value ',') := by
  cases hlabel : endpoint.modelLabel with
  | none =>
    constructor
    · intro h
      cases h
    · rintro ⟨label, h, -⟩
      cases h
  | some label =>
    rw [← hlabel, inLabels_str hlabel, Except.ok.injEq, Bool.eq_iff_iff, decide_eq_true_eq,
      carries_some hlabel, hlabel]
    simp only [Option.some.injEq, exists_eq_left']
    exact ⟨fun h => h.mp, fun h => ⟨h, isInfix_of_mem_splitOn⟩⟩

/-- The role that a start gives an engine with a label. -/
theorem clientRole_str (h : endpoint.modelLabel = some label) (prefill decode : String) :
    clientRole (.str prefill) (.str decode) endpoint =
      .ok (if label.toList <:+: prefill.toList then some .prefill
        else if label.toList <:+: decode.toList then some .decode else none) := by
  rw [clientRole, inLabels_str h, inLabels_str h]
  by_cases hprefill : label.toList <:+: prefill.toList <;>
    by_cases hdecode : label.toList <:+: decode.toList <;>
    simp [hprefill, hdecode, bind, Except.bind, pure, Except.pure]

theorem clientRole_right (h : Plain prefill decode endpoint) :
    ∃ role, clientRole (.str prefill) (.str decode) endpoint = .ok role ∧
      RightRole prefill decode endpoint role := by
  obtain ⟨label, hlabel, hprefill, hdecode, hboth⟩ := h
  refine ⟨_, clientRole_str hlabel prefill decode, ?_⟩
  rw [RightRole, carries_some hlabel, carries_some hlabel]
  by_cases hinPrefill : label.toList <:+: prefill.toList
  · have hmem := hprefill hinPrefill
    have hnot : label ∉ splitOn decode ',' := fun hmem' => hboth ⟨hmem, hmem'⟩
    simp [hinPrefill, hmem, hnot]
  · have hnot : label ∉ splitOn prefill ',' := fun hmem => hinPrefill (isInfix_of_mem_splitOn hmem)
    by_cases hinDecode : label.toList <:+: decode.toList
    · simp [hinPrefill, hinDecode, hnot, hdecode hinDecode]
    · have hnot' : label ∉ splitOn decode ',' :=
        fun hmem => hinDecode (isInfix_of_mem_splitOn hmem)
      simp [hinPrefill, hinDecode, hnot, hnot']

/-- The empty label is part of every text. -/
theorem Plain.label_ne_empty (h : Plain prefill decode endpoint) :
    endpoint.modelLabel ≠ some "" := by
  obtain ⟨label, hlabel, hprefill, hdecode, hboth⟩ := h
  rintro hempty
  obtain rfl := Option.some.inj (hlabel.symm.trans hempty)
  exact hboth ⟨hprefill (List.nil_infix), hdecode (List.nil_infix)⟩

/-- `labels or []` changes nothing for such a label. -/
theorem inLabels_orEmpty
    (h : inLabels endpoint.modelLabel (.str value) = .ok (carries value endpoint))
    (hne : endpoint.modelLabel ≠ some "") :
    inLabels endpoint.modelLabel (orEmpty (.str value)) = .ok (carries value endpoint) := by
  by_cases hvalue : value = ""
  · have hcarries : carries value endpoint = false := by
      rw [hvalue]
      cases hlabel : endpoint.modelLabel with
      | none => simp [carries, hlabel]
      | some label =>
        have hlabel_ne : label ≠ "" := fun heq => hne (by rw [hlabel, heq])
        simp [carries, hlabel, splitOn, hlabel_ne]
    rw [hcarries, hvalue]
    rfl
  · have htruthy : orEmpty (.str value) = .str value := by
      simp [orEmpty, Value.truthy, Value.str, Json.truthy, hvalue]
    rw [htruthy, h]

theorem Plain.inLabels_prefill (h : Plain prefill decode endpoint) :
    inLabels endpoint.modelLabel (.str prefill) = .ok (carries prefill endpoint) := by
  obtain ⟨label, hlabel, hprefill, -⟩ := h
  exact inLabels_str_iff.mpr ⟨label, hlabel, hprefill⟩

theorem Plain.inLabels_decode (h : Plain prefill decode endpoint) :
    inLabels endpoint.modelLabel (.str decode) = .ok (carries decode endpoint) := by
  obtain ⟨label, hlabel, -, hdecode, -⟩ := h
  exact inLabels_str_iff.mpr ⟨label, hlabel, hdecode⟩

/-- A label that both tell as meant is not a label of both. -/
theorem plain_of_classified
    (hprefill : inLabels endpoint.modelLabel (.str prefill) = .ok (carries prefill endpoint))
    (hdecode : inLabels endpoint.modelLabel (.str decode) = .ok (carries decode endpoint))
    (hrole : ∃ role, clientRole (.str prefill) (.str decode) endpoint = .ok role ∧ RightRole prefill decode endpoint role) :
    Plain prefill decode endpoint := by
  obtain ⟨label, hlabel, hprefill⟩ := inLabels_str_iff.mp hprefill
  obtain ⟨label', hlabel', hdecode⟩ := inLabels_str_iff.mp hdecode
  obtain rfl := Option.some.inj (hlabel.symm.trans hlabel')
  refine ⟨label, hlabel, hprefill, hdecode, ?_⟩
  rintro ⟨hmem, hmem'⟩
  obtain ⟨role, -, hright⟩ := hrole
  rw [RightRole, carries_some hlabel, carries_some hlabel] at hright
  have hrole := hright.1.mpr hmem
  rw [hright.2.mpr hmem'] at hrole
  cases hrole

/-! A start. -/

/-- A start passes the two values on as they are. -/
theorem createAtStartup_labels {kube : KubeClient} {discovery : Discovery}
    (h : createAtStartup kube args = .ok discovery) (hown : discovery.view.cls ≠ .externalOnly) :
    discovery.view.prefillModelLabels = args (.field .prefillModelLabels) ∧
      discovery.view.decodeModelLabels = args (.field .decodeModelLabels) := by
  unfold createAtStartup at h
  dsimp only at h
  split at h
  · obtain ⟨urls, -, h⟩ := bind_ok h
    obtain ⟨models, -, h⟩ := bind_ok h
    obtain ⟨aliases, -, h⟩ := bind_ok h
    obtain ⟨modelTypes, -, h⟩ := bind_ok h
    obtain ⟨modelLabels, -, h⟩ := bind_ok h
    obtain ⟨d, rfl, -, -, -, -, hprefill, hdecode, -⟩ := create_ok h
    exact ⟨hprefill, hdecode⟩
  · split at h
    · obtain ⟨serviceName, -, h⟩ := bind_ok h
      obtain ⟨_, -, h⟩ := bind_ok h
      obtain rfl := Except.ok.inj h
      cases serviceName <;> exact ⟨rfl, rfl⟩
    · split at h
      · obtain rfl := Except.ok.inj h
        exact absurd rfl hown
      · cases h

/-- The values that a router has, if it has any. -/
theorem routerAtStartup_labels {surroundings : RouterSurroundings}
    {router : Router} (h : routerAtStartup surroundings args = .ok router) {labels : Value × Value}
    (hlabels : router.state.labels = some labels) :
    labels = (args (.field .prefillModelLabels), args (.field .decodeModelLabels)) ∨
      labels = (orEmpty (args (.field .prefillModelLabels)),
        orEmpty (args (.field .decodeModelLabels))) := by
  obtain ⟨logic, -, hview⟩ := initializeRoutingLogic_view h
  have hlogic : router.state.labels = (routingArgumentsAtStartup args).labelsOf logic :=
    congrArg RouterView.labels hview
  rw [hlabels] at hlogic
  cases logic with
  | disaggregatedPrefill => exact .inl (Option.some.inj hlogic)
  | disaggregatedPrefillOrchestrated => exact .inr (Option.some.inj hlogic)
  | roundRobin | sessionBased | kvaware | loadaware | prefixaware | priority => cases hlogic

theorem classifiedAtStartup_of_plain (h : ∀ endpoint ∈ endpoints, Plain prefill decode endpoint) :
    ClassifiedAtStartup prefill decode endpoints := by
  intro args hprefill hdecode
  constructor
  · intro kube discovery hcreate hown
    obtain ⟨hp, hd⟩ := createAtStartup_labels hcreate hown
    rw [hp, hd, hprefill, hdecode]
    have hroles := mapM_ok_forall₂_iff.mpr fun e he => clientRole_right (h e he)
    exact hroles
  · intro surroundings router hrouter labels hlabels
    rcases routerAtStartup_labels hrouter hlabels with rfl | rfl
    · rw [hprefill, hdecode, labelled_eq_filter_iff, labelled_eq_filter_iff]
      exact ⟨fun e he => (h e he).inLabels_prefill, fun e he => (h e he).inLabels_decode⟩
    · rw [hprefill, hdecode, labelled_eq_filter_iff, labelled_eq_filter_iff]
      constructor
      · intro e he
        exact inLabels_orEmpty (h e he).inLabels_prefill (h e he).label_ne_empty
      · intro e he
        exact inLabels_orEmpty (h e he).inLabels_decode (h e he).label_ne_empty

/-- Arguments that name Kubernetes and the router for disaggregated prefill. -/
def disaggregatedArgs (prefill decode : String) : Namespace
  | .field .serviceDiscovery => .str "k8s"
  | .field .routingLogic => .str "disaggregated_prefill"
  | .field .prefillModelLabels => .str prefill
  | .field .decodeModelLabels => .str decode
  | _ => .null

theorem plain_of_classifiedAtStartup (h : ClassifiedAtStartup prefill decode endpoints) :
    ∀ endpoint ∈ endpoints, Plain prefill decode endpoint := by
  intro endpoint hendpoint
  obtain ⟨hdiscovery, hrouter⟩ := h (disaggregatedArgs prefill decode) rfl rfl
  have hroles := hdiscovery (.ok ()) _ rfl nofun
  obtain ⟨hprefill, hdecode⟩ := hrouter ⟨.ok (), .ok⟩ _ rfl _ rfl
  rw [labelled_eq_filter_iff] at hprefill hdecode
  have hrole := mapM_ok_forall₂_iff.mp hroles endpoint hendpoint
  exact plain_of_classified (hprefill endpoint hendpoint) (hdecode endpoint hendpoint) hrole

/-- A start classifies every engine of a list as meant just when each has a label that
is part of neither text unless as one of its labels, and is not a label of both. -/
theorem classifiedAtStartup_iff (prefill decode : String) (endpoints : List EndpointInfo) :
    ClassifiedAtStartup prefill decode endpoints ↔
      ∀ endpoint ∈ endpoints, Plain prefill decode endpoint :=
  ⟨plain_of_classifiedAtStartup, classifiedAtStartup_of_plain⟩

def engineWith (label : Option String) : EndpointInfo := ⟨"http://a", ["m"], "1", label, false⟩

theorem classifiedAtStartup_two :
    ClassifiedAtStartup "p1,p2" "d" [engineWith (some "p2"), engineWith (some "d")] := by
  refine (classifiedAtStartup_iff "p1,p2" "d" _).mpr (List.forall_mem_cons.mpr ⟨?_, ?_⟩)
  · exact ⟨"p2", rfl, by decide, by decide, by decide⟩
  · exact List.forall_mem_singleton.mpr ⟨"d", rfl, by decide, by decide, by decide⟩

/-- A label that is part of another is taken for it, and an engine without a label
raises. -/
theorem misclassified_at_startup :
    ¬ ClassifiedAtStartup "model10" "d" [engineWith (some "model1")] ∧
    ¬ ClassifiedAtStartup "p" "d" [engineWith none] ∧
    labelled (.str "model10") [engineWith (some "model1")] = .ok [engineWith (some "model1")] ∧
    carries "model10" (engineWith (some "model1")) = false := by
  refine ⟨?_, ?_, rfl, by decide⟩
  · intro h
    obtain ⟨_, ⟨⟩, hprefill, -⟩ := plain_of_classifiedAtStartup h _ List.mem_cons_self
    exact absurd (hprefill (by decide)) (by decide)
  · intro h
    obtain ⟨_, hlabel, -⟩ := plain_of_classifiedAtStartup h _ List.mem_cons_self
    cases hlabel

end ProductionStack.Config
