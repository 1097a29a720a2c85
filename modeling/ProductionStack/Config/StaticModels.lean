import ProductionStack.Config.StaticHealth

/-!
The mappings under `static_models` and `static_aliases` of a YAML file. They become
texts, as on the command line, and the texts become lists and a mapping again.
-/

namespace ProductionStack.Config

open Lib Python

/-! Lists that are joined and split again. -/

theorem splitOn_intercalate {parts : List String} (hne : parts ≠ [])
    (h : ∀ part ∈ parts, ',' ∉ part.toList) : splitOn (",".intercalate parts) ',' = parts := by
  have hsplit : List.splitOn ',' ([','].intercalate (parts.map String.toList)) =
      parts.map String.toList := by
    apply List.splitOn_intercalate
    · simpa using h
    · simpa using hne
  rw [splitOn, String.toList_intercalate]
  change (List.splitOn ',' ([','].intercalate _)).map _ = _
  rw [hsplit, List.map_map]
  simp

theorem joinStrings_str (sep : String) (parts : List String) :
    Routing.joinStrings sep (parts.map .str) = .ok (sep.intercalate parts) := by
  induction parts with
  | nil => rfl
  | cons first rest ih =>
    cases rest with
    | nil => simp [Routing.joinStrings]
    | cons second rest =>
      rw [List.map_cons, Routing.joinStrings, ih, String.intercalate_cons_cons]
      · rfl
      · simp

/-! The models. -/

/-- A model of the file: its name, and what its details say of backends and type. -/
structure StaticModel where
  name : String
  details : List (String × Json)
  backends : Option (List String)
  type : Option String
  backends_eq : details.lookup "static_backends" = backends.map fun urls => .arr (urls.map .str)
  type_eq : details.lookup "static_model_type" = type.map .str

/-- The mapping in the file. -/
def yamlModels (models : List StaticModel) : List (String × Json) :=
  models.map fun m => (m.name, .obj m.details)

/-- The models that have backends. -/
def withBackends (models : List StaticModel) : List (StaticModel × List String) :=
  models.filterMap fun m => m.backends.map (m, ·)

/-- The backends in the order of the file, each with its model and the model's type. -/
def declared (models : List StaticModel) : List ((String × String) × Option String) :=
  (withBackends models).flatMap fun e => e.2.map fun url => ((url, e.1.name), e.1.type)

section Generate

variable (models : List StaticModel)

theorem staticBackendsOf_yamlModels : staticBackendsOf (yamlModels models) =
    .ok ((withBackends models).map fun e => (e.1.name, .obj e.1.details, e.2.map Json.str)) := by
  unfold staticBackendsOf yamlModels
  rw [mapM_map_ok (k := fun m =>
    (m.backends.map fun urls => (m.name, .obj m.details, urls.map Json.str)).toList)]
  · refine congrArg Except.ok ?_
    rw [withBackends, List.map_filterMap, List.filterMap_eq_flatMap_toList, List.flatMap]
    simp only [Option.map_map, Function.comp_def]
  · intro m
    simp only [Json.contains, Json.item, any_key_eq_lookup, m.backends_eq, Option.isSome_map]
    cases m.backends <;> rfl

theorem generateStaticBackends_eq : generateStaticBackends (yamlModels models) =
    .ok (",".intercalate ((declared models).map (·.1.1))) := by
  rw [generateStaticBackends, staticBackendsOf_yamlModels, ← joinStrings_str]
  change Routing.joinStrings "," _ = _
  simp [declared, List.flatMap_map, List.map_flatMap, Function.comp_def]

theorem generateStaticModels_eq : generateStaticModels (yamlModels models) =
    .ok (",".intercalate ((declared models).map (·.1.2))) := by
  rw [generateStaticModels, staticBackendsOf_yamlModels, ← joinStrings_str]
  change Routing.joinStrings "," _ = _
  simp [declared, List.flatMap_map, List.map_flatMap, Function.comp_def]

theorem generateStaticModelTypes_eq : generateStaticModelTypes (yamlModels models) =
    .ok (",".intercalate ((declared models).filterMap (·.2))) := by
  rw [generateStaticModelTypes, staticBackendsOf_yamlModels, ← joinStrings_str]
  change (List.mapM (m := Except PyExc) _ _ >>= _) = _
  rw [mapM_map_ok (k := fun e => e.1.type.elim [] fun type =>
    (e.2.map Json.str).map fun _ => .str type)]
  · change Routing.joinStrings "," _ = _
    rw [declared, List.filterMap_flatMap, List.map_flatMap, List.flatMap]
    congr 3
    funext e
    cases e.1.type <;> simp [Function.comp_def]
  · intro e
    simp only [Json.contains, Json.item, any_key_eq_lookup, e.1.type_eq, Option.isSome_map]
    cases e.1.type <;> rfl

theorem mem_declared {models : List StaticModel} {e : (String × String) × Option String} :
    e ∈ declared models ↔ ∃ m ∈ models, ∃ urls, m.backends = some urls ∧ e.1.1 ∈ urls ∧
      e.1.2 = m.name ∧ e.2 = m.type := by
  obtain ⟨⟨url, name⟩, type⟩ := e
  simp only [declared, withBackends, List.mem_flatMap, List.mem_filterMap, List.mem_map,
    Option.map_eq_some_iff, Prod.mk.injEq]
  constructor
  · rintro ⟨_, ⟨m, hm, urls, hurls, rfl⟩, _, hurl, ⟨rfl, rfl⟩, rfl⟩
    exact ⟨m, hm, urls, hurls, hurl, rfl, rfl⟩
  · rintro ⟨m, hm, urls, hurls, hurl, rfl, rfl⟩
    exact ⟨_, ⟨m, hm, urls, hurls, rfl⟩, url, hurl, ⟨rfl, rfl⟩, rfl⟩

end Generate

/-- What the discovery makes of the two texts are the backends of the file with their
models, one by one. -/
theorem static_models_round_trip (models : List StaticModel)
    (hnames : ∀ m ∈ models, ',' ∉ m.name.toList)
    (hurls : ∀ m ∈ models, ∀ urls, m.backends = some urls → ∀ url ∈ urls,
      ',' ∉ url.toList ∧ validateUrl url = true)
    (hne : declared models ≠ []) :
    ∃ backends names urls items, generateStaticBackends (yamlModels models) = .ok backends ∧
      generateStaticModels (yamlModels models) = .ok names ∧
      parseStaticUrls (.str backends) = .ok urls ∧
      parseCommaSeparatedArgs (.str names) = .ok (some items) ∧
      urls.zip items = (declared models).map Prod.fst := by
  have hvalid : ∀ url ∈ (declared models).map (·.1.1), ',' ∉ url.toList ∧ validateUrl url = true := by
    intro url hurl
    obtain ⟨e, he, rfl⟩ := List.mem_map.mp hurl
    obtain ⟨m, hm, urls, hbackends, hmem, -⟩ := mem_declared.mp he
    exact hurls m hm urls hbackends _ hmem
  have hnamed : ∀ name ∈ (declared models).map (·.1.2), ',' ∉ name.toList := by
    intro name hname
    obtain ⟨e, he, rfl⟩ := List.mem_map.mp hname
    obtain ⟨m, hm, _, -, -, hown, -⟩ := mem_declared.mp he
    exact hown ▸ hnames m hm
  refine ⟨_, _, _, _, generateStaticBackends_eq models, generateStaticModels_eq models, rfl, rfl, ?_⟩
  rw [splitOn_intercalate (by simpa using hne) fun url hurl => (hvalid url hurl).1,
    splitOn_intercalate (by simpa using hne) hnamed,
    List.filter_eq_self.mpr fun url hurl => (hvalid url hurl).2]
  exact (List.zip_of_prod (by simp) (by simp)).symm

/-- A model with one backend. -/
def plainModel (name url : String) (type : Option String) : StaticModel where
  name := name
  details := ("static_backends", .arr [.str url]) ::
    (type.map fun type => ("static_model_type", .str type)).toList
  backends := some [url]
  type := type
  backends_eq := rfl
  type_eq := by cases type <;> rfl

theorem static_models_round_trip_two : ∃ backends names urls items,
    generateStaticBackends (yamlModels [plainModel "a" "http://a" none, plainModel "b" "http://b" none]) =
        .ok backends ∧
      generateStaticModels (yamlModels [plainModel "a" "http://a" none, plainModel "b" "http://b" none]) =
        .ok names ∧
      parseStaticUrls (.str backends) = .ok urls ∧
      parseCommaSeparatedArgs (.str names) = .ok (some items) ∧
      urls.zip items = [("http://a", "a"), ("http://b", "b")] := by
  refine static_models_round_trip _ ?_ ?_ (by decide)
  · simp [plainModel]
  · simp [plainModel]
    decide

/-! The aliases. -/

theorem splitOn_entry (name model : String) :
    splitOn (name ++ ":" ++ model) ':' = splitOn name ':' ++ splitOn model ':' := by
  have happend := List.splitOnP_append_cons (p := (· == ':')) name.toList model.toList
    (beq_self_eq_true ':')
  simp [splitOn, List.splitOn, happend]

theorem splitOn_eq_singleton {s : String} {sep : Char} (h : sep ∉ s.toList) :
    splitOn s sep = [s] := by
  have hsplit : s.toList.splitOn sep = [s.toList] :=
    List.splitOnP_eq_singleton fun c hc => beq_eq_false_iff_ne.mpr fun hsep => h (hsep ▸ hc)
  simp [splitOn, hsplit]

theorem length_splitOn_pos (s : String) (sep : Char) : 0 < (splitOn s sep).length := by
  rw [splitOn, List.length_map]
  exact List.length_pos_iff.mpr (List.splitOn_ne_nil sep s.toList)

theorem length_splitOn_of_mem {s : String} {sep : Char} (h : sep ∈ s.toList) :
    1 < (splitOn s sep).length := by
  obtain ⟨front, rest, hs⟩ := List.append_of_mem h
  have happend := List.splitOnP_append_cons (p := (· == sep)) front rest (beq_self_eq_true sep)
  have hfront := List.length_pos_iff.mpr (List.splitOnP_ne_nil (· == sep) front)
  have hrest := List.length_pos_iff.mpr (List.splitOnP_ne_nil (· == sep) rest)
  rw [splitOn, List.length_map, hs, List.splitOn, happend, List.length_append]
  omega

/-- A mapping of aliases is read back exactly if there is no colon in a name: the parser
splits an entry at each of them. -/
theorem static_aliases_round_trip_iff (runtime : Runtime) (aliases : Dict String String)
    (hne : aliases.entries ≠ [])
    (hcommas : ∀ e ∈ aliases.entries, ',' ∉ e.1.toList ∧ ',' ∉ e.2.toList) :
    parseStaticAliases (.str (runtime.generateStaticAliases
        (aliases.entries.map fun e => (e.1, .str e.2)))) = .ok aliases ↔
      ∀ e ∈ aliases.entries, ':' ∉ e.1.toList ∧ ':' ∉ e.2.toList := by
  have htext : splitOn (runtime.generateStaticAliases
      (aliases.entries.map fun e => (e.1, .str e.2))) ',' =
      aliases.entries.map fun e => e.1 ++ ":" ++ e.2 := by
    rw [Runtime.generateStaticAliases, List.map_map]
    refine splitOn_intercalate (by simpa using hne) fun part hpart => ?_
    obtain ⟨e, he, rfl⟩ := List.mem_map.mp hpart
    simpa [Runtime.format] using hcommas e he
  change (splitOn _ ',').foldlM _ _ = _ ↔ _
  rw [htext, foldlM_map_ok_iff (g := fun acc e => acc.set e.1 e.2) (p := fun e =>
    ':' ∉ e.1.toList ∧ ':' ∉ e.2.toList)]
  · exact and_iff_left aliases.foldl_set_entries
  · rintro acc ⟨name, model⟩ ⟨hname, hmodel⟩
    rw [splitOn_entry, splitOn_eq_singleton hname, splitOn_eq_singleton hmodel]
    rfl
  · rintro acc ⟨name, model⟩ hcolon
    have hlong : 2 < (splitOn (name ++ ":" ++ model) ':').length := by
      have hfirst := length_splitOn_pos name ':'
      have hsecond := length_splitOn_pos model ':'
      rw [splitOn_entry, List.length_append]
      rcases not_and_or.mp hcolon with h | h
      · have hmore : 1 < (splitOn name ':').length := length_splitOn_of_mem (not_not.mp h)
        omega
      · have hmore : 1 < (splitOn model ':').length := length_splitOn_of_mem (not_not.mp h)
        omega
    generalize splitOn (name ++ ":" ++ model) ':' = parts at hlong ⊢
    rcases parts with _ | ⟨a, _ | ⟨b, _ | ⟨c, rest⟩⟩⟩
    · cases hlong
    · exact ⟨_, rfl⟩
    · simp at hlong
    · exact ⟨_, rfl⟩

theorem static_aliases_round_trip_one :
    parseStaticAliases (.str (asciiRuntime.generateStaticAliases [("gpt", .str "llama")])) =
      .ok (Dict.empty.set "gpt" "llama") :=
  (static_aliases_round_trip_iff asciiRuntime (Dict.empty.set "gpt" "llama") (by decide)
    (by decide)).mpr (by decide)

/-- The tag of a model comes after a colon. -/
theorem static_alias_of_tag :
    parseStaticAliases (.str (asciiRuntime.generateStaticAliases [("gpt", .str "llama:8b")])) =
      .error (.new .valueError "wrong number of values to unpack") := rfl

/-! The types of the health checks. -/

/-- The backends whose models have a type, with the type. -/
def typed (models : List StaticModel) : List ((String × String) × String) :=
  (declared models).filterMap fun e => e.2.map (e.1, ·)

/-- The mapping is accepted at startup, with health checks. -/
structure Accepted (models : List StaticModel) (args : Namespace) (d : StaticDiscovery) : Prop where
  backends : ∃ text, generateStaticBackends (yamlModels models) = .ok text ∧
    args (.field .staticBackends) = .str text
  names : ∃ text, generateStaticModels (yamlModels models) = .ok text ∧
    args (.field .staticModels) = .str text
  types : ∃ text, generateStaticModelTypes (yamlModels models) = .ok text ∧
    args (.field .staticModelTypes) = .str text
  healthChecks : (args (.field .staticBackendHealthChecks)).truthy = true
  checked : checkArgs args = .ok ()
  created : ∃ kube, createAtStartup kube args = .ok (.static d)

section Types

variable {models : List StaticModel} {args : Namespace} {d : StaticDiscovery}

theorem mem_modelTypes_of_checkArgs (hstatic : is (args (.field .serviceDiscovery)) "static" = true)
    (hchecks : (args (.field .staticBackendHealthChecks)).truthy = true) {text : String}
    (htypes : args (.field .staticModelTypes) = .str text) (h : checkArgs args = .ok ()) :
    ∀ type ∈ splitOn text ',', type ∈ modelTypes := by
  unfold checkArgs at h
  simp only [hstatic, hchecks, if_true, htypes] at h
  obtain ⟨_, -, h⟩ := bind_ok h
  obtain ⟨_, -, h⟩ := bind_ok h
  obtain ⟨_, h, -⟩ := bind_ok h
  intro type htype
  cases hfound : (splitOn text ',').find? fun name => !modelTypes.contains name with
  | some name =>
    obtain ⟨_, ⟨⟩, h⟩ := bind_ok h
    dsimp only at h
    rw [hfound] at h
    cases h
  | none => simpa using List.find?_eq_none.mp hfound type htype

/-- What the discovery is given. -/
theorem Accepted.modelTypes_eq (h : Accepted models args d) :
    d.modelTypes = some (splitOn (",".intercalate ((typed models).map Prod.snd)) ',') ∧
      ∀ type ∈ splitOn (",".intercalate ((typed models).map Prod.snd)) ',', type ∈ modelTypes := by
  obtain ⟨text, htext, htypes⟩ := h.types
  obtain ⟨kube, hcreated⟩ := h.created
  rcases createAtStartup_ok hcreated with ⟨_, ⟨⟩, hstatic⟩ | ⟨-, hclass, -⟩
  · have hmem := mem_modelTypes_of_checkArgs hstatic.type h.healthChecks htypes h.checked
    have hgiven := hstatic.modelTypes
    have hnames : (typed models).map Prod.snd = (declared models).filterMap (·.2) := by
      simp [typed, List.map_filterMap, Function.comp_def]
    rw [generateStaticModelTypes_eq, ← hnames] at htext
    obtain rfl := Except.ok.inj htext
    refine ⟨?_, hmem⟩
    rw [htypes, unlessEmpty, if_pos] at hgiven
    · exact (Except.ok.inj hgiven).symm
    · by_contra hempty
      have hnil : ",".intercalate ((typed models).map Prod.snd) = "" := by
        simpa [Value.str, Value.truthy, Json.truthy] using hempty
      rw [hnil] at hmem
      exact absurd (hmem "" (by decide)) (by decide)
  · exact absurd rfl hclass

variable {digest : String → String} {hash : String}

theorem mem_checkEach {checks : List (((String × String) × String) × Except PyExc Unit)}
    (h : hash ∈ (StaticDiscovery.checkEach digest checks).1) : ∃ c ∈ checks,
      hash = StaticDiscovery.getModelEndpointHash digest c.1.1 ∧
        isModelHealthy c.1.2 c.2 = .ok false := by
  induction checks with
  | nil => cases h
  | cons check rest ih =>
    obtain ⟨⟨entry, type⟩, exchange⟩ := check
    rw [StaticDiscovery.checkEach] at h
    cases hverdict : isModelHealthy type exchange with
    | error e => simp [hverdict] at h
    | ok healthy =>
      rw [hverdict] at h
      cases healthy with
      | true =>
        obtain ⟨c, hc, hfailed⟩ := ih h
        exact ⟨c, List.mem_cons_of_mem _ hc, hfailed⟩
      | false =>
        rcases List.mem_cons.mp h with rfl | h
        · exact ⟨_, List.mem_cons_self, rfl, hverdict⟩
        · obtain ⟨c, hc, hfailed⟩ := ih h
          exact ⟨c, List.mem_cons_of_mem _ hc, hfailed⟩

/-- What a round collects comes from probes that failed. -/
theorem failed_of_collected {exchanges : Nat → Except PyExc Unit} {types hashes : List String}
    (htypes : d.modelTypes = some types)
    (h : d.getUnhealthyEndpointHashes digest exchanges = .ok hashes) (hmem : hash ∈ hashes) :
    ∃ i p, (d.probes types)[i]? = some p ∧ hash = StaticDiscovery.getModelEndpointHash digest p.1 ∧
        isModelHealthy p.2 (exchanges i) = .ok false := by
  have hchecked : hashes = (StaticDiscovery.checkEach digest
      ((d.probes types).zipIdx.map fun p => (p.1, exchanges p.2))).1 := by
    simp only [StaticDiscovery.getUnhealthyEndpointHashes, htypes] at h
    split at h
    · exact (Except.ok.inj h).symm
    · split at h
      · exact (Except.ok.inj h).symm
      · cases h
  rw [hchecked] at hmem
  obtain ⟨c, hc, hfailed⟩ := mem_checkEach hmem
  obtain ⟨p, hp, rfl⟩ := List.mem_map.mp hc
  exact ⟨p.2, p.1, List.mem_zipIdx_iff_getElem?.mp hp, hfailed⟩

/-- Exactly the backends with a type are probed, each with the type of its own model, and
only those that fail such a probe are excluded. -/
def OwnTypes (models : List StaticModel) (d : StaticDiscovery) : Prop :=
  (∃ types, d.modelTypes = some types ∧ d.probes types = typed models) ∧
    ∀ digest exchanges hashes, d.getUnhealthyEndpointHashes digest exchanges = .ok hashes →
      ∀ hash ∈ hashes, ∃ i p, (typed models)[i]? = some p ∧
        hash = StaticDiscovery.getModelEndpointHash digest p.1 ∧
          isModelHealthy p.2 (exchanges i) = .ok false

theorem zip_map_append {α β : Type} (pairs : List (α × β)) (rest : List α) :
    (pairs.map Prod.fst ++ rest).zip (pairs.map Prod.snd) = pairs := by
  induction pairs with
  | nil => simp
  | cons pair pairs ih => simp [ih]

theorem map_fst_zip_prefix {α β : Type} (l : List α) (l' : List β) :
    (l.zip l').map Prod.fst <+: l := by
  induction l generalizing l' with
  | nil => simp
  | cons a l ih =>
    cases l' with
    | nil => simp
    | cons b l' => simpa using ih l'

theorem own_types_iff (h : Accepted models args d) :
    OwnTypes models d ↔ (∀ p ∈ typed models, ',' ∉ p.2.toList) ∧
      (typed models).map Prod.fst <+: d.entries := by
  obtain ⟨htypes, hmem⟩ := h.modelTypes_eq
  constructor
  · rintro ⟨⟨types, hgiven, hprobes⟩, -⟩
    obtain rfl := Option.some.inj (htypes.symm.trans hgiven)
    constructor
    · rintro ⟨entry, type⟩ hp
      rw [← hprobes] at hp
      have hcommas : ∀ type ∈ modelTypes, ',' ∉ type.toList := by decide
      exact hcommas type (hmem type (List.of_mem_zip hp).2)
    · rw [← hprobes]
      exact map_fst_zip_prefix d.entries _
  · rintro ⟨hcommas, rest, hrest⟩
    have hne : (typed models).map Prod.snd ≠ [] := by
      intro hnil
      rw [hnil] at hmem
      exact absurd (hmem "" (by decide)) (by decide)
    have hparts : ∀ part ∈ (typed models).map Prod.snd, ',' ∉ part.toList :=
      List.forall_mem_map.mpr hcommas
    rw [splitOn_intercalate hne hparts] at htypes
    have hprobes : d.probes ((typed models).map Prod.snd) = typed models := by
      rw [StaticDiscovery.probes, ← hrest, zip_map_append]
    refine ⟨⟨_, htypes, hprobes⟩, fun digest exchanges hashes hround hash hhash => ?_⟩
    rw [← hprobes]
    exact failed_of_collected htypes hround hhash

end Types

/-- What the command line of a start with health checks comes to. -/
def healthCheckedArgs (backends names types : String) : Namespace
  | .field .serviceDiscovery => .str "static"
  | .field .staticBackends => .str backends
  | .field .staticModels => .str names
  | .field .staticModelTypes => .str types
  | .field .staticBackendHealthChecks => .json (.bool true)
  | .startup .engineStatsInterval | .startup .requestStatsWindow => .json (.int 1)
  | .startup .sentryTracesSampleRate | .startup .sentryProfileSessionSampleRate => .json (.int 0)
  | _ => .null

/-- The discovery of a start with two backends, one type and health checks. -/
def twoBackends : StaticDiscovery :=
  ⟨["http://a", "http://b"], ["a", "b"], rfl, none, none, some ["chat"], .json (.bool true), .null,
    .null, .null, .null⟩

theorem accepted_two (first second : Option String)
    (htypes : [first, second].filterMap id = ["chat"]) :
    Accepted [plainModel "a" "http://a" first, plainModel "b" "http://b" second]
      (healthCheckedArgs "http://a,http://b" "a,b" "chat") twoBackends where
  backends := ⟨_, generateStaticBackends_eq _, rfl⟩
  names := ⟨_, generateStaticModels_eq _, rfl⟩
  types := by
    refine ⟨_, generateStaticModelTypes_eq _, ?_⟩
    have hdeclared : (declared [plainModel "a" "http://a" first,
        plainModel "b" "http://b" second]).filterMap (·.2) = [first, second].filterMap id := rfl
    rw [hdeclared, htypes]
    rfl
  healthChecks := rfl
  checked := rfl
  created := ⟨.ok (), rfl⟩

theorem own_types_first_typed :
    OwnTypes [plainModel "a" "http://a" (some "chat"), plainModel "b" "http://b" none] twoBackends :=
  (own_types_iff (accepted_two (some "chat") none rfl)).mpr ⟨by decide, by decide⟩

/-- The first model has no type, and its backend is probed with that of the second. -/
theorem untyped_model_probed :
    Accepted [plainModel "a" "http://a" none, plainModel "b" "http://b" (some "chat")]
        (healthCheckedArgs "http://a,http://b" "a,b" "chat") twoBackends ∧
      twoBackends.probes ["chat"] = [(("http://a", "a"), "chat")] ∧
      twoBackends.getUnhealthyEndpointHashes id
        (fun _ => .error (.new requestException "")) = .ok ["http://aa"] :=
  ⟨accepted_two none (some "chat") rfl, rfl, rfl⟩

end ProductionStack.Config
