import ProductionStack.Lib.Journal
import ProductionStack.Routing.Kvaware

/-!
Which instance a URL is credited with. The table of instance ids is only ever
assigned to, and both routers read it backwards, from the URLs to the ids. An engine
that restarts gets a new id and leaves its old one behind in the table, so what is
read for its URL should be the id that was written for it last.
-/

namespace ProductionStack.Routing

open Lib Python Request

/-- The id that was written for a URL last. -/
def lastInstance (writes : List (InstanceId × String)) (url : String) : Option InstanceId :=
  (latest Prod.snd url writes).map Prod.fst

/-- The inverted table holds for a URL the last of its entries. -/
theorem get?_urlToInstance (table : Dict InstanceId String) (live : String → Bool) (url : String) :
    (urlToInstance table live).get? url =
      if live url then (latest Prod.snd url table.entries).map Prod.fst else none := by
  unfold urlToInstance
  induction table.entries using List.reverseRecOn with
  | nil => simp [latest]
  | append_singleton entries entry ih =>
    obtain ⟨holder, last⟩ := entry
    rw [List.foldl_append, List.foldl_cons, List.foldl_nil, latest_append]
    dsimp only
    by_cases hurl : last = url
    · subst hurl
      by_cases hlive : live last
      · rw [if_pos hlive, if_pos rfl, if_pos hlive, Dict.get?_set_self]
        rfl
      · rw [if_neg hlive, if_neg hlive, ih, if_neg hlive]
    · rw [if_neg hurl, ← ih]
      split
      · exact Dict.get?_set_of_ne _ _ (Ne.symm hurl)
      · rfl

namespace LoadAwareRouter

/-- `matched_tokens_by_url`. -/
def matchedTokensByUrl (table : Dict InstanceId String) (layout : Layout) : Dict String Int :=
  (urlToInstance table fun _ => true).entries.foldl
    (fun matched entry => (layout.get? entry.2).elim matched (matched.set entry.1)) .empty

variable (table : Dict InstanceId String) (layout : Layout)

theorem get?_matchedTokensByUrl (url : String) :
    (matchedTokensByUrl table layout).get? url =
      ((urlToInstance table fun _ => true).get? url).bind layout.get? :=
  Dict.get?_foldl_entries _ layout.get? url

/-- The tokens that a URL is scored with. -/
theorem matchedTokens_eq (url : String) :
    matchedTokens table layout url = (matchedTokensByUrl table layout).getD url 0 := by
  unfold matchedTokens Dict.getD
  rw [get?_matchedTokensByUrl]
  cases (urlToInstance table fun _ => true).get? url <;> rfl

end LoadAwareRouter

namespace KvawareRouter

/-- The holders that `route_request` chooses among. -/
def liveHolders (table : Dict InstanceId String) (endpoints : List EndpointInfo)
    (layout : Layout) : List InstanceId :=
  layout.keys.filter ((urlToInstance table ((urlsOf endpoints).contains ·)).values.contains ·)

theorem matchedInstance_eq (table : Dict InstanceId String) (endpoints : List EndpointInfo)
    (layout : Layout) :
    matchedInstance table endpoints layout =
      firstBest (fun holder best => layout.getD best 0 < layout.getD holder 0)
        (liveHolders table endpoints layout) := rfl

theorem mem_liveHolders {table : Dict InstanceId String} {endpoints : List EndpointInfo}
    {layout : Layout} {holder : InstanceId} :
    holder ∈ liveHolders table endpoints layout ↔ holder ∈ layout ∧ ∃ url ∈ urlsOf endpoints,
        (latest Prod.snd url table.entries).map Prod.fst = some holder := by
  unfold liveHolders
  rw [List.mem_filter, List.contains_iff_mem, Dict.mem_values_iff]
  simp only [get?_urlToInstance, List.contains_iff_mem]
  refine and_congr_right fun _ => exists_congr fun url => ?_
  split
  · next hmem => exact (and_iff_right hmem).symm
  · next hmem =>
      constructor
      · intro h
        cases h
      · rintro ⟨hurl, -⟩
        exact absurd hurl hmem

end KvawareRouter

/-- An endpoint at a URL. -/
def endpointAt (url : String) : EndpointInfo := ⟨url, [], "", none, false⟩

/-- A layout in which a single instance holds one token. -/
def layoutOf (id : InstanceId) : Layout := Dict.empty.set id 1

theorem get?_layoutOf (id id' : InstanceId) :
    (layoutOf id).get? id' = if id' = id then some 1 else none :=
  Dict.get?_set _ _ _ _

/-- Two ids agree if every layout does. -/
theorem eq_of_bind_layoutOf {found last : Option InstanceId}
    (h : ∀ layout : Layout, found.bind layout.get? = last.bind layout.get?) : found = last := by
  cases found with
  | none =>
    cases last with
    | none => rfl
    | some id =>
      have hid := h (layoutOf id)
      rw [Option.bind_none, Option.bind_some, get?_layoutOf, if_pos rfl] at hid
      cases hid
  | some id =>
    have hid := h (layoutOf id)
    rw [Option.bind_some, get?_layoutOf, if_pos rfl] at hid
    cases last with
    | none => cases hid
    | some id' =>
      rw [Option.bind_some, get?_layoutOf] at hid
      split at hid
      · next heq => rw [heq]
      · cases hid

/-- The tables of `writes`, read backwards, show the ids that were written last. -/
theorem map_latest_entries_iff (writes : List (InstanceId × String)) :
    (∀ url, (latest Prod.snd url (Dict.empty.assign writes).entries).map Prod.fst =
      lastInstance writes url) ↔ Foremost writes := by
  rw [← latest_entries_eq_iff]
  refine forall_congr' fun url => ⟨?_, fun h => congrArg (Option.map Prod.fst) h⟩
  -- Both entries are about `url`, so their ids tell them apart.
  have hsnd (entries : List (InstanceId × String)) : latest Prod.snd url entries =
        ((latest Prod.snd url entries).map Prod.fst).map fun id => (id, url) := by
    cases hlatest : latest Prod.snd url entries with
    | none => rfl
    | some entry =>
      obtain ⟨id, last⟩ := entry
      obtain rfl := (latest_mem hlatest).2
      rfl
  intro h
  rw [hsnd, h, hsnd writes]
  rfl

/-- For every journal of the table: each URL is credited with the match of the id
that was written for it last, and with no other, exactly if that id still has its
place at the URL and entered the table after every other id that has. This holds of
either router. -/
theorem lastInstance_credited_iff (writes : List (InstanceId × String)) :
    ((∀ (layout : Layout) (url : String),
        (LoadAwareRouter.matchedTokensByUrl (Dict.empty.assign writes) layout).get? url =
          (lastInstance writes url).bind layout.get?) ↔ Foremost writes) ∧
    ((∀ (endpoints : List EndpointInfo) (layout : Layout) (holder : InstanceId),
        holder ∈ KvawareRouter.liveHolders (Dict.empty.assign writes) endpoints layout ↔
          holder ∈ layout ∧ ∃ url ∈ urlsOf endpoints, lastInstance writes url = some holder) ↔
      Foremost writes) := by
  rw [← map_latest_entries_iff]
  constructor
  · simp only [LoadAwareRouter.get?_matchedTokensByUrl, get?_urlToInstance, if_true]
    constructor
    · intro h url
      exact eq_of_bind_layoutOf fun layout => h layout url
    · intro h layout url
      rw [h url]
  · simp only [KvawareRouter.mem_liveHolders]
    constructor
    · intro h url
      ext id
      have hid := h [endpointAt url] (layoutOf id) id
      have hmem : id ∈ layoutOf id := (Dict.mem_set _ _ _ _).mpr (Or.inl rfl)
      simpa [hmem, urlsOf, endpointAt] using hid
    · intro h endpoints layout holder
      simp only [h]

/-- An engine that answers again with the id it had before. -/
def returningWrites : List (InstanceId × String) :=
  [(some "a", "http://engine:8000"), (some "b", "http://engine:8000"),
    (some "a", "http://engine:8000")]

/-- The id keeps the place it had, so the one in between is still read. -/
theorem returning_instance_uncredited :
    lastInstance returningWrites "http://engine:8000" = some (some "a") ∧
    (LoadAwareRouter.matchedTokensByUrl (Dict.empty.assign returningWrites)
      (layoutOf (some "a"))).get? "http://engine:8000" = none ∧
    KvawareRouter.liveHolders (Dict.empty.assign returningWrites)
      [endpointAt "http://engine:8000"] (layoutOf (some "b")) = [some "b"] := by
  decide

end ProductionStack.Routing
