import Mathlib.Algebra.BigOperators.Group.Finset.Basic
import Mathlib.Algebra.BigOperators.Ring.Finset
import Mathlib.Algebra.Order.BigOperators.Group.Finset
import Mathlib.Algebra.Order.Field.Basic
import Mathlib.Tactic.FieldSimp
import Mathlib.Tactic.Linarith
import Mathlib.Tactic.Ring
import ProductionStack.Lib.Argmax
import ProductionStack.Routing.Kvaware

/-!
Where the load-aware router places a request, with scores as exact numbers: the
best of the endpoint URLs by their score. A change of one load moves the mean, and
with it the score of every endpoint, but between two endpoints only the difference
of their loads counts, and what it is divided by.
-/

namespace ProductionStack.Routing.LoadAwareRouter

open Lib Python Stats Request

/-! `score_endpoint` and `select_url` on exact numbers. -/

def benefit (matchedTokens promptTokens : Int) : ℚ :=
  min matchedTokens promptTokens / max promptTokens 1

def exactScore (beta : ℚ) (matchedTokens promptTokens : Int) (relativeLoad : ℚ) : ℚ :=
  benefit matchedTokens promptTokens - beta * relativeLoad

def exactSelectUrl (beta : ℚ) (table : Dict InstanceId String) (args : RouteArgs)
    (layout : Layout) (promptTokens : Nat) : Except PyExc (Option String) :=
  let score (url : String) := exactScore beta (matchedTokens table layout url) promptTokens
    (relativeLoad args.requestStats args.endpoints url)
  selectLoop (fun url => .ok (.finite (score url)))
    (args.endpoints.insertionSort fun a b => a.url ≤ b.url) none .negInf

theorem benefit_eq (matchedTokens promptTokens : Int) : benefit matchedTokens promptTokens =
      min (matchedTokens : ℚ) promptTokens / max (promptTokens : ℚ) 1 := by
  simp [benefit]

theorem maxPrompt_pos (promptTokens : Int) : (0 : ℚ) < max (promptTokens : ℚ) 1 :=
  lt_max_of_lt_right one_pos

theorem benefit_mono {a b : Int} (h : a ≤ b) (promptTokens : Int) :
    benefit a promptTokens ≤ benefit b promptTokens := by
  have hcast : (a : ℚ) ≤ b := by exact_mod_cast h
  rw [benefit_eq, benefit_eq]
  exact div_le_div_of_nonneg_right (min_le_min_right _ hcast) (maxPrompt_pos promptTokens).le

theorem abs_benefit_le_one {matchedTokens : Int} (h : 0 ≤ matchedTokens) (promptTokens : Nat) :
    |benefit matchedTokens promptTokens| ≤ 1 := by
  have hmatched : (0 : ℚ) ≤ matchedTokens := by exact_mod_cast h
  have hprompt : (0 : ℚ) ≤ ((promptTokens : Int) : ℚ) := by exact_mod_cast Int.natCast_nonneg _
  rw [benefit_eq, abs_of_nonneg, div_le_one (maxPrompt_pos promptTokens)]
  · exact (min_le_right _ _).trans (le_max_left _ _)
  · exact div_nonneg (le_min hmatched hprompt) (maxPrompt_pos promptTokens).le

theorem one_lt_floatOverflow : 1 < floatOverflow := by
  have hpow : (1 : ℚ) ≤ 2 ^ 970 := one_le_pow₀ (by norm_num)
  have hsplit : (2 : ℚ) ^ 1024 = 2 ^ 970 * 2 ^ 54 := by rw [← pow_add]
  unfold floatOverflow
  rw [hsplit]
  generalize (2 : ℚ) ^ 970 = x at hpow
  linarith

variable {beta : ℚ} {table : Dict InstanceId String} {layout : Layout} {args : RouteArgs} {c : Int}

/-- With a finite weight and token counts, `select_url` is that. -/
theorem selectUrl_eq_exact {router : LoadAwareRouter} (hbeta : router.beta = .finite beta)
    (args : RouteArgs) (promptTokens : Nat) (htokens : ∀ url, 0 ≤ matchedTokens table layout url) :
    router.selectUrl table args layout promptTokens =
      exactSelectUrl beta table args layout promptTokens := by
  have hscore (url : String) (relative : ℚ) :
      router.scoreEndpoint (matchedTokens table layout url) promptTokens relative =
        .ok (.finite (exactScore beta (matchedTokens table layout url) promptTokens relative)) := by
    have hfits : ¬ floatOverflow ≤ |benefit (matchedTokens table layout url) promptTokens| :=
      not_le.mpr (lt_of_le_of_lt (abs_benefit_le_one (htokens url) promptTokens)
        one_lt_floatOverflow)
    unfold benefit at hfits
    unfold scoreEndpoint
    rw [if_neg hfits, hbeta]
    rfl
  unfold selectUrl exactSelectUrl
  simp only [hscore]

/-! The loop finds the best. -/

theorem selectLoop_eq (score : String → ℚ) (endpoints : List EndpointInfo) (best : String) :
    selectLoop (fun url => .ok (.finite (score url))) endpoints (some best) (.finite (score best)) =
      .ok (some ((urlsOf endpoints).foldl
        (fun best url => if score best < score url then url else best) best)) := by
  induction endpoints generalizing best with
  | nil => rfl
  | cons info rest ih =>
    by_cases hlt : score best < score info.url
    · simpa [selectLoop, exceeds, urlsOf, hlt] using ih info.url
    · simpa [selectLoop, exceeds, urlsOf, hlt] using ih best

/-- The fleet's mean load, over the distinct URLs. -/
def meanLoad (requestStats : Dict String RequestStats) (urls : Finset String) : ℚ :=
  (∑ url ∈ urls, (loadPenalty requestStats url : ℚ)) / urls.card

/-- What an endpoint is worth. -/
def score (beta : ℚ) (table : Dict InstanceId String) (layout : Layout) (promptTokens : Nat)
    (requestStats : Dict String RequestStats) (urls : Finset String) (url : String) : ℚ :=
  min (matchedTokens table layout url : ℚ) promptTokens / max (promptTokens : ℚ) 1 -
    beta * ((loadPenalty requestStats url - meanLoad requestStats urls) /
      max 1 (meanLoad requestStats urls))

variable {url : String} {requestStats requestStats' : Dict String RequestStats}
  {urls : Finset String}

/-- The dictionary of `relative_loads` has every URL once. -/
theorem relativeLoad_eq (requestStats : Dict String RequestStats) (endpoints : List EndpointInfo)
    (hurl : url ∈ urlsOf endpoints) : relativeLoad requestStats endpoints url =
      (loadPenalty requestStats url - meanLoad requestStats (urlsOf endpoints).toFinset) /
        max 1 (meanLoad requestStats (urlsOf endpoints).toFinset) := by
  let loads : Dict String Int := .tabulate (loadPenalty requestStats) (urlsOf endpoints)
  have hloads : endpoints.foldl (fun loads endpoint =>
      loads.set endpoint.url (loadPenalty requestStats endpoint.url)) .empty = loads := by
    simp only [loads, Dict.tabulate, urlsOf, List.foldl_map]
  have hnodup : loads.keys.Nodup := loads.nodupKeys
  have hkeys : loads.keys.toFinset = (urlsOf endpoints).toFinset := by
    ext url
    rw [List.mem_toFinset, List.mem_toFinset]
    exact Dict.mem_tabulate _ _ url
  have hsum : ((loads.values.sum : Int) : ℚ) =
      ∑ url ∈ (urlsOf endpoints).toFinset, (loadPenalty requestStats url : ℚ) := by
    rw [Dict.values_tabulate, ← List.sum_toFinset _ hnodup, hkeys]
    push_cast
    rfl
  have hsize : loads.size = (urlsOf endpoints).toFinset.card := by
    rw [← hkeys, List.toFinset_card_of_nodup hnodup]
    simp [Dict.size, Dict.keys]
  have hmean : ((loads.values.sum : Int) : ℚ) / loads.size =
      meanLoad requestStats (urlsOf endpoints).toFinset := by
    rw [hsum, hsize, meanLoad]
  have hget : loads.get? url = some (loadPenalty requestStats url) := by
    rw [Dict.get?_tabulate, if_pos hurl]
  unfold relativeLoad
  rw [hloads]
  simp only [hget, hmean]

section Selection

variable (beta : ℚ) (table : Dict InstanceId String) (layout : Layout) (promptTokens : Nat)

theorem exactScore_eq (hurl : url ∈ urlsOf args.endpoints) :
    exactScore beta (matchedTokens table layout url) promptTokens
      (relativeLoad args.requestStats args.endpoints url) =
      score beta table layout promptTokens args.requestStats (urlsOf args.endpoints).toFinset url := by
  unfold exactScore score
  rw [relativeLoad_eq _ _ hurl, benefit_eq]
  rfl

theorem pairwise_sorted (endpoints : List EndpointInfo) :
    (endpoints.insertionSort fun a b => a.url ≤ b.url).Pairwise fun a b => a.url ≤ b.url := by
  have hmap : (endpoints.insertionSort fun a b => a.url ≤ b.url).map (·.url) =
      (urlsOf endpoints).insertionSort (· ≤ ·) :=
    List.map_insertionSort _ _ _ _ fun a _ b _ => Iff.rfl
  have hsorted := List.pairwise_insertionSort (· ≤ ·) (urlsOf endpoints)
  rw [← hmap] at hsorted
  exact List.pairwise_map.mp hsorted

/-- The selected URL is the best one. -/
theorem exactSelectUrl_best (hne : args.endpoints ≠ []) :
    ∃ url, exactSelectUrl beta table args layout promptTokens = .ok (some url) ∧
      IsBest {u | u ∈ urlsOf args.endpoints} (score beta table layout promptTokens
        args.requestStats (urlsOf args.endpoints).toFinset) url := by
  have hsorted := pairwise_sorted args.endpoints
  have hperm := List.perm_insertionSort (fun a b : EndpointInfo => a.url ≤ b.url) args.endpoints
  unfold exactSelectUrl
  cases hlist : args.endpoints.insertionSort fun a b => a.url ≤ b.url with
  | nil =>
    rw [hlist] at hperm
    exact absurd hperm.symm.eq_nil hne
  | cons first rest =>
    rw [hlist] at hsorted hperm
    have hurls : (urlsOf (first :: rest)).Pairwise (· ≤ ·) := List.pairwise_map.mpr hsorted
    have hbest := IsBest.of_sorted (fun url => exactScore beta (matchedTokens table layout url)
      promptTokens (relativeLoad args.requestStats args.endpoints url)) hurls
    have hset : {u | u ∈ urlsOf (first :: rest)} = {u | u ∈ urlsOf args.endpoints} :=
      Set.ext fun u => (hperm.map _).mem_iff
    change IsBest {u | u ∈ urlsOf (first :: rest)} _ _ at hbest
    rw [hset] at hbest
    exact ⟨_, selectLoop_eq _ rest first.url,
      hbest.congr fun u hu => exactScore_eq beta table layout promptTokens hu⟩

/-- A URL is selected exactly if it is the best one. -/
theorem exactSelectUrl_iff (hne : args.endpoints ≠ []) (url : String) :
    exactSelectUrl beta table args layout promptTokens = .ok (some url) ↔
      IsBest {u | u ∈ urlsOf args.endpoints} (score beta table layout promptTokens
        args.requestStats (urlsOf args.endpoints).toFinset) url := by
  obtain ⟨best, hselect, hbest⟩ := exactSelectUrl_best beta table layout promptTokens hne
  rw [hselect]
  constructor
  · intro h
    rwa [← Option.some.inj (Except.ok.inj h)]
  · intro h
    rw [h.unique hbest]

end Selection

/-! What the selection depends on. -/

theorem meanLoad_scaled
    (hloads : ∀ url ∈ urls, loadPenalty requestStats' url = c * loadPenalty requestStats url) :
    meanLoad requestStats' urls = c * meanLoad requestStats urls := by
  unfold meanLoad
  rw [← mul_div_assoc, Finset.mul_sum]
  congr 1
  apply Finset.sum_congr rfl
  intro url hurl
  rw [hloads url hurl]
  push_cast
  rfl

/-- From a mean load of 1 on the scores do not depend on the scale. -/
theorem score_scaled (hc : 1 ≤ c) (hmean : 1 ≤ meanLoad requestStats urls)
    (hloads : ∀ url ∈ urls, loadPenalty requestStats' url = c * loadPenalty requestStats url)
    (beta : ℚ) (table : Dict InstanceId String) (layout : Layout) (promptTokens : Nat)
    (hurl : url ∈ urls) : score beta table layout promptTokens requestStats' urls url =
      score beta table layout promptTokens requestStats urls url := by
  have hc' : (1 : ℚ) ≤ c := by exact_mod_cast hc
  have hmean' : 1 ≤ c * meanLoad requestStats urls := by nlinarith
  have hcpos : (c : ℚ) ≠ 0 := by linarith
  unfold score
  rw [meanLoad_scaled hloads, max_eq_right hmean', max_eq_right hmean, hloads url hurl]
  push_cast
  rw [← mul_sub, mul_div_mul_left _ _ hcpos]

/-- The router selects the best URL by the score; it does not matter in which order and
how often the endpoints are listed, nor, from a mean load of 1 on, in which unit the loads
are counted. -/
theorem select_url_best (beta : ℚ) (table : Dict InstanceId String) (layout : Layout)
    (promptTokens : Nat) {args : RouteArgs} (hne : args.endpoints ≠ []) :
    ∃ url, exactSelectUrl beta table args layout promptTokens = .ok (some url) ∧
      IsBest {u | u ∈ urlsOf args.endpoints} (score beta table layout promptTokens
        args.requestStats (urlsOf args.endpoints).toFinset) url ∧
      (∀ endpoints, (∀ u, u ∈ urlsOf endpoints ↔ u ∈ urlsOf args.endpoints) →
        exactSelectUrl beta table { args with endpoints } layout promptTokens = .ok (some url)) ∧
      (1 ≤ meanLoad args.requestStats (urlsOf args.endpoints).toFinset →
        ∀ (c : Int) (requestStats : Dict String RequestStats), 1 ≤ c →
          (∀ u ∈ urlsOf args.endpoints,
            loadPenalty requestStats u = c * loadPenalty args.requestStats u) →
          exactSelectUrl beta table { args with requestStats } layout promptTokens =
            .ok (some url)) := by
  obtain ⟨url, hselect, hbest⟩ := exactSelectUrl_best beta table layout promptTokens hne
  refine ⟨url, hselect, hbest, ?_, ?_⟩
  · intro endpoints hsame
    have hne' : endpoints ≠ [] := by
      intro hnil
      have hurl := (hsame url).mpr hbest.mem
      simp [hnil, urlsOf] at hurl
    have hurls : (urlsOf endpoints).toFinset = (urlsOf args.endpoints).toFinset := by
      ext u
      simp [hsame u]
    have hset : {u | u ∈ urlsOf endpoints} = {u | u ∈ urlsOf args.endpoints} := Set.ext hsame
    apply (exactSelectUrl_iff beta table layout promptTokens
      (show ({ args with endpoints } : RouteArgs).endpoints ≠ [] from hne') url).mpr
    rw [hurls, hset]
    exact hbest
  · intro hmean c requestStats hc hloads
    apply (exactSelectUrl_iff beta table layout promptTokens
      (show ({ args with requestStats } : RouteArgs).endpoints ≠ [] from hne) url).mpr
    apply hbest.congr
    intro u hu
    have hloads' : ∀ u ∈ (urlsOf args.endpoints).toFinset,
        loadPenalty requestStats u = c * loadPenalty args.requestStats u :=
      fun u hu => hloads u (List.mem_toFinset.mp hu)
    exact (score_scaled hc hmean hloads' beta table layout promptTokens
      (List.mem_toFinset.mpr hu)).symm

def loaded (n : Int) : RequestStats := ⟨0, 0, n, 0, 0, 0, 0, 0, 0, 0⟩

/-- Two endpoints, with requests at the first one only. -/
def pairArgs (n : Int) : RouteArgs where
  endpoints := [⟨"http://a", ["m"], "1", none, false⟩, ⟨"http://b", ["m"], "2", none, false⟩]
  requestStats := Dict.empty.set "http://a" (loaded n)
  headers := []
  requestJson := []

theorem loadPenalty_pairArgs (n : Int) : ∀ u ∈ urlsOf (pairArgs n).endpoints,
    loadPenalty (pairArgs n).requestStats u = if u = "http://a" then n else 0 := by
  intro u hu
  have hu' : u = "http://a" ∨ u = "http://b" := by simpa [urlsOf, pairArgs] using hu
  rcases hu' with rfl | rfl
  · exact add_zero n
  · rfl

/-- Two requests at one endpoint, then the endpoints listed in another order and one of them
twice, then three times the requests. -/
theorem select_url_best_pair : ∃ url,
    exactSelectUrl 1 .empty (pairArgs 2) .empty 4 = .ok (some url) ∧
    exactSelectUrl 1 .empty { pairArgs 2 with
      endpoints := (pairArgs 2).endpoints.reverse ++ (pairArgs 2).endpoints } .empty 4 =
        .ok (some url) ∧
    exactSelectUrl 1 .empty (pairArgs 6) .empty 4 = .ok (some url) := by
  have hne : (pairArgs 2).endpoints ≠ [] := List.cons_ne_nil _ _
  obtain ⟨url, hselect, -, horder, hscale⟩ := select_url_best 1 .empty .empty 4 hne
  have hmean : 1 ≤ meanLoad (pairArgs 2).requestStats (urlsOf (pairArgs 2).endpoints).toFinset := by
    decide +kernel
  refine ⟨url, hselect, horder _ ?_, hscale hmean 3 (pairArgs 6).requestStats (by decide) ?_⟩
  · intro u
    simp [urlsOf]
  · intro u hu
    rw [loadPenalty_pairArgs 6 u hu, loadPenalty_pairArgs 2 u hu]
    split
    · rfl
    · rfl

/-! A change of one endpoint. -/

/-- Between two endpoints only the difference of their loads counts. -/
theorem score_sub (beta : ℚ) (table : Dict InstanceId String) (layout : Layout) (promptTokens : Nat)
    (requestStats : Dict String RequestStats) (urls : Finset String) (a b : String) :
    score beta table layout promptTokens requestStats urls a -
        score beta table layout promptTokens requestStats urls b =
      benefit (matchedTokens table layout a) promptTokens -
        benefit (matchedTokens table layout b) promptTokens -
      beta * ((loadPenalty requestStats a - loadPenalty requestStats b) /
        max 1 (meanLoad requestStats urls)) := by
  unfold score
  rw [benefit_eq, benefit_eq]
  push_cast
  ring

/-- A load that grows by `k` moves the mean of `n` by `k / n`, which does not make up for it:
no difference of loads is larger than their sum. -/
theorem gap_widens {n mean d k : ℚ} (hn : 0 < n) (hk : 0 ≤ k) (hd : d ≤ n * mean) :
    d / max 1 mean ≤ (d + k) / max 1 (mean + k / n) := by
  have hstep : 0 ≤ k / n := div_nonneg hk hn.le
  have hpos : 0 < max 1 mean := lt_max_of_lt_left one_pos
  have hpos' : 0 < max 1 (mean + k / n) := lt_max_of_lt_left one_pos
  have hle : max 1 mean ≤ max 1 (mean + k / n) := max_le_max_left _ (by linarith)
  have hle' : max 1 (mean + k / n) ≤ max 1 mean + k / n :=
    max_le (by linarith [le_max_left 1 mean]) (by linarith [le_max_right 1 mean])
  rw [div_le_div_iff₀ hpos hpos']
  by_cases hsign : d ≤ 0
  · calc d * max 1 (mean + k / n) ≤ d * max 1 mean := mul_le_mul_of_nonpos_left hle hsign
      _ ≤ (d + k) * max 1 mean := mul_le_mul_of_nonneg_right (by linarith) hpos.le
  · have hshare : d * (k / n) ≤ k * max 1 mean := by
      rw [mul_div_assoc', div_le_iff₀ hn]
      calc d * k ≤ n * mean * k := mul_le_mul_of_nonneg_right hd hk
        _ ≤ n * max 1 mean * k :=
          mul_le_mul_of_nonneg_right (mul_le_mul_of_nonneg_left (le_max_right _ _) hn.le) hk
        _ = k * max 1 mean * n := by ring
    calc d * max 1 (mean + k / n) ≤ d * (max 1 mean + k / n) :=
          mul_le_mul_of_nonneg_left hle' (not_le.mp hsign).le
      _ = d * max 1 mean + d * (k / n) := by ring
      _ ≤ (d + k) * max 1 mean := by linarith

/-- The loads of two moments differ in one endpoint only, which has `k` requests more. -/
structure Busier (urls : Finset String) (before after : Dict String RequestStats) (url : String)
    (k : Nat) : Prop where
  more : loadPenalty after url = loadPenalty before url + k
  others : ∀ other ∈ urls, other ≠ url → loadPenalty after other = loadPenalty before other

section OneEndpoint

variable {before after : Dict String RequestStats} {k : Nat}

theorem Busier.meanLoad_eq (h : Busier urls before after url k) (hurl : url ∈ urls) :
    meanLoad after urls = meanLoad before urls + k / urls.card := by
  have hrest : ∑ u ∈ urls.erase url, (loadPenalty after u : ℚ) =
      ∑ u ∈ urls.erase url, (loadPenalty before u : ℚ) := by
    apply Finset.sum_congr rfl
    intro u hu
    rw [h.others u (Finset.mem_of_mem_erase hu) (Finset.ne_of_mem_erase hu)]
  unfold meanLoad
  rw [← add_div, ← Finset.add_sum_erase urls _ hurl, ← Finset.add_sum_erase urls _ hurl, hrest,
    h.more]
  push_cast
  ring

variable {other : String} {endpoints : List EndpointInfo} {promptTokens : Nat}

theorem load_sub_le (hloads : ∀ u ∈ urls, 0 ≤ loadPenalty before u) (hurl : url ∈ urls)
    (hother : other ∈ urls) :
    (loadPenalty before url : ℚ) - loadPenalty before other ≤ urls.card * meanLoad before urls := by
  have hcard : (urls.card : ℚ) ≠ 0 := by
    exact_mod_cast Finset.card_ne_zero_of_mem hurl
  have hnonneg : ∀ u ∈ urls, (0 : ℚ) ≤ loadPenalty before u := fun u hu => by
    exact_mod_cast hloads u hu
  have hsum : urls.card * meanLoad before urls = ∑ u ∈ urls, (loadPenalty before u : ℚ) :=
    mul_div_cancel₀ _ hcard
  have hsingle : (loadPenalty before url : ℚ) ≤ ∑ u ∈ urls, (loadPenalty before u : ℚ) :=
    Finset.single_le_sum hnonneg hurl
  linarith [hnonneg other hother]

/-- An endpoint does not gain on another one by requests of its own. -/
theorem Busier.lags (h : Busier urls before after url k) (hbeta : 0 ≤ beta)
    (hloads : ∀ u ∈ urls, 0 ≤ loadPenalty before u) (hurl : url ∈ urls) (hother : other ∈ urls)
    (hne : other ≠ url) (table : Dict InstanceId String) (layout : Layout) (promptTokens : Nat) :
    score beta table layout promptTokens after urls url -
        score beta table layout promptTokens after urls other ≤
      score beta table layout promptTokens before urls url -
        score beta table layout promptTokens before urls other := by
  have hcard : (0 : ℚ) < urls.card := by
    exact_mod_cast Finset.card_pos.mpr ⟨url, hurl⟩
  have hgap := gap_widens hcard (Nat.cast_nonneg k) (load_sub_le hloads hurl hother)
  have hdiff : (loadPenalty after url : ℚ) - loadPenalty after other =
      loadPenalty before url - loadPenalty before other + k := by
    rw [h.more, h.others other hother hne]
    push_cast
    ring
  rw [score_sub, score_sub, hdiff, h.meanLoad_eq hurl]
  linarith [mul_le_mul_of_nonneg_left hgap hbeta]

/-- An endpoint that is not the best does not become it by requests of its own. -/
theorem Busier.not_best (h : Busier (urlsOf endpoints).toFinset before after url k)
    (hbeta : 0 ≤ beta) (hloads : ∀ u ∈ urlsOf endpoints, 0 ≤ loadPenalty before u) {best : String}
    (hne : best ≠ url) (hbest : IsBest {u | u ∈ urlsOf endpoints}
      (score beta table layout promptTokens before (urlsOf endpoints).toFinset) best) :
    ¬ IsBest {u | u ∈ urlsOf endpoints}
      (score beta table layout promptTokens after (urlsOf endpoints).toFinset) url := by
  intro hurl
  have hlag := h.lags hbeta (fun u hu => hloads u (List.mem_toFinset.mp hu))
    (List.mem_toFinset.mpr hurl.mem) (List.mem_toFinset.mpr hbest.mem) hne table layout promptTokens
  have hle := hbest.highest url hurl.mem
  refine hbest.not_of_lag hurl.mem hne.symm ?_ ?_ hurl
  · linarith
  · intro hlt
    linarith

/-- Without requests of its own the loads are not negative either. -/
theorem Busier.loads_nonneg (h : Busier urls before after url k)
    (hloads : ∀ u ∈ urls, 0 ≤ loadPenalty after u) (hload : 0 ≤ loadPenalty before url) :
    ∀ u ∈ urls, 0 ≤ loadPenalty before u := by
  intro u hu
  by_cases heq : u = url
  · rw [heq]
    exact hload
  · rw [← h.others u hu heq]
    exact hloads u hu

/-- The best endpoint stays it with more matched tokens. -/
theorem isBest_of_matched {table' : Dict InstanceId String} {layout' : Layout}
    (hmore : matchedTokens table layout url ≤ matchedTokens table' layout' url)
    (hothers : ∀ other ∈ urlsOf endpoints, other ≠ url →
      matchedTokens table' layout' other = matchedTokens table layout other)
    (h : IsBest {u | u ∈ urlsOf endpoints}
      (score beta table layout promptTokens requestStats (urlsOf endpoints).toFinset) url) :
    IsBest {u | u ∈ urlsOf endpoints}
      (score beta table' layout' promptTokens requestStats (urlsOf endpoints).toFinset) url := by
  have hgain := benefit_mono hmore promptTokens
  have hgap (u : String) (hu : u ∈ urlsOf endpoints) (heq : u ≠ url) :
      score beta table' layout' promptTokens requestStats (urlsOf endpoints).toFinset u -
        score beta table' layout' promptTokens requestStats (urlsOf endpoints).toFinset url ≤
      score beta table layout promptTokens requestStats (urlsOf endpoints).toFinset u -
        score beta table layout promptTokens requestStats (urlsOf endpoints).toFinset url := by
    rw [score_sub, score_sub, hothers u hu heq]
    linarith
  apply h.stays
  · intro u hu heq
    linarith [hgap u hu heq, h.highest u hu]
  · intro u hu heq hlt
    linarith [hgap u hu heq]

/-- With no endpoints nothing is ever selected. -/
theorem exactSelectUrl_nil (hnil : args.endpoints = []) (beta : ℚ)
    (table : Dict InstanceId String) (layout : Layout) (promptTokens : Nat) (url : String) :
    exactSelectUrl beta table args layout promptTokens ≠ .ok (some url) := by
  unfold exactSelectUrl
  rw [hnil]
  simp [selectLoop]

end OneEndpoint

/-- With a weight that is not negative, no endpoint is selected for having more requests in
flight, and the selected one stays selected with fewer requests and with more matched
tokens. -/
theorem select_url_monotone {beta : ℚ} (hbeta : 0 ≤ beta) (table : Dict InstanceId String)
    (layout : Layout) (promptTokens : Nat) (args : RouteArgs)
    (hloads : ∀ u ∈ urlsOf args.endpoints, 0 ≤ loadPenalty args.requestStats u) (url : String) :
    (exactSelectUrl beta table args layout promptTokens ≠ .ok (some url) →
      ∀ requestStats k, Busier (urlsOf args.endpoints).toFinset args.requestStats requestStats url k →
        exactSelectUrl beta table { args with requestStats } layout promptTokens ≠
          .ok (some url)) ∧
    (exactSelectUrl beta table args layout promptTokens = .ok (some url) →
      (∀ requestStats k,
        Busier (urlsOf args.endpoints).toFinset requestStats args.requestStats url k →
        0 ≤ loadPenalty requestStats url →
        exactSelectUrl beta table { args with requestStats } layout promptTokens =
          .ok (some url)) ∧
      (∀ table' layout', matchedTokens table layout url ≤ matchedTokens table' layout' url →
        (∀ other ∈ urlsOf args.endpoints, other ≠ url →
          matchedTokens table' layout' other = matchedTokens table layout other) →
        exactSelectUrl beta table' args layout' promptTokens = .ok (some url))) := by
  by_cases hne : args.endpoints = []
  · have hnone (requestStats : Dict String RequestStats) :=
      exactSelectUrl_nil (show ({ args with requestStats } : RouteArgs).endpoints = [] from hne)
        beta table layout promptTokens url
    exact ⟨fun _ requestStats _ _ => hnone requestStats, fun h => absurd h (hnone args.requestStats)⟩
  · constructor
    · intro hnot requestStats k hbusier hselected
      obtain ⟨best, hbefore, hbest⟩ := exactSelectUrl_best beta table layout promptTokens hne
      have hother : best ≠ url := by
        rintro rfl
        exact hnot hbefore
      exact hbusier.not_best hbeta hloads hother hbest
        ((exactSelectUrl_iff beta table layout promptTokens
          (show ({ args with requestStats } : RouteArgs).endpoints ≠ [] from hne) url).mp hselected)
    · intro hselected
      have hurl := (exactSelectUrl_iff beta table layout promptTokens hne url).mp hselected
      constructor
      · intro requestStats k hbusier hload
        have hloads' := hbusier.loads_nonneg (fun u hu => hloads u (List.mem_toFinset.mp hu)) hload
        obtain ⟨best, hselect, hbest⟩ := exactSelectUrl_best beta table layout promptTokens
          (show ({ args with requestStats } : RouteArgs).endpoints ≠ [] from hne)
        by_cases heq : best = url
        · rw [← heq]
          exact hselect
        · exact absurd hurl (hbusier.not_best hbeta
            (fun u hu => hloads' u (List.mem_toFinset.mpr hu)) heq hbest)
      · intro table' layout' hmore hothers
        rw [exactSelectUrl_iff beta table' layout' promptTokens hne]
        exact isBest_of_matched hmore hothers hurl

/-- The idle endpoint of two stays selected when a request joins the other's. -/
theorem select_url_monotone_pair :
    exactSelectUrl 1 .empty (pairArgs 2) .empty 4 ≠ .ok (some "http://a") ∧
    exactSelectUrl 1 .empty (pairArgs 3) .empty 4 ≠ .ok (some "http://a") := by
  have hnot : exactSelectUrl 1 .empty (pairArgs 2) .empty 4 ≠ .ok (some "http://a") := by
    decide +kernel
  have hloads : ∀ u ∈ urlsOf (pairArgs 2).endpoints,
      0 ≤ loadPenalty (pairArgs 2).requestStats u := by
    decide +kernel
  have hbusier : Busier (urlsOf (pairArgs 2).endpoints).toFinset (pairArgs 2).requestStats
      (pairArgs 3).requestStats "http://a" 1 := by
    constructor
    · rfl
    · intro other hother hne
      rw [loadPenalty_pairArgs 3 other hother, loadPenalty_pairArgs 2 other hother, if_neg hne,
        if_neg hne]
  obtain ⟨hmore, -⟩ :=
    select_url_monotone (zero_le_one : (0 : ℚ) ≤ 1) .empty .empty 4 (pairArgs 2) hloads "http://a"
  exact ⟨hnot, hmore hnot _ 1 hbusier⟩

end ProductionStack.Routing.LoadAwareRouter
