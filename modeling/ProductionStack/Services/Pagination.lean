import ProductionStack.Lib.Prog
import ProductionStack.Services.Batches

/-!
Going through the batches page by page. The id of the last batch of a page is passed on
as `after`, which `list_batches` compares with the creation times.
-/

namespace ProductionStack.Services

open Lib Python

/-- The response of `route_list_batches`. -/
structure Page where
  data : List (List (String × Json))
  firstId : Option String
  lastId : Option String
  hasMore : Bool

/-- `batch["id"]`. -/
def shownId (batch : List (String × Json)) : Option String :=
  match batch.lookup "id" with
  | some (.str id) => some id
  | _ => none

def Page.ids (page : Page) : List String := page.data.filterMap shownId

namespace Batches

/-- `route_list_batches` where the query gives these ids. -/
def routeListBatches (s : Batches) (limit : Int) (ids : List String) : Except PyExc Page := do
  let batches ← s.listBatches limit ids
  let data ← batches.mapM BatchInfo.toDict
  pure { data, firstId := data.head?.bind shownId, lastId := data.getLast?.bind shownId,
         hasMore := (data.length : Int) = limit }

section Pages

variable (number : String → Option ℚ) (s : Batches) (limit : Int)

/-- A page that may come back for `after`. -/
def Fetches (after : Option String) (page : Page) : Prop :=
  ∃ ids, Selects number s.queue limit after ids ∧ s.routeListBatches limit ids = .ok page

/-- A page that has more is followed by the one after its last id. -/
def Next (after later : Option String) : Prop :=
  ∃ page, s.Fetches number limit after page ∧ page.hasMore = true ∧ page.lastId = later

/-- The ids on all pages from `after` on. -/
inductive Listed : Option String → List String → Prop where
  | last {after : Option String} {page : Page} (h : s.Fetches number limit after page)
      (hmore : page.hasMore = false) : Listed after page.ids
  | more {after : Option String} {page : Page} {rest : List String}
      (h : s.Fetches number limit after page) (hmore : page.hasMore = true)
      (hrest : Listed page.lastId rest) : Listed after (page.ids ++ rest)

/-- Every request for a page is answered, there are finitely many of them, and together the
pages list every batch once. -/
structure Enumerates : Prop where
  answered : ∀ after ids, Relation.ReflTransGen (s.Next number limit) none after →
    Selects number s.queue limit after ids → ∃ page, s.routeListBatches limit ids = .ok page
  terminates : Acc (fun later after => s.Next number limit after later) none
  complete : ∀ ids, s.Listed number limit none ids → ids.Perm s.queue.keys

end Pages

variable {number : String → Option ℚ} {s : Batches} {limit : Int} {acts : List BatchAct}
  {ids : List String} {after : Option String} {queue : Dict String BatchRow}

theorem routeListBatches_ok {page : Page} (h : s.routeListBatches limit ids = .ok page) :
    page.ids = ids ∧ page.lastId = ids.getLast? ∧ (page.hasMore = true ↔ (ids.length : Int) = limit) := by
  obtain ⟨infos, hinfos, h⟩ := bind_ok h
  obtain ⟨data, hdata, ⟨⟩⟩ := bind_ok h
  unfold listBatches at hinfos
  split at hinfos
  · cases hinfos
  · have hid : infos.map (·.id) = ids.map id := by
      exact map_of_mapM (fun _ _ hread => (retrieveBatch_ok hread).1) hinfos
    have hshown : data.map shownId = infos.map (some ·.id) := by
      refine map_of_mapM (fun info shown hshown => ?_) hdata
      unfold BatchInfo.toDict at hshown
      split at hshown
      · cases hshown
      · cases hshown
        rfl
    have hsome : data.map shownId = ids.map some := by
      rw [hshown, ← List.map_id ids, ← hid, List.map_map]
      rfl
    have hlength : data.length = ids.length := by
      rw [← List.length_map (f := shownId), hsome, List.length_map]
    refine ⟨?_, ?_, by simp [hlength]⟩
    · change data.filterMap shownId = ids
      have hmap : data.filterMap shownId = (data.map shownId).filterMap id := by
        rw [List.filterMap_map]
        rfl
      rw [hmap, hsome, List.filterMap_map]
      simp
    · have hlast : (data.getLast?.map shownId) = ids.getLast?.map some := by
        rw [← List.getLast?_map, hsome, List.getLast?_map]
      cases hdata : data.getLast? with
      | none => simp_all
      | some shown =>
        cases hids : ids.getLast? with
        | none => simp [hdata, hids] at hlast
        | some batchId => simpa [hdata, hids] using hlast

/-- A page is answered where the limit is one of SQLite's and every status can be read. -/
theorem routeListBatches_decodable (hs : s.Decodable) (hlimit : |limit| ≤ maxInteger)
    (h : Selects number s.queue limit after ids) :
    ∃ page, s.routeListBatches limit ids = .ok page := by
  obtain ⟨infos, shown, hinfos, hshown⟩ :=
    listBatches_decodable hs hlimit fun _ hid => mem_of_selects h hid
  unfold routeListBatches
  rw [hinfos]
  change ∃ page, (infos.mapM BatchInfo.toDict >>= _) = .ok page
  rw [hshown]
  exact ⟨_, rfl⟩

/-- Whatever is asked for, some order is right. -/
theorem exists_selects (number : String → Option ℚ) (queue : Dict String BatchRow) (limit : Int)
    (after : Option String) : ∃ ids, Selects number queue limit after ids := by
  have hsorted : (List.mergeSort (queue.entries.filter (isAfter number after ·.2))
      fun a b => decide (b.2.createdAt ≤ a.2.createdAt)).Pairwise
      fun a b => decide (b.2.createdAt ≤ a.2.createdAt) := by
    apply List.pairwise_mergeSort
    · simp only [decide_eq_true_eq]
      omega
    · simp only [Bool.or_eq_true, decide_eq_true_eq]
      omega
  exact ⟨_, _, List.mergeSort_perm _ _, by simpa using hsorted, rfl⟩

theorem selects_length
    (hlimit : 1 ≤ limit) (h : Selects number queue limit after ids) : (ids.length : Int) ≤ limit := by
  obtain ⟨rows, -, -, rfl⟩ := h
  rw [if_neg (by omega), List.length_map, List.length_take]
  omega

/-- A page that is large enough has all batches. -/
theorem selects_all (hlimit : 1 ≤ limit)
    (hsize : queue.size ≤ limit) (h : Selects number queue limit none ids) :
    ids.Perm queue.keys := by
  obtain ⟨rows, hperm, -, rfl⟩ := h
  have hall : queue.entries.filter (isAfter number none ·.2) = queue.entries :=
    List.filter_eq_self.mpr fun _ _ => rfl
  rw [hall] at hperm
  have hlength : rows.length ≤ limit.toNat := by
    rw [hperm.length_eq]
    change queue.size ≤ _
    omega
  rw [if_neg (by omega), List.take_of_length_le hlength]
  exact hperm.map _

/-- Ids are those that `create_batch` makes. -/
theorem batchId_run (hrun : start.run acts = some s) :
    ∀ batchId ∈ s.queue, ∃ rest, batchId = "batch_" ++ rest := by
  have hkeeps : ∀ (s : Batches) act (s' : Batches), act ∈ acts → Does s act s' →
      (∀ batchId ∈ s.queue, ∃ rest, batchId = "batch_" ++ rest) →
      ∀ batchId ∈ s'.queue, ∃ rest, batchId = "batch_" ++ rest := by
    intro s act s' _ hdoes hs batchId hmem
    cases hdoes with
    | nothing | read | take => exact hs batchId hmem
    | create c hnew =>
      rcases (Dict.mem_set _ _ _ _).mp hmem with rfl | hmem
      · exact ⟨_, rfl⟩
      · exact hs batchId hmem
    | cancel | process => exact hs batchId (mem_updateRow.mp hmem)
  exact run_keeps hrun hkeeps fun _ hmem => absurd hmem List.not_mem_nil

section Loop

variable (hids : ∀ batchId ∈ s.queue, ∃ rest, batchId = "batch_" ++ rest)
  (hnumber : ∀ rest, number ("batch_" ++ rest) = none) (hlimit : 1 ≤ limit) {batchId : String}
  {page : Page}

include hids hnumber in
/-- An id is no number, and every creation time is below it. -/
theorem selects_after (hmem : batchId ∈ s.queue)
    (h : Selects number s.queue limit (some batchId) ids) : ids = [] := by
  obtain ⟨rest, rfl⟩ := hids batchId hmem
  obtain ⟨rows, hperm, -, rfl⟩ := h
  have hnone : s.queue.entries.filter (isAfter number (some ("batch_" ++ rest)) ·.2) = [] := by
    apply List.filter_eq_nil_iff.mpr
    intro entry _
    simp [isAfter, hnumber, Option.filter]
  rw [hnone, List.perm_nil] at hperm
  simp [hperm]

include hlimit in
/-- A page that has more ends in a batch, and nothing comes after that. -/
theorem next_spec {later : Option String} (h : s.Next number limit none later) :
    ∃ batchId ∈ s.queue, later = some batchId := by
  obtain ⟨page, ⟨ids, hselects, hpage⟩, hmore, rfl⟩ := h
  obtain ⟨-, hlast, hlength⟩ := routeListBatches_ok hpage
  have hne : ids ≠ [] := by
    rintro rfl
    have hzero := hlength.mp hmore
    simp only [List.length_nil] at hzero
    omega
  refine ⟨ids.getLast hne, mem_of_selects hselects (List.getLast_mem hne), ?_⟩
  rw [hlast, List.getLast?_eq_some_getLast hne]

include hids hnumber hlimit

theorem fetches_after (hmem : batchId ∈ s.queue)
    (h : s.Fetches number limit (some batchId) page) : page.ids = [] ∧ page.hasMore = false := by
  obtain ⟨ids, hselects, hpage⟩ := h
  obtain ⟨rfl, -, hlength⟩ := routeListBatches_ok hpage
  have hnil := selects_after hids hnumber hmem hselects
  refine ⟨hnil, Bool.eq_false_iff.mpr fun hmore => ?_⟩
  have hzero := hlength.mp hmore
  rw [hnil, List.length_nil] at hzero
  omega

theorem next_terminates : Acc (fun later after => s.Next number limit after later) none := by
  refine Acc.intro none fun later hlater => Acc.intro later fun last hlast => ?_
  obtain ⟨batchId, hmem, rfl⟩ := next_spec hlimit hlater
  obtain ⟨page, hpage, hmore, -⟩ := hlast
  rw [(fetches_after hids hnumber hlimit hmem hpage).2] at hmore
  cases hmore

/-- The pages together are the first one. -/
theorem listed_spec (h : s.Listed number limit none ids) :
    Selects number s.queue limit none ids := by
  cases h with
  | last hpage hmore =>
    obtain ⟨ids, hselects, hpage⟩ := hpage
    rwa [(routeListBatches_ok hpage).1]
  | more hpage hmore hrest =>
    obtain ⟨batchId, hmem, hlast⟩ := next_spec hlimit ⟨_, hpage, hmore, rfl⟩
    rw [hlast] at hrest
    obtain ⟨ids, hselects, hpage⟩ := hpage
    cases hrest with
    | last hsecond _ =>
      rw [(fetches_after hids hnumber hlimit hmem hsecond).1, List.append_nil,
        (routeListBatches_ok hpage).1]
      exact hselects
    | more hsecond hmore _ =>
      rw [(fetches_after hids hnumber hlimit hmem hsecond).2] at hmore
      cases hmore

/-- If the first page is answered, the loop comes to its end with it. -/
theorem listed_of_first (hselects : Selects number s.queue limit none ids)
    (hpage : s.routeListBatches limit ids = .ok page)
    (hanswered : ∀ after ids, Relation.ReflTransGen (s.Next number limit) none after →
      Selects number s.queue limit after ids → ∃ page, s.routeListBatches limit ids = .ok page) :
    s.Listed number limit none ids := by
  obtain ⟨hids', -, -⟩ := routeListBatches_ok hpage
  cases hmore : page.hasMore with
  | false => exact hids' ▸ .last ⟨ids, hselects, hpage⟩ hmore
  | true =>
    have hnext : s.Next number limit none page.lastId := ⟨page, ⟨ids, hselects, hpage⟩, hmore, rfl⟩
    obtain ⟨batchId, hmem, hlast⟩ := next_spec hlimit hnext
    obtain ⟨later, hlater⟩ := exists_selects number s.queue limit page.lastId
    obtain ⟨second, hsecond⟩ := hanswered page.lastId later (.single hnext) hlater
    have hfetch : s.Fetches number limit page.lastId second := ⟨later, hlater, hsecond⟩
    obtain ⟨hnil, hfalse⟩ := fetches_after hids hnumber hlimit hmem (hlast ▸ hfetch)
    have hlisted := Listed.more ⟨ids, hselects, hpage⟩ hmore (.last hfetch hfalse)
    rwa [hnil, List.append_nil, hids'] at hlisted

end Loop

/-- Going from page to page ends, and lists every batch once, exactly if there is one page:
the limit is one of SQLite's and no smaller than the number of batches, and every status
can be read. -/
theorem pagination_enumerates_iff (number : String → Option ℚ) (acts : List BatchAct)
    (s : Batches) (limit : Int) (hrun : start.run acts = some s)
    (hnumber : ∀ rest, number ("batch_" ++ rest) = none) (hlimit : 1 ≤ limit) :
    s.Enumerates number limit ↔ limit ≤ maxInteger ∧ s.queue.size ≤ limit ∧ s.Decodable := by
  have hids := batchId_run hrun
  have habs : |limit| = limit := abs_of_pos (by omega)
  constructor
  · rintro ⟨hanswered, -, hcomplete⟩
    obtain ⟨ids, hselects⟩ := exists_selects number s.queue limit none
    obtain ⟨page, hpage⟩ := hanswered none ids .refl hselects
    have hperm := hcomplete ids (listed_of_first hids hnumber hlimit hselects hpage hanswered)
    obtain ⟨infos, hinfos, -⟩ := bind_ok hpage
    unfold listBatches at hinfos
    split at hinfos
    · cases hinfos
    · rename_i hfits
      refine ⟨by rw [← habs]; exact not_lt.mp hfits, ?_, ?_⟩
      · have hlength := selects_length hlimit hselects
        rw [hperm.length_eq] at hlength
        simpa [Dict.keys, Dict.size] using hlength
      · intro batchId row hrow
        have hmem : batchId ∈ ids := hperm.mem_iff.mpr ((Dict.mem_iff_get? _ _).mpr ⟨row, hrow⟩)
        obtain ⟨info, hinfo⟩ := ok_of_mapM hinfos hmem
        obtain ⟨-, found, hfound, hstatus⟩ := retrieveBatch_ok hinfo
        exact Option.some.inj (hrow.symm.trans hfound) ▸ hstatus
  · rintro ⟨hfits, hsize, hdecodable⟩
    refine ⟨?_, next_terminates hids hnumber hlimit, ?_⟩
    · intro after ids _ hselects
      exact routeListBatches_decodable hdecodable (by rwa [habs]) hselects
    · intro ids hlisted
      exact selects_all hlimit hsize (listed_spec hids hnumber hlimit hlisted)

/-- A page of one for a batch. -/
theorem pagination_enumerates_one : ∃ s, start.run [.createBatch oneBatch] = some s ∧
    s.Enumerates (fun _ => none) 1 := by
  have hsize : (start.run [.createBatch oneBatch]).any (·.queue.size = 1) = true := by
    decide +kernel
  obtain ⟨s, hrun, hsize⟩ := (Option.any_eq_true _ _).mp hsize
  have hone : s.queue.size = 1 := of_decide_eq_true hsize
  refine ⟨s, hrun, ?_⟩
  refine (pagination_enumerates_iff _ _ s 1 hrun (fun _ => rfl) (by decide)).mpr ?_
  exact ⟨by decide, by rw [hone]; rfl, decodable_run hrun (by simp)⟩

/-- With pages of one the older of two batches is on none of them. -/
theorem older_batch_unlisted : ∃ s ids,
    start.run [.createBatch oneBatch, .createBatch { oneBatch with hex := "7c", now := 6 }] = some s ∧
      s.Listed (fun _ => none) 1 none ids ∧ ids.length < s.queue.size := by
  have hsize : (start.run [.createBatch oneBatch,
      .createBatch { oneBatch with hex := "7c", now := 6 }]).any (·.queue.size = 2) = true := by
    decide +kernel
  obtain ⟨s, hrun, hsize⟩ := (Option.any_eq_true _ _).mp hsize
  have htwo : s.queue.size = 2 := of_decide_eq_true hsize
  have hanswered : ∀ after ids, Selects (fun _ => none) s.queue 1 after ids →
      ∃ page, s.routeListBatches 1 ids = .ok page := fun after ids =>
    routeListBatches_decodable (decodable_run hrun (by simp)) (by decide)
  obtain ⟨ids, hselects⟩ := exists_selects (fun _ => none) s.queue 1 none
  obtain ⟨page, hpage⟩ := hanswered none ids hselects
  refine ⟨s, ids, hrun, listed_of_first (batchId_run hrun) (fun _ => rfl) (by decide) hselects hpage
    (fun after ids _ => hanswered after ids), ?_⟩
  have hlength := selects_length (by decide) hselects
  omega

end Batches

end ProductionStack.Services
