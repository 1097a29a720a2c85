import ProductionStack.Config.Components
import ProductionStack.Python.Url
import ProductionStack.Request.Disaggregated

/-!
The host of an engine, as three parts of the router take it from a URL that
`validate_url` has accepted: the KV-aware router by splitting at the last colon, the
load-aware router with `urlparse`, and the orchestrated path by splitting at `://` and
at the first colon behind it.
-/

namespace ProductionStack.Config

open Lib Python Request Routing

/-- The host that `refresh_instance_map` asks the controller for. -/
def refreshHost (support : UrlSupport) (url : String) : Except PyExc String := do
  let found := (cut "//".toList url.toList).isSome
  let host ← support.hostname (if found then url else "//" ++ url)
  .ok (host.getD "")

/-- What follows the last colon. -/
def lastField (url : String) : List Char := url.toList.rtakeWhile (· ≠ ':')

/-- The host is found, up to the case of its letters. -/
def Finds (found : Except PyExc String) (host : List Char) : Prop :=
  ∃ name, found = .ok name ∧ lower name = lower (String.ofList host)

/-- A URL behind its protocol: a host, and a port and a path. -/
structure Shaped (url : String) (scheme host tail : List Char) : Prop where
  eq : url.toList = scheme ++ ':' :: '/' :: '/' :: (host ++ tail)
  scheme : scheme = "http".toList ∨ scheme = "https".toList
  host_ne : host ≠ []
  host_chars : ∀ c ∈ host, inHost c
  tail_path : isPortAndPath tail

variable {c : Char} {url : String} {w tail host : List Char}

/-- A path starts with a slash; without one there is at most a line break. -/
theorem isPath_head (h : isPath (c :: w)) : c = '/' ∨ c = '\n' := by
  unfold isPath at h
  split at h
  · next heq => cases heq
  · next heq =>
      cases heq
      exact .inr rfl
  · next heq =>
      cases heq
      exact .inl rfl
  · cases h

/-- What follows the host: a port and a path, or a path alone. -/
theorem isPortAndPath_cases (h : isPortAndPath w) :
    isPath w ∨ ∃ digits path, w = ':' :: (digits ++ path) ∧ digits ≠ [] ∧
      (∀ c ∈ digits, isDecimal c) ∧ isPath path := by
  unfold isPortAndPath at h
  split at h
  · next rest =>
      rw [Bool.and_eq_true, decide_eq_true_eq] at h
      refine .inr ⟨rest.takeWhile isDecimal, rest.dropWhile isDecimal, ?_, h.1, ?_, h.2⟩
      · rw [List.takeWhile_append_dropWhile]
      · intro c hc
        exact List.mem_takeWhile_imp hc
  · exact .inl h

/-- A URL with a host has a protocol before it. -/
theorem eq_of_hostPart_ne_nil (h : hostPart url ≠ []) :
    ∃ scheme, (scheme = "http".toList ∨ scheme = "https".toList) ∧
      url.toList = scheme ++ ':' :: '/' :: '/' :: (hostPart url ++ tailPart url) := by
  have hrest : hostPart url ++ tailPart url = withoutProtocol url :=
    List.takeWhile_append_dropWhile
  simp only [hrest]
  unfold hostPart at h
  unfold withoutProtocol at h ⊢
  split at h
  · next hhttp =>
      obtain ⟨rest, hrest⟩ := List.isPrefixOf_iff_prefix.mp hhttp
      refine ⟨"http".toList, .inl rfl, ?_⟩
      rw [if_pos hhttp, ← hrest]
      rfl
  · next hhttp =>
      split at h
      · next hhttps =>
          obtain ⟨rest, hrest⟩ := List.isPrefixOf_iff_prefix.mp hhttps
          refine ⟨"https".toList, .inr rfl, ?_⟩
          rw [if_neg hhttp, if_pos hhttps, ← hrest]
          rfl
      · exact absurd rfl h

theorem hostPart_ne_nil (h : isHost (hostPart url)) : hostPart url ≠ [] := by
  intro hnil
  rw [hnil] at h
  cases h

theorem shaped_of_validateUrl (h : validateUrl url) :
    ∃ scheme, Shaped url scheme (hostPart url) (tailPart url) := by
  rw [validateUrl, Bool.and_eq_true] at h
  have hne := hostPart_ne_nil h.1
  obtain ⟨scheme, hscheme, heq⟩ := eq_of_hostPart_ne_nil hne
  exact ⟨scheme, heq, hscheme, hne, fun _ hc => List.mem_takeWhile_imp hc, h.2⟩

section Pieces

variable {s sep : String}

theorem headD_splitText (hsep : sep.toList ≠ []) :
    (splitText s sep).headD "" = String.ofList (firstPiece sep.toList s.toList) := by
  obtain ⟨pieces, hpieces⟩ := splitBy_eq_firstPiece hsep s.toList
  rw [splitText, hpieces]
  rfl

theorem splitText_of_cut_none (hsep : sep.toList ≠ []) (h : cut sep.toList s.toList = none) :
    splitText s sep = [s] := by
  rw [splitText, splitBy_of_cut_none hsep h, List.map_singleton, String.ofList_toList]

theorem splitText_of_cut (hsep : sep.toList ≠ []) {before after : List Char}
    (h : cut sep.toList s.toList = some (before, after)) : ∃ pieces, splitText s sep =
      String.ofList before :: String.ofList (firstPiece sep.toList after) :: pieces := by
  obtain ⟨pieces, hpieces⟩ := splitBy_of_cut hsep h
  exact ⟨pieces.map String.ofList, by rw [splitText, hpieces]; rfl⟩

theorem getLastD_splitText (h : ':' ∈ s.toList) :
    (splitText s ":").getLastD "" = String.ofList (lastField s) := by
  obtain ⟨front, hfront⟩ := eq_append_rtakeWhile h
  have hlast : ':' ∉ lastField s := by
    intro hcolon
    simpa using List.mem_rtakeWhile_imp hcolon
  have hpieces := getLast?_splitBy_singleton hlast front
  rw [lastField, ← hfront] at hpieces
  rw [List.getLastD_eq_getLast?, splitText, List.getLast?_map]
  change ((splitBy [':'] s.toList).getLast?.map String.ofList).getD "" = _
  rw [hpieces]
  rfl

end Pieces

variable {scheme netloc : List Char} {support : UrlSupport}

namespace Shaped

variable (h : Shaped url scheme host tail)

include h

theorem colon_notMem_scheme : ':' ∉ scheme := by
  rcases h.scheme with rfl | rfl <;> decide

theorem slash_notMem_scheme : '/' ∉ scheme := by
  rcases h.scheme with rfl | rfl <;> decide

theorem notMem_host (hc : ¬ inHost c) : c ∉ host := by
  intro hmem
  exact hc (h.host_chars c hmem)

theorem colon_notMem_host : ':' ∉ host := h.notMem_host (by decide)

/-- The orchestrated path cuts at the first colon behind the host. -/
theorem remoteHost_eq :
    Orchestration.remoteHost url = .ok (String.ofList (host ++ tail.takeWhile (· ≠ ':'))) := by
  have hcut : cut "://".toList url.toList = some (scheme, host ++ tail) := by
    rw [h.eq]
    change cut (':' :: ['/', '/']) _ = _
    rw [cut_append_of_notMem h.colon_notMem_scheme, cut_of_isPrefix (List.cons_ne_nil _ _)]
    · simp
    · simp
  obtain ⟨pieces, hpieces⟩ := splitText_of_cut (by decide) hcut
  have hhost : (host ++ tail).takeWhile (· ≠ ':') = host ++ tail.takeWhile (· ≠ ':') := by
    rw [List.takeWhile_append_of_pos]
    intro c hc
    have hne : c ≠ ':' := fun heq => h.colon_notMem_host (heq ▸ hc)
    simpa using hne
  have hrest : (String.ofList (firstPiece "://".toList (host ++ tail))).toList =
      firstPiece (':' :: ['/', '/']) (host ++ tail) := String.toList_ofList
  have hsep : ":".toList = [':'] := rfl
  unfold Orchestration.remoteHost
  rw [hpieces]
  dsimp only
  rw [headD_splitText (by decide), hrest, hsep, firstPiece_singleton, takeWhile_firstPiece, hhost]

/-- What the KV-aware router has left of the URL when it looks for the slashes. -/
theorem firstPiece_lastField : firstPiece (':' :: lastField url) url.toList =
      if lastField url <+: '/' :: '/' :: (host ++ tail) then scheme
      else scheme ++ ':' :: '/' :: '/' :: (host ++ firstPiece (':' :: lastField url) tail) := by
  have hslashes : ':' ∉ '/' :: '/' :: host := by
    simpa using h.colon_notMem_host
  rw [h.eq, firstPiece_append_of_notMem h.colon_notMem_scheme]
  split
  · next hstart =>
      rw [firstPiece_of_isPrefix (List.cons_ne_nil _ _)]
      · exact List.append_nil scheme
      · rwa [List.cons_prefix_cons, and_iff_right rfl]
  · next hstart =>
      rw [firstPiece_of_not_isPrefix, ← List.cons_append, ← List.cons_append,
        firstPiece_append_of_notMem hslashes]
      · rfl
      · rwa [List.cons_prefix_cons, and_iff_right rfl]

/-- The KV-aware router finds no host if the last field is also what starts behind the
protocol; otherwise the host, and the tail up to the last field or to two slashes. -/
theorem queryIp_eq : queryIp url =
      if lastField url <+: '/' :: '/' :: (host ++ tail) then
        .error (.new indexError "list index out of range")
      else .ok (String.ofList
        (host ++ firstPiece ['/', '/'] (firstPiece (':' :: lastField url) tail))) := by
  have hcolon : ':' ∈ url.toList := by
    rw [h.eq]
    simp
  have hport : (":" ++ String.ofList (lastField url)).toList = ':' :: lastField url := by
    simp [String.toList_append]
  have hrest : (String.ofList (firstPiece (':' :: lastField url) url.toList)).toList = _ :=
    String.toList_ofList.trans h.firstPiece_lastField
  have hfirst : (splitText url (":" ++ (splitText url ":").getLastD "")).headD "" =
      String.ofList (firstPiece (':' :: lastField url) url.toList) := by
    rw [getLastD_splitText hcolon, headD_splitText, hport]
    rw [hport]
    exact List.cons_ne_nil _ _
  have hsep : "//".toList ≠ [] := by decide
  unfold queryIp
  dsimp only
  rw [hfirst]
  split_ifs with hstart
  · -- only the scheme is left
    rw [if_pos hstart] at hrest
    rw [splitText_of_cut_none hsep]
    rw [hrest]
    exact cut_eq_none_of_notMem h.slash_notMem_scheme
  · rw [if_neg hstart] at hrest
    have hslash : '/' ∉ scheme ++ [':'] := by
      simpa using h.slash_notMem_scheme
    have hcut : cut "//".toList (String.ofList (firstPiece (':' :: lastField url) url.toList)).toList
        = some (scheme ++ [':'], host ++ firstPiece (':' :: lastField url) tail) := by
      rw [hrest, ← List.singleton_append, ← List.append_assoc]
      change cut ('/' :: ['/']) _ = _
      rw [cut_append_of_notMem hslash, cut_of_isPrefix (List.cons_ne_nil _ _)]
      · simp
      · simp
    obtain ⟨pieces, hpieces⟩ := splitText_of_cut hsep hcut
    rw [hpieces]
    change Except.ok (String.ofList (firstPiece ('/' :: ['/']) _)) = _
    rw [firstPiece_append_of_notMem (h.notMem_host (by decide))]

end Shaped

/-! What `urlparse` finds. -/

/-- A character that `urlsplit` leaves in a URL. -/
def kept (c : Char) : Bool := ! ['\t', '\r', '\n'].contains c

/-- A character that does not end a network location. -/
def inNetloc (c : Char) : Bool := ! ['/', '?', '#'].contains c

theorem not_inHost_of_elem (chars : List Char) (hchars : chars.all fun c => !inHost c)
    (h : inHost c) : chars.contains c = false := by
  rw [Bool.eq_false_iff]
  intro hmem
  have hnot := List.all_eq_true.mp hchars c (List.mem_of_elem_eq_true hmem)
  rw [h] at hnot
  cases hnot

theorem kept_of_inHost (h : inHost c) : kept c := by
  rw [kept, not_inHost_of_elem _ (by decide) h]
  rfl

theorem inNetloc_of_inHost (h : inHost c) : inNetloc c := by
  rw [inNetloc, not_inHost_of_elem _ (by decide) h]
  rfl

theorem inHost_of_isDecimal (h : isDecimal c) : inHost c := by
  simp [inHost, h]

/-- No part of a path is left in the network location. -/
theorem takeWhile_inNetloc_path {path : List Char} (h : isPath path) :
    (path.filter kept).takeWhile inNetloc = [] := by
  unfold isPath at h
  split at h
  · rfl
  · rfl
  · rfl
  · cases h

/-- What the network location has of a tail is its port. -/
theorem takeWhile_inNetloc_tail (h : isPortAndPath tail) :
    (tail.filter kept).takeWhile inNetloc = [] ∨
      ∃ digits, (tail.filter kept).takeWhile inNetloc = ':' :: digits ∧ ∀ c ∈ digits, inHost c := by
  rcases isPortAndPath_cases h with hpath | ⟨digits, path, rfl, -, hdigits, hpath⟩
  · exact .inl (takeWhile_inNetloc_path hpath)
  · have hhost : ∀ c ∈ digits, inHost c := fun c hc => inHost_of_isDecimal (hdigits c hc)
    refine .inr ⟨digits, ?_, hhost⟩
    have hkept : (digits ++ path).filter kept = digits ++ path.filter kept := by
      rw [List.filter_append, List.filter_eq_self.mpr fun c hc => kept_of_inHost (hhost c hc)]
    rw [List.filter_cons_of_pos (by decide), List.takeWhile_cons_of_pos (by decide), hkept,
      List.takeWhile_append_of_pos fun c hc => inNetloc_of_inHost (hhost c hc),
      takeWhile_inNetloc_path hpath, List.append_nil]

/-- The normal form of a host and a port has none of the delimiters in it. -/
def NormalHosts (support : UrlSupport) : Prop :=
  ∀ cs, (∀ c ∈ cs, inHost c) → ∀ c ∈ support.nfkc cs, ['/', '?', '#', '@', ':'].contains c = false

/-- Characters of a network location with no user and no brackets. -/
def PlainNetloc (netloc : List Char) : Prop := ∀ c ∈ netloc, inHost c ∨ c = ':'

theorem PlainNetloc.not_contains (h : PlainNetloc netloc) (hc : ¬ inHost c)
    (hcolon : c ≠ ':') : netloc.contains c = false := by
  rw [Bool.eq_false_iff]
  intro hmem
  rcases h c (List.mem_of_elem_eq_true hmem) with hhost | heq
  · exact hc hhost
  · exact hcolon heq

section Netloc

variable (h : PlainNetloc netloc)

include h

theorem checkBrackets_plain : support.checkBrackets netloc = .ok () := by
  unfold UrlSupport.checkBrackets
  rw [h.not_contains (c := '[') (by decide) (by decide),
    h.not_contains (c := ']') (by decide) (by decide)]
  rfl

theorem checkNetloc_plain (hnormal : NormalHosts support) : support.checkNetloc netloc = .ok () := by
  have hplain : ∀ c ∈ netloc.filter (fun c => ! ['@', ':', '#', '?'].contains c), inHost c := by
    intro c hc
    obtain ⟨hmem, hnot⟩ := List.mem_filter.mp hc
    rcases h c hmem with hhost | rfl
    · exact hhost
    · cases hnot
  have hany : (support.nfkc (netloc.filter fun c => ! ['@', ':', '#', '?'].contains c)).any
      (['/', '?', '#', '@', ':'].contains ·) = false := by
    rw [List.any_eq_false]
    intro c hc
    rw [hnormal _ hplain c hc]
    exact Bool.false_ne_true
  unfold UrlSupport.checkNetloc
  simp only [hany]
  simp

theorem hostInfo_plain : hostInfo netloc = netloc.takeWhile (· ≠ ':') := by
  have huser : '@' ∉ netloc := by
    simpa using h.not_contains (c := '@') (by decide) (by decide)
  have hsplit : netloc.splitOn '@' = [netloc] := by
    rw [← splitBy_singleton, splitBy_of_cut_none (List.cons_ne_nil _ _) (cut_eq_none_of_notMem huser)]
  unfold hostInfo
  rw [hsplit]
  simp only [List.getLastD_cons, List.getLastD_nil]
  rw [h.not_contains (c := '[') (by decide) (by decide)]
  rfl

end Netloc

namespace Shaped

variable (h : Shaped url scheme host tail)

include h

theorem cleanUrl_eq : cleanUrl url.toList =
    scheme ++ ':' :: '/' :: '/' :: (host ++ tail.filter kept) := by
  have hhost : host.filter kept = host :=
    List.filter_eq_self.mpr fun c hc => kept_of_inHost (h.host_chars c hc)
  have hclean : (host ++ tail).filter kept = host ++ tail.filter kept := by
    rw [List.filter_append, hhost]
  rw [h.eq, ← hclean]
  rcases h.scheme with rfl | rfl <;> rfl

theorem afterScheme_eq (rest : List Char) : afterScheme (scheme ++ ':' :: rest) = rest := by
  rcases h.scheme with rfl | rfl <;> rfl

theorem netlocOf_eq : netlocOf url.toList = host ++ (tail.filter kept).takeWhile inNetloc := by
  unfold netlocOf
  rw [h.cleanUrl_eq, h.afterScheme_eq]
  exact List.takeWhile_append_of_pos fun c hc => inNetloc_of_inHost (h.host_chars c hc)

theorem plainNetloc : PlainNetloc (netlocOf url.toList) := by
  intro c hc
  rw [h.netlocOf_eq] at hc
  rcases List.mem_append.mp hc with hc | hc
  · exact .inl (h.host_chars c hc)
  · rcases takeWhile_inNetloc_tail h.tail_path with hport | ⟨digits, hport, hdigits⟩
    · rw [hport] at hc
      cases hc
    · rw [hport] at hc
      rcases List.mem_cons.mp hc with rfl | hc
      · exact .inr rfl
      · exact .inl (hdigits c hc)

theorem hostInfo_eq : hostInfo (netlocOf url.toList) = host := by
  have hcolon : ∀ c ∈ host, decide (c ≠ ':') = true := by
    intro c hc
    rw [decide_eq_true_eq]
    rintro rfl
    exact h.colon_notMem_host hc
  rw [hostInfo_plain h.plainNetloc, h.netlocOf_eq, List.takeWhile_append_of_pos hcolon]
  rcases takeWhile_inNetloc_tail h.tail_path with hport | ⟨digits, hport, -⟩
  · rw [hport, List.takeWhile_nil, List.append_nil]
  · rw [hport, List.takeWhile_cons_of_neg (by decide), List.append_nil]

theorem lowerHost_eq : lowerHost host = host.map Char.toLower := by
  have hpercent : ∀ c ∈ host, decide (c ≠ '%') = true := by
    intro c hc
    rw [decide_eq_true_eq]
    rintro rfl
    exact h.notMem_host (by decide) hc
  rw [lowerHost, List.takeWhile_eq_self_iff.mpr hpercent, List.dropWhile_eq_nil_iff.mpr hpercent,
    List.append_nil]

/-- `urlparse` finds the host of every URL that is accepted, in lower case. -/
theorem refreshHost_eq (hnormal : NormalHosts support) :
    refreshHost support url = .ok (String.ofList (host.map Char.toLower)) := by
  have hfound : (cut "//".toList url.toList).isSome = true := by
    have hslash : '/' ∉ scheme ++ [':'] := by
      simpa using h.slash_notMem_scheme
    rw [h.eq, ← List.singleton_append, ← List.append_assoc]
    change (cut ('/' :: ['/']) _).isSome = true
    rw [cut_append_of_notMem hslash, cut_of_isPrefix (List.cons_ne_nil _ _)]
    · rfl
    · simp
  have hhostname : support.hostname url = .ok (some (String.ofList (host.map Char.toLower))) := by
    have hempty : host.isEmpty = false := by
      simpa using h.host_ne
    unfold UrlSupport.hostname
    dsimp only
    rw [checkBrackets_plain h.plainNetloc, checkNetloc_plain h.plainNetloc hnormal, h.hostInfo_eq,
      h.lowerHost_eq, hempty]
    rfl
  unfold refreshHost
  rw [hfound]
  change (support.hostname url >>= fun host => .ok (host.getD "")) = _
  rw [hhostname]
  rfl

end Shaped

/-! Where the three agree. -/

theorem finds_append_iff {rest : List Char} :
    Finds (.ok (String.ofList (host ++ rest))) host ↔ rest = [] := by
  constructor
  · rintro ⟨_, ⟨⟩, hlower⟩
    have hlength := congrArg (fun s => s.toList.length) hlower
    simp only [lower, String.toList_ofList, List.length_map, List.length_append] at hlength
    exact List.eq_nil_of_length_eq_zero (by omega)
  · rintro rfl
    exact ⟨_, rfl, by rw [List.append_nil]⟩

theorem finds_lower (host : List Char) :
    Finds (.ok (String.ofList (host.map Char.toLower))) host := by
  refine ⟨_, rfl, ?_⟩
  rw [lower, lower, String.toList_ofList, String.toList_ofList, List.map_map]
  congr 2
  funext c
  exact toLower_toLower c

/-- The orchestrated path needs the port, or nothing, behind the host. -/
theorem takeWhile_colon_eq_nil_iff :
    tail.takeWhile (· ≠ ':') = [] ↔ tail = [] ∨ ∃ after, tail = ':' :: after := by
  cases tail with
  | nil => simp
  | cons c after => simp

/-- Without a tail the last colon is the protocol's. -/
theorem Shaped.lastField_of_no_tail (h : Shaped url scheme host []) :
    lastField url = '/' :: '/' :: host := by
  have hcolon : ':' ∉ '/' :: '/' :: host := by
    simpa using h.colon_notMem_host
  have heq : url.toList = scheme ++ ':' :: '/' :: '/' :: host := by
    rw [h.eq, List.append_nil]
  rw [lastField, heq, ← List.singleton_append, ← List.append_assoc, rtakeWhile_append_of_notMem hcolon]

/-- What is left of a port and a path when the KV-aware router has cut them. -/
theorem cut_tail_eq_nil_iff {field after : List Char} :
    firstPiece ['/', '/'] (firstPiece (':' :: field) (':' :: after)) = [] ↔ field <+: after := by
  by_cases hstart : field <+: after
  · rw [firstPiece_of_isPrefix (List.cons_ne_nil _ _) (by simpa using hstart)]
    exact iff_of_true rfl hstart
  · rw [firstPiece_of_not_isPrefix (by simpa using hstart), firstPiece_of_not_isPrefix (by simp)]
    exact iff_of_false (List.cons_ne_nil _ _) hstart

namespace Shaped

variable (h : Shaped url scheme host tail)

include h

theorem finds_remoteHost_iff :
    Finds (Orchestration.remoteHost url) host ↔ tail = [] ∨ ∃ after, tail = ':' :: after := by
  rw [h.remoteHost_eq, finds_append_iff, takeWhile_colon_eq_nil_iff]

theorem finds_queryIp_iff :
    Finds (queryIp url) host ↔ ¬ lastField url <+: '/' :: '/' :: (host ++ tail) ∧
      firstPiece ['/', '/'] (firstPiece (':' :: lastField url) tail) = [] := by
  rw [h.queryIp_eq]
  split
  · next hstart =>
      constructor
      · rintro ⟨_, hfound, -⟩
        cases hfound
      · rintro ⟨hnot, -⟩
        exact absurd hstart hnot
  · next hstart => rw [finds_append_iff, and_iff_right hstart]

/-- The text behind the port's colon starts with a digit, and so with no slash. -/
theorem not_isPrefix_protocol {after field : List Char} (htail : tail = ':' :: after)
    (hne : field ≠ []) (hstart : field <+: after) : ¬ field <+: '/' :: '/' :: (host ++ tail) := by
  intro hslash
  obtain ⟨c, rest, rfl⟩ := List.exists_cons_of_ne_nil hne
  have hc : c = '/' := (List.cons_prefix_cons.mp hslash).1
  rcases isPortAndPath_cases h.tail_path with hpath | ⟨digits, path, heq, hdigits, hdecimal, -⟩
  · rw [htail] at hpath
    rcases isPath_head hpath with hhead | hhead <;> cases hhead
  · obtain ⟨d, digits, rfl⟩ := List.exists_cons_of_ne_nil hdigits
    rw [htail] at heq
    rw [(List.cons.inj heq).2] at hstart
    have hd : c = d := (List.cons_prefix_cons.mp hstart).1
    have hslash := hdecimal d List.mem_cons_self
    rw [← hd, hc] at hslash
    revert hslash
    decide

theorem finds_both_iff : (Finds (queryIp url) host ∧ Finds (Orchestration.remoteHost url) host) ↔
      ∃ after, tail = ':' :: after ∧ lastField url ≠ [] ∧ lastField url <+: after := by
  rw [h.finds_queryIp_iff, h.finds_remoteHost_iff]
  constructor
  · rintro ⟨⟨hnot, hnil⟩, rfl | ⟨after, rfl⟩⟩
    · rw [h.lastField_of_no_tail, List.append_nil] at hnot
      exact absurd (List.prefix_refl _) hnot
    · refine ⟨after, rfl, ?_, cut_tail_eq_nil_iff.mp hnil⟩
      intro hempty
      rw [hempty] at hnot
      exact hnot (List.nil_prefix)
  · rintro ⟨after, rfl, hne, hstart⟩
    exact ⟨⟨h.not_isPrefix_protocol rfl hne hstart, cut_tail_eq_nil_iff.mpr hstart⟩,
      .inr ⟨after, rfl⟩⟩

end Shaped

/-- The three hosts are all found, and are the host of the URL, just when it has a port
and what follows its last colon also starts what follows the port's. -/
theorem hosts_agree_iff (support : UrlSupport) (hnormal : NormalHosts support) (url : String)
    (hvalid : validateUrl url) :
    (Finds (queryIp url) (hostPart url) ∧ Finds (refreshHost support url) (hostPart url) ∧
        Finds (Orchestration.remoteHost url) (hostPart url)) ↔
      ∃ after, tailPart url = ':' :: after ∧ lastField url ≠ [] ∧ lastField url <+: after := by
  obtain ⟨scheme, hshaped⟩ := shaped_of_validateUrl hvalid
  have hrefresh : Finds (refreshHost support url) (hostPart url) := by
    rw [hshaped.refreshHost_eq hnormal]
    exact finds_lower (hostPart url)
  rw [and_iff_right hrefresh, hshaped.finds_both_iff]

/-- A support that normalises nothing. -/
def plainSupport : UrlSupport := ⟨fun _ => .ok (), id⟩

theorem normalHosts_plainSupport : NormalHosts plainSupport := by
  intro cs hcs c hc
  exact not_inHost_of_elem _ (by decide) (hcs c hc)

/-- With a port and a path without colons, the three agree. -/
theorem hosts_agree_with_port :
    Finds (queryIp "http://Engine-1:8000/v1") "Engine-1".toList ∧
      Finds (refreshHost plainSupport "http://Engine-1:8000/v1") "Engine-1".toList ∧
      Finds (Orchestration.remoteHost "http://Engine-1:8000/v1") "Engine-1".toList := by
  have hvalid : validateUrl "http://Engine-1:8000/v1" := by decide
  apply (hosts_agree_iff plainSupport normalHosts_plainSupport _ hvalid).mpr
  refine ⟨"8000/v1".toList, by decide, by decide, ?_⟩
  exact ⟨[], by decide⟩

/-- Without a port the KV-aware router finds no host; with a path but no port the
orchestrated path takes the path along; a colon in the path makes the KV-aware router
take the port along. -/
theorem hosts_disagree :
    (validateUrl "http://host" ∧
      queryIp "http://host" = .error (.new indexError "list index out of range")) ∧
    (validateUrl "http://host/v1" ∧ hostPart "http://host/v1" = "host".toList ∧
      Orchestration.remoteHost "http://host/v1" = .ok "host/v1") ∧
    (validateUrl "http://host:8000/a:b" ∧ hostPart "http://host:8000/a:b" = "host".toList ∧
      queryIp "http://host:8000/a:b" = .ok "host:8000/a") := by
  refine ⟨⟨by decide, by rfl⟩, ⟨by decide, by decide, by rfl⟩, by decide, by decide, by rfl⟩

end ProductionStack.Config
