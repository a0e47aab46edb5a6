import Tollgate.Proofs.Protection
import Tollgate.Proofs.Split

set_option autoImplicit false

/-! # The path that is looked up

Routes are matched against the path that the URL of a request shows, and the URL is put together by
the framework. So it is the gate of the shown path that guards a request, however the URL is put
together (`serve_path`). That path need not be the path of the request. In a plain URL the host and
the path stand as they are, and the shown path is what the parts of the text are
(`Platform.shownPath_eq_ok_iff_of_plain`): a host that ends the authority itself has any path shown
that the client likes (`shows_target`), and behind any other host only a plain path is shown as it
is (`shows_path_iff`). In a checked URL the host does not matter, and what would end the path is
escaped (`eq_checkedPath_of_checked`). Tabs and line breaks are lost in both, so a request may
reach the handler of a route that is protected (`serve_path_files`).
-/

namespace Tollgate.Http

open Tollgate.Number Tollgate.Text Tollgate.Url Tollgate.Payment Tollgate.Route Tollgate.Gate

/-! ## URLs of requests -/

/-- The query of a request as it stands in a URL. -/
def Request.queryText (r : Request) : String :=
  if r.query = "" then "" else "?" ++ r.query

theorem Request.head?_queryText {r : Request} : ∀ c ∈ r.queryText.toList.head?, c = '?' := by
  unfold Request.queryText
  split
  · exact fun c hc => by cases hc
  · intro c hc
    rw [String.toList_append] at hc
    exact (Option.some.inj hc).symm

theorem Request.toList_urlWith {r : Request} {authority : String} {path : List Char} :
    (r.urlWith authority path).toList = r.scheme.toList ++
      ':' :: '/' :: '/' :: (authority.toList ++ (path ++ r.queryText.toList)) := by
  have hMark : "://".toList = [':', '/', '/'] := rfl
  unfold Request.urlWith Request.queryText
  simp only [String.toList_append, String.toList_ofList, hMark, List.append_assoc,
    List.cons_append, List.nil_append]

/-- What follows the path in a URL ends it, with or without tabs and line breaks. -/
theorem Request.ended_queryText {r : Request} :
    ∀ c ∈ (r.queryText.toList.filter isVisible).head?, isInPath c = false := by
  intro c hc
  rw [head?_filter_eq (by decide) Request.head?_queryText c hc]
  rfl

/-- The path of a URL that was put together with an authority and a path. -/
theorem Request.pathOf_urlWith {r : Request} {authority : String} {path shown : List Char}
    (hScheme : isScheme r.scheme.toList = true) :
    pathOf (r.urlWith authority path).toList = .ok shown ↔
      ∃ front back, Parts ((authority.toList ++ (path ++ r.queryText.toList)).filter isVisible)
        front shown back ∧ authorityFault? front = none := by
  rw [Request.toList_urlWith]
  exact pathOf_eq_ok_iff hScheme

/-- A path that is shown is one of the URL, if there is a URL. -/
theorem Platform.shownPath_eq_ok_iff {p : Platform} {r : Request} {path : String} :
    p.shownPath r = .ok path ↔ ∃ url, p.url r = .ok url ∧ pathOf url.toList = .ok path.toList := by
  unfold Platform.shownPath
  cases p.url r with
  | error f => simp [bind, Except.bind]
  | ok url =>
      cases hPath : pathOf url.toList with
      | error f => simp [bind, Except.bind, Except.mapError, hPath]
      | ok cs =>
          simp only [bind, Except.bind, Except.mapError, hPath, pure, Except.pure,
            Except.ok.injEq, exists_eq_left']
          exact ⟨fun h => by rw [← h, String.toList_ofList],
            fun h => by rw [h, String.ofList_toList]⟩

/-! ## Plain URLs -/

/-- In the plain URL of a request with a host a path is shown: without tabs and line breaks what
stands behind the scheme is a faultless authority, the path, and a query or a fragment. -/
def Request.Shows (r : Request) (host path : String) : Prop :=
  ∃ authority back,
    Parts ((host ++ r.path ++ r.queryText).toList.filter isVisible) authority path.toList back ∧
      authorityFault? authority = none

/-- A path that a URL can show as it is: it is empty or begins with a slash, and holds no question
mark, hash, tab or line break. -/
structure IsPlain (path : String) : Prop where
  slash : ∀ c ∈ path.toList.head?, c = '/'
  inPath : ∀ c ∈ path.toList, isInPath c = true
  visible : ∀ c ∈ path.toList, isVisible c = true

section Plain

variable {p : Platform} {r : Request} {host path : String}

/-- The path of a plain URL, told by its parts. -/
theorem Platform.shownPath_eq_ok_iff_of_plain (hUrl : p.url = Request.plainUrl)
    (hScheme : isScheme r.scheme.toList = true) (hHost : r.host = .ok host) :
    p.shownPath r = .ok path ↔ r.Shows host path := by
  have hPlain : p.url r = .ok (r.urlWith host r.path.toList) := by
    rw [hUrl, Request.plainUrl, hHost]
    rfl
  rw [Platform.shownPath_eq_ok_iff, hPlain]
  simp only [Except.ok.injEq, exists_eq_left', Request.Shows, String.toList_append,
    List.append_assoc]
  exact Request.pathOf_urlWith hScheme

/-- Whatever the host, what a URL shows is plain. -/
theorem isPlain_of_shows (h : r.Shows host path) : IsPlain path := by
  obtain ⟨authority, back, hParts, -⟩ := h
  refine ⟨hParts.slash, hParts.inPath, fun c hMem => ?_⟩
  have hText : c ∈ (host ++ r.path ++ r.queryText).toList.filter isVisible := by
    rw [hParts.joined]
    exact List.mem_append_right _ (List.mem_append_left _ hMem)
  exact (List.mem_filter.mp hText).2

/-- Behind a host that stands whole in the authority, the path of the request is shown as it is
exactly if it is plain. -/
theorem shows_path_iff (hInside : ∀ c ∈ host.toList, isInside c = true)
    (hFault : authorityFault? (host.toList.filter isVisible) = none) :
    r.Shows host r.path ↔ IsPlain r.path := by
  refine ⟨isPlain_of_shows, fun hPlain => ⟨_, r.queryText.toList.filter isVisible, ?_, hFault⟩⟩
  exact
    { joined := by
        rw [String.toList_append, String.toList_append, List.filter_append, List.filter_append,
          List.filter_eq_self.mpr hPlain.visible, List.append_assoc]
      inside := fun c hMem => hInside c (List.mem_of_mem_filter hMem)
      slash := hPlain.slash
      inPath := hPlain.inPath
      ended := Request.ended_queryText }

/-- A host that goes on with a path and a question mark has that path shown, whatever the path of
the request is. -/
theorem shows_target {server target more : String}
    (hInside : ∀ c ∈ server.toList, isInside c = true)
    (hFault : authorityFault? (server.toList.filter isVisible) = none) (hTarget : IsPlain target) :
    r.Shows (server ++ target ++ "?" ++ more) target := by
  refine ⟨_, '?' :: ((more ++ r.path ++ r.queryText).toList.filter isVisible), ?_, hFault⟩
  exact
    { joined := by
        have hMark : "?".toList.filter isVisible = ['?'] := rfl
        simp only [String.toList_append, List.filter_append, hMark,
          List.filter_eq_self.mpr hTarget.visible, List.append_assoc, List.cons_append,
          List.nil_append]
      inside := fun c hMem => hInside c (List.mem_of_mem_filter hMem)
      slash := hTarget.slash
      inPath := hTarget.inPath
      ended := fun c hc => by
        rw [← Option.some.inj hc]
        rfl }

example : (Platform.plain.shownPath
    ⟨"GET", "http", "/weather", "", [("Host", "h/free?")], "testserver", 80⟩).toOption =
      some "/free" := by
  decide +kernel

end Plain

/-! ## Checked URLs -/

/-- What a character of a path is written as. -/
def escapeChar (c : Char) : List Char :=
  if c = '?' then "%3F".toList
  else if c = '#' then "%23".toList
  else if c = '\\' then "%5C".toList
  else [c]

theorem escapePath_eq (cs : List Char) :
    escapePath cs =
      if (cs.flatMap escapeChar).isEmpty || (cs.flatMap escapeChar).head? == some '/'
      then cs.flatMap escapeChar else '/' :: cs.flatMap escapeChar := rfl

/-- A character that is not escaped. -/
def isKept (c : Char) : Bool :=
  c != '?' && c != '#' && c != '\\'

theorem isKept_iff {c : Char} : isKept c = true ↔ c ≠ '?' ∧ c ≠ '#' ∧ c ≠ '\\' := by
  unfold isKept
  simp only [Bool.and_eq_true, bne_iff_ne, and_assoc]

theorem isInPath_of_isKept {c : Char} (h : isKept c = true) : isInPath c = true := by
  obtain ⟨hQuestion, hHash, -⟩ := isKept_iff.mp h
  unfold isInPath
  rw [Bool.and_eq_true, bne_iff_ne, bne_iff_ne]
  exact ⟨hQuestion, hHash⟩

theorem escapeChar_of_isKept {c : Char} (h : isKept c = true) : escapeChar c = [c] := by
  obtain ⟨hQuestion, hHash, hBackslash⟩ := isKept_iff.mp h
  unfold escapeChar
  rw [if_neg hQuestion, if_neg hHash, if_neg hBackslash]

/-- What a character is escaped to needs no further escape. -/
theorem isKept_of_mem_escapeChar {c : Char} : ∀ d ∈ escapeChar c, isKept d = true := by
  unfold escapeChar
  by_cases hQuestion : c = '?'
  · rw [if_pos hQuestion]
    exact List.all_eq_true.mp (by decide)
  rw [if_neg hQuestion]
  by_cases hHash : c = '#'
  · rw [if_pos hHash]
    exact List.all_eq_true.mp (by decide)
  rw [if_neg hHash]
  by_cases hBackslash : c = '\\'
  · rw [if_pos hBackslash]
    exact List.all_eq_true.mp (by decide)
  rw [if_neg hBackslash]
  exact List.forall_mem_singleton.mpr (isKept_iff.mpr ⟨hQuestion, hHash, hBackslash⟩)

theorem isKept_of_mem_escapePath {cs : List Char} : ∀ c ∈ escapePath cs, isKept c = true := by
  have hEscaped : ∀ c ∈ cs.flatMap escapeChar, isKept c = true := by
    intro c hMem
    obtain ⟨d, -, hc⟩ := List.mem_flatMap.mp hMem
    exact isKept_of_mem_escapeChar c hc
  rw [escapePath_eq]
  split
  · exact hEscaped
  · exact List.forall_mem_cons.mpr ⟨by decide, hEscaped⟩

/-- A path in a URL is empty or begins with a slash. -/
theorem head?_escapePath {cs : List Char} : ∀ c ∈ (escapePath cs).head?, c = '/' := by
  rw [escapePath_eq]
  by_cases h : ((cs.flatMap escapeChar).isEmpty || (cs.flatMap escapeChar).head? == some '/') = true
  · rw [if_pos h]
    intro c hc
    rcases Bool.or_eq_true_iff.mp h with hEmpty | hHead
    · rw [List.isEmpty_iff.mp hEmpty] at hc
      cases hc
    · rw [beq_iff_eq.mp hHead] at hc
      exact (Option.some.inj hc).symm
  · rw [if_neg h]
    intro c hc
    exact (Option.some.inj hc).symm

/-- The path of a request as a checked URL shows it. -/
def checkedPath (path : String) : String :=
  String.ofList ((escapePath path.toList).filter isVisible)

theorem escapePath_of_isKept {cs : List Char} (hSlash : ∀ c ∈ cs.head?, c = '/')
    (hKept : ∀ c ∈ cs, isKept c = true) : escapePath cs = cs := by
  have hEscaped : cs.flatMap escapeChar = cs := by
    calc cs.flatMap escapeChar = cs.flatMap (fun c => [c]) :=
          List.flatMap_congr (fun c hMem => escapeChar_of_isKept (hKept c hMem))
      _ = cs := List.flatMap_singleton' cs
  rw [escapePath_eq, hEscaped]
  cases cs with
  | nil => rfl
  | cons c cs =>
      rw [hSlash c rfl]
      rfl

/-- A checked URL shows the path of a request as it is exactly if it is plain and holds no
backslash. -/
theorem checkedPath_eq_self_iff {path : String} :
    checkedPath path = path ↔ IsPlain path ∧ '\\' ∉ path.toList := by
  constructor
  · intro h
    have hShown : (escapePath path.toList).filter isVisible = path.toList := by
      have hList := congrArg String.toList h
      rwa [checkedPath, String.toList_ofList] at hList
    have hKept : ∀ c ∈ path.toList, isKept c = true := by
      intro c hMem
      rw [← hShown] at hMem
      exact isKept_of_mem_escapePath c (List.mem_of_mem_filter hMem)
    refine ⟨⟨?_, fun c hMem => isInPath_of_isKept (hKept c hMem), fun c hMem => ?_⟩, ?_⟩
    · rw [← hShown]
      exact head?_filter_eq (by decide) head?_escapePath
    · rw [← hShown] at hMem
      exact (List.mem_filter.mp hMem).2
    · exact fun hMem => (isKept_iff.mp (hKept _ hMem)).2.2 rfl
  · rintro ⟨hPlain, hBackslash⟩
    have hKept : ∀ c ∈ path.toList, isKept c = true := by
      intro c hMem
      have hIn := hPlain.inPath c hMem
      rw [isInPath, Bool.and_eq_true, bne_iff_ne, bne_iff_ne] at hIn
      exact isKept_iff.mpr ⟨hIn.1, hIn.2, fun hc => hBackslash (hc ▸ hMem)⟩
    unfold checkedPath
    rw [escapePath_of_isKept hPlain.slash hKept, List.filter_eq_self.mpr hPlain.visible,
      String.ofList_toList]

/-- A request as a server hands it over: its scheme is known, and the name of the server would not
end an authority. -/
structure Request.IsServed (r : Request) : Prop where
  scheme : (schemePort? r.scheme).isSome = true
  serverName : ∀ c ∈ r.serverName.toList, isInside c = true

theorem Request.exists_authority {r : Request} (h : r.IsServed) :
    ∃ authority, r.authority = .ok authority ∧ ∀ c ∈ authority.toList, isInside c = true := by
  have hServer : ∃ authority, r.serverAuthority = .ok authority ∧
      ∀ c ∈ authority.toList, isInside c = true := by
    unfold Request.serverAuthority
    obtain ⟨port, hPort⟩ := Option.isSome_iff_exists.mp h.scheme
    rw [hPort]
    simp only
    split
    · exact ⟨_, rfl, h.serverName⟩
    · have hDigits : ∀ c ∈ (String.ofList (natText r.serverPort)).toList, isInside c = true := by
        rw [String.toList_ofList]
        intro c hMem
        have hDigit : c.isDigit = true := Nat.isDigit_of_mem_toDigits (by decide) (by decide) hMem
        exact isInside_of_isDigit hDigit
      refine ⟨_, rfl, ?_⟩
      rw [String.toList_append, String.toList_append]
      have hColon : ∀ c ∈ r.serverName.toList ++ ":".toList, isInside c = true :=
        List.forall_mem_append.mpr ⟨h.serverName, List.all_eq_true.mp (by decide)⟩
      exact List.forall_mem_append.mpr ⟨hColon, hDigits⟩
  unfold Request.authority
  cases r.headers.get? "host" with
  | none => exact hServer
  | some host =>
      simp only
      split
      · rename_i hHost
        exact ⟨host, rfl, forall_mem_of_isAuthority hHost⟩
      · exact hServer

/-- The schemes whose port is known are schemes. -/
theorem isScheme_of_schemePort? {scheme : String} (h : (schemePort? scheme).isSome = true) :
    isScheme scheme.toList = true := by
  unfold schemePort? at h
  split at h
  · rename_i hKnown
    rcases hKnown with rfl | rfl <;> rfl
  · split at h
    · rename_i hKnown
      rcases hKnown with rfl | rfl <;> rfl
    · cases h

/-- What a checked URL shows is the path of the request as it is escaped, whatever the host and the
query are. -/
theorem eq_checkedPath_of_checked {p : Platform} {r : Request} {path : String}
    (hUrl : p.url = Request.checkedUrl) (h : r.IsServed) (hShown : p.shownPath r = .ok path) :
    path = checkedPath r.path := by
  obtain ⟨authority, hAuthority, hInside⟩ := Request.exists_authority h
  obtain ⟨url, hSame, hPath⟩ := Platform.shownPath_eq_ok_iff.mp hShown
  rw [hUrl, Request.checkedUrl, hAuthority] at hSame
  obtain rfl := Except.ok.inj hSame
  obtain ⟨front, back, hFound, -⟩ :=
    (Request.pathOf_urlWith (isScheme_of_schemePort? h.scheme)).mp hPath
  -- the parts that the URL was put together with are those that are found
  have hParts : Parts ((authority.toList ++ (escapePath r.path.toList ++
      r.queryText.toList)).filter isVisible) (authority.toList.filter isVisible)
      ((escapePath r.path.toList).filter isVisible) (r.queryText.toList.filter isVisible) :=
    { joined := by rw [List.filter_append, List.filter_append]
      inside := fun c hMem => hInside c (List.mem_of_mem_filter hMem)
      slash := head?_filter_eq (by decide) head?_escapePath
      inPath := fun c hMem =>
        isInPath_of_isKept (isKept_of_mem_escapePath c (List.mem_of_mem_filter hMem))
      ended := Request.ended_queryText }
  have hList : path.toList = (escapePath r.path.toList).filter isVisible :=
    hFound.unique.2.trans hParts.unique.2.symm
  rw [checkedPath, ← hList, String.ofList_toList]

/-! ## The gate of the shown path -/

section Serve

variable {platform : Platform} {payTo : String} {routes : Routes} {branding : Branding}
  {e : Enforcement} {request : Request} {events : List (Event Response)}
  {outcome : Except Failure Response}

/-- A request is served at a path: by the gate that is found there, so that the handler runs only
after a valid verification of a payment for it, or by the handler alone if none is found. -/
structure Enforcement.ServesAt (e : Enforcement) (path : String) (request : Request)
    (events : List (Event Response)) (outcome : Except Failure Response) : Prop where
  guarded : ∀ g, e.gates.find? path request.method = some g →
    e.gate? request = some g ∧ ∀ reply, .handled reply ∈ events →
      ∃ call v, e.Charges request call ∧ .verified call (.ok v) ∈ events ∧ v.isValid = true
  free : e.gates.find? path request.method = none →
    e.gate? request = none ∧ events = [.handled outcome]

/-- A request is served at the path that its URL shows. -/
theorem Enforcement.servesAt_of_shownPath
    (he : Enforcement.build platform payTo routes branding = .ok e)
    (hc : (e.serve request).Course events (.done outcome)) {path : String}
    (hShown : e.platform.shownPath request = .ok path) :
    e.ServesAt path request events outcome where
  guarded := fun g hFind => by
    have hg : e.gate? request = some g := Enforcement.gate?_eq_some_iff.mpr ⟨path, hShown, hFind⟩
    refine ⟨hg, fun reply hHandled => ?_⟩
    obtain ⟨rs, hRs, hEnding⟩ := Enforcement.ending_of_serve he hg hc
    obtain ⟨call, v, hSelected, hVerified, hValid⟩ := hEnding.verified_of_handled hHandled
    exact ⟨call, v, Enforcement.charges_of_selected he hg hRs hSelected, hVerified, hValid⟩
  free := fun hFind => by
    have hNone : e.gate? request = none := by
      unfold Enforcement.gate?
      rw [hShown]
      exact hFind
    exact ⟨hNone, Enforcement.course_of_free ⟨path, hShown, hFind⟩ hc⟩

/-- **The path that is protected.** However the URL of a request is put together, the request is
served at the path that the URL shows: the gate that is found there guards it, and where none is
found the handler runs unpaid, even if the path of the request itself would find one. A URL that
shows no path fails the request before anything is done. If the host and the path stand in the URL
as they are, the shown path is the one that the parts of the text give, and behind a host that
stands whole in the authority it is the path of the request exactly if that is plain. -/
theorem serve_path (he : Enforcement.build platform payTo routes branding = .ok e)
    (hc : (e.serve request).Course events (.done outcome)) :
    (∀ path, platform.shownPath request = .ok path → e.ServesAt path request events outcome) ∧
    (∀ f, platform.shownPath request = .error f → events = [] ∧ outcome = .error f) ∧
    (platform.url = Request.plainUrl → isScheme request.scheme.toList = true →
      ∀ host, request.host = .ok host →
        (∀ path, platform.shownPath request = .ok path ↔ request.Shows host path) ∧
        ((∀ c ∈ host.toList, isInside c = true) →
          authorityFault? (host.toList.filter isVisible) = none →
            (platform.shownPath request = .ok request.path ↔ IsPlain request.path))) := by
  have hPlatform := Enforcement.platform_of_build he
  refine ⟨fun path hShown => ?_, fun f hShown => ?_, fun hUrl hScheme host hHost => ?_⟩
  · exact Enforcement.servesAt_of_shownPath he hc (hPlatform ▸ hShown)
  · unfold Enforcement.serve at hc
    rw [hPlatform, hShown] at hc
    obtain ⟨rfl, rfl⟩ := Session.Course.of_done hc
    exact ⟨rfl, rfl⟩
  · have hShows : ∀ path, platform.shownPath request = .ok path ↔ request.Shows host path :=
      fun path => Platform.shownPath_eq_ok_iff_of_plain hUrl hScheme hHost
    refine ⟨hShows, fun hInside hFault => ?_⟩
    rw [hShows]
    exact shows_path_iff hInside hFault

end Serve

/-- The path of the report is plain, and the host of the shop stands whole in the authority: the
gate of the report guards the request, and it was paid for. -/
theorem serve_path_shop : IsPlain Shop.request.path ∧
    Shop.enforcement.platform.shownPath Shop.request = .ok Shop.request.path ∧
    ∃ g call v events outcome,
      Shop.enforcement.gates.find? Shop.request.path Shop.request.method = some g ∧
      (Shop.enforcement.serve Shop.request).Course events (.done outcome) ∧
      .handled (.ok Shop.report) ∈ events ∧ .verified call (.ok v) ∈ events ∧
      v.isValid = true := by
  obtain ⟨g, _, r, hg, hc⟩ := Shop.exists_course Shop.settled
  have hPlain : IsPlain Shop.request.path :=
    { slash := fun c hc => (Option.some.inj hc).symm
      inPath := List.all_eq_true.mp (by decide)
      visible := List.all_eq_true.mp (by decide) }
  obtain ⟨hServes, -, hUrl⟩ := serve_path Shop.build_eq hc
  have hHost : Shop.request.host = .ok "shop.example" := by
    simp [Request.host, Shop.request, Headers.get?, sameName, asciiLower]
  obtain ⟨-, hPath⟩ := hUrl rfl (by decide) "shop.example" hHost
  have hShown : Platform.plain.shownPath Shop.request = .ok Shop.request.path :=
    (hPath (List.all_eq_true.mp (by decide)) (by decide)).mpr hPlain
  -- the gate of the request was found for its shown path, which is its own
  have hFind : Shop.enforcement.gates.find? Shop.request.path Shop.request.method = some g := by
    obtain ⟨path, hSame, hFind⟩ := Enforcement.gate?_eq_some_iff.mp hg
    rw [Shop.platform_eq, hShown] at hSame
    rwa [Except.ok.inj hSame]
  have hHandled : .handled (.ok Shop.report) ∈ Shop.events ⟨Shop.payment, r⟩ Shop.settled :=
    Shop.handled_mem_events.mpr rfl
  obtain ⟨-, hVerified⟩ := (hServes _ hShown).guarded g hFind
  obtain ⟨call, v, -, hMem, hValid⟩ := hVerified _ hHandled
  exact ⟨hPlain, Shop.platform_eq ▸ hShown, g, call, v, _, _, hFind, hc, hHandled, hMem, hValid⟩

/-! ## A path that is lost

A table that protects the files under a path, and a request for a file whose name is a line
break. -/

namespace Files

/-- Who is paid. -/
def payTo : String := Shop.payTo

/-- A cent for every file. -/
def routes : Routes := .ofRows [("GET /files/[name]", .value (.text "$0.01"))]

/-- The gates of the files. -/
def enforcement : Enforcement :=
  ((Enforcement.build .plain payTo routes {}).toOption).getD ⟨.plain, ⟨[]⟩, {}⟩

theorem build_eq : Enforcement.build .plain payTo routes {} = .ok enforcement :=
  eq_ok_of_isOk (by decide +kernel) _

/-- A request without payment. -/
def request : Request where
  method := "GET"
  scheme := "http"
  path := "/files/\n"
  query := ""
  headers := [("Host", "h")]
  serverName := "testserver"
  serverPort := 80

end Files

/-- The path of the request finds a gate, but the path that its URL shows finds none: the handler
runs although nothing was paid. -/
theorem serve_path_files :
    Enforcement.build .plain Files.payTo Files.routes {} = .ok Files.enforcement ∧
      Files.request.payment Platform.plain.readingDepth = .ok none ∧
      (Files.enforcement.gates.find? Files.request.path Files.request.method).isSome = true ∧
      Platform.plain.shownPath Files.request = .ok "/files/" ∧
      ∀ own, (Files.enforcement.serve Files.request).Course [.handled own] (.done own) := by
  have hShown : Platform.plain.shownPath Files.request = .ok "/files/" :=
    toOption_eq_some_iff.mp (by decide +kernel)
  have hFree : Files.enforcement.IsFree Files.request := by
    refine ⟨"/files/", ?_, ?_⟩
    · rw [Enforcement.platform_of_build Files.build_eq]
      exact hShown
    · have hNone :
          (Files.enforcement.gates.find? "/files/" Files.request.method).isNone = true := by
        decide +kernel
      exact Option.isNone_iff_eq_none.mp hNone
  refine ⟨Files.build_eq, rfl, by decide +kernel, hShown, fun own => ?_⟩
  rw [Enforcement.serve_of_free hFree]
  exact .cons (.handle _ own) (.nil _)

end Tollgate.Http
