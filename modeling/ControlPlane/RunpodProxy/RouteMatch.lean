import ControlPlane.Library.HexText
import ControlPlane.Library.HttpsUrls
import ControlPlane.Library.TextParts

/-! The routes of the RunPod proxy: which paths it serves, and where what it serves is sent on. A path
is served under the suffix it is sent on with.
-/

namespace ControlPlane.RunpodProxy

open ControlPlane.Library
open ControlPlane.Library.HttpsUrls
open ControlPlane.Library.Percent
open ControlPlane.Library.UrlPaths

-----------------------------------------------------------------------------------------
-- The matcher
-----------------------------------------------------------------------------------------

inductive PassthroughOp
  | status
  | health
  | cancel
  deriving DecidableEq, Repr

def PassthroughOp.text : PassthroughOp → String
  | .status => "status"
  | .health => "health"
  | .cancel => "cancel"

/-- A route that is unknown is refused; a path that is not the proxy's has no route. -/
inductive ProxyRoute
  | submit (endpointId : String)
  | poll (op : PassthroughOp) (endpointId : String) (jobId : Option String)
  | webhook (token : String)
  | unknown
  deriving DecidableEq, Repr

def PROXY_PREFIX : String := "/api/runpod"

def PROXY_UPSTREAM_PREFIX : String := PROXY_PREFIX ++ "/v2"

def PROXY_WEBHOOK_PREFIX : String := PROXY_PREFIX ++ "/webhook"

def isSegmentChar (c : Char) : Bool :=
  c.isAlphanum || c = '_' || c = '-'

/-- SEGMENT. -/
def isSegment (text : List Char) : Bool :=
  text ≠ [] ∧ text.all isSegmentChar

/-- TOKEN. -/
def isWebhookToken (text : List Char) : Bool :=
  text.length = 64 ∧ text.all isLowerHex

/-- What a path has behind a prefix and a slash. -/
def behind (front : String) (path : List Char) : Option (List Char) :=
  if (front ++ "/").toList.isPrefixOf path then some (path.drop (front.toList.length + 1)) else none

/-- The route of the segments behind the upstream prefix. -/
def matchUpstream (method : String) : List (List Char) → ProxyRoute
  | [] => .unknown
  | endpointId :: rest =>
      if ¬ isSegment endpointId then .unknown
      else
        match rest with
        | [op] =>
            if op = "run".toList ∧ method = "POST" then .submit (String.ofList endpointId)
            else if op = "health".toList ∧ method = "GET" then
              .poll .health (String.ofList endpointId) none
            else .unknown
        | [op, jobId] =>
            if isSegment jobId then
              if op = "status".toList ∧ method = "GET" then
                .poll .status (String.ofList endpointId) (some (String.ofList jobId))
              else if op = "cancel".toList ∧ method = "POST" then
                .poll .cancel (String.ofList endpointId) (some (String.ofList jobId))
              else .unknown
            else .unknown
        | _ => .unknown

def matchProxyRoute (method path : String) : Option ProxyRoute :=
  let chars := path.toList
  if path ≠ PROXY_PREFIX ∧ behind PROXY_PREFIX chars = none then none
  else
    match behind PROXY_WEBHOOK_PREFIX chars with
    | some token =>
        if method = "POST" ∧ isWebhookToken token then some (.webhook (String.ofList token))
        else some .unknown
    | none =>
        match behind PROXY_UPSTREAM_PREFIX chars with
        | some rest => some (matchUpstream method (rest.splitOn '/'))
        | none => some .unknown

-----------------------------------------------------------------------------------------
-- Where a route leads
-----------------------------------------------------------------------------------------

def RUNPOD_HOST : String := "https://api.runpod.ai"

def encoded (text : String) : String :=
  String.ofList (encodeURIComponent text.toList)

/-- Where handleProxySubmit posts to. -/
def submitUrlFor (endpointId : String) : String :=
  RUNPOD_HOST ++ "/v2/" ++ encoded endpointId ++ "/run"

/-- Where a poll goes. It throws for an operation that misses its job id. -/
def upstreamUrlFor (op : PassthroughOp) (endpointId : String) (jobId : Option String)
    : Option String :=
  let base := "https://api.runpod.ai/v2/" ++ encoded endpointId
  if op = .health then some (base ++ "/health")
  else
    (jobId.filter fun id => id ≠ "").map fun id => base ++ "/" ++ op.text ++ "/" ++ encoded id

/-- The method and the URL that the handler of a route fetches. -/
def upstreamOf : ProxyRoute → Option (String × String)
  | .submit endpointId => some ("POST", submitUrlFor endpointId)
  | .poll op endpointId jobId =>
      (upstreamUrlFor op endpointId jobId).map fun url =>
        (if op = .cancel then "POST" else "GET", url)
  | .webhook _ => none
  | .unknown => none

-----------------------------------------------------------------------------------------
-- The grammar
-----------------------------------------------------------------------------------------

/-- The paths of the proxy. -/
def Under (path : String) : Prop :=
  path = PROXY_PREFIX ∨ ∃ rest, path = PROXY_PREFIX ++ "/" ++ rest

/-- The routes that are served, with the method and the path of each. -/
inductive Serves : String → String → ProxyRoute → Prop
  | submit {endpointId : String} (isEndpoint : isSegment endpointId.toList = true)
    : Serves "POST" ("/api/runpod/v2/" ++ endpointId ++ "/run") (.submit endpointId)
  | health {endpointId : String} (isEndpoint : isSegment endpointId.toList = true)
    : Serves "GET" ("/api/runpod/v2/" ++ endpointId ++ "/health") (.poll .health endpointId none)
  | status {endpointId jobId : String} (isEndpoint : isSegment endpointId.toList = true)
    (isJob : isSegment jobId.toList = true)
    : Serves "GET" ("/api/runpod/v2/" ++ endpointId ++ "/status/" ++ jobId)
        (.poll .status endpointId (some jobId))
  | cancel {endpointId jobId : String} (isEndpoint : isSegment endpointId.toList = true)
    (isJob : isSegment jobId.toList = true)
    : Serves "POST" ("/api/runpod/v2/" ++ endpointId ++ "/cancel/" ++ jobId)
        (.poll .cancel endpointId (some jobId))
  | webhook {token : String} (isToken : isWebhookToken token.toList = true)
    : Serves "POST" ("/api/runpod/webhook/" ++ token) (.webhook token)

/-- What is accepted of a method and a path. -/
structure ExactGrammar (method path : String) : Prop where
  ours : matchProxyRoute method path = none ↔ ¬ Under path
  accepted : ∀ route, route ≠ .unknown →
    (matchProxyRoute method path = some route ↔ Serves method path route)
  refused : Under path → (∀ route, ¬ Serves method path route) →
    matchProxyRoute method path = some .unknown
  /-- A submit or a poll goes to RunPod, with its method, under the suffix of its own path. -/
  upstream : ∀ route, matchProxyRoute method path = some route → route ≠ .unknown →
    (∀ token, route ≠ .webhook token) →
    ∃ url suffix, upstreamOf route = some (method, url)
      ∧ path = PROXY_UPSTREAM_PREFIX ++ "/" ++ suffix
      ∧ parseHttps url.toList
        = some { host := "api.runpod.ai".toList, path := "/v2/".toList ++ suffix.toList }

-----------------------------------------------------------------------------------------
-- Segments
-----------------------------------------------------------------------------------------

theorem segmentChars {text : List Char} (segment : isSegment text = true)
    : ∀ c ∈ text, c.isAlphanum = true ∨ c = '_' ∨ c = '-' := by
  intro c inside
  have all := List.all_eq_true.mp (of_decide_eq_true segment).2 c inside
  simp only [isSegmentChar, Bool.or_eq_true, decide_eq_true_eq] at all
  rcases all with (alphanum | isUnderscore) | isDash
  · exact .inl alphanum
  · exact .inr (.inl isUnderscore)
  · exact .inr (.inr isDash)

/-- What is in no segment. -/
theorem not_mem_segment {text : List Char} (segment : isSegment text = true) {c : Char}
    (other : isSegmentChar c = false)
    : c ∉ text := by
  intro inside
  rw [List.all_eq_true.mp (of_decide_eq_true segment).2 c inside] at other
  cases other

theorem calm_segment {text : List Char} (segment : isSegment text = true)
    : ∀ c ∈ text, isCalm c = true := by
  intro c inside
  apply isCalm_of_word
  rcases segmentChars segment c inside with alphanum | isUnderscore | isDash
  · exact .inl alphanum
  · exact .inr (.inr (.inl isUnderscore))
  · exact .inr (.inl isDash)

/-- A segment is its own encoding. -/
theorem encoded_segment {text : String} (segment : isSegment text.toList = true)
    : encoded text = text := by
  rw [encoded, encodeURIComponent_eq_self, String.ofList_toList]
  intro c inside
  rcases segmentChars segment c inside with alphanum | rfl | rfl
  · rw [isUriUnreserved, alphanum, Bool.true_or]
  · rfl
  · rfl

/-- A dot segment begins with a dot, or with the sign of one that is encoded. -/
theorem not_dots_segment {text : List Char} (segment : isSegment text = true)
    : isDots text = false := by
  rw [Bool.eq_false_iff]
  intro dots
  have front : ∃ rest,
      text.map Char.toLower = '.' :: rest ∨ text.map Char.toLower = '%' :: rest := by
    simp only [isDots, isDoubleDot, isSingleDot, Bool.or_eq_true, decide_eq_true_eq,
      List.mem_cons, List.not_mem_nil, or_false] at dots
    rcases dots with (lower | lower | lower | lower) | lower | lower
    · exact ⟨_, .inl lower⟩
    · exact ⟨_, .inl lower⟩
    · exact ⟨_, .inr lower⟩
    · exact ⟨_, .inr lower⟩
    · exact ⟨_, .inl lower⟩
    · exact ⟨_, .inr lower⟩
  obtain ⟨rest, isDot | isPercent⟩ := front
  · obtain ⟨c, more, same, first, -⟩ := List.map_eq_cons_iff.mp isDot
    have dot : c = '.' := eq_of_toLower first (by decide)
    exact not_mem_segment segment (c := '.') (by decide) (by simp [same, dot])
  · obtain ⟨c, more, same, first, -⟩ := List.map_eq_cons_iff.mp isPercent
    have sign : c = '%' := eq_of_toLower first (by decide)
    exact not_mem_segment segment (c := '%') (by decide) (by simp [same, sign])

/-- Segments are cut apart again. -/
theorem splitOn_segments {segments : List (List Char)} (some_ : segments ≠ [])
    (words : ∀ part ∈ segments, isSegment part = true)
    : (['/'].intercalate segments).splitOn '/' = segments := by
  apply List.splitOn_intercalate
  · intro part isPart
    exact not_mem_segment (words part isPart) (by decide)
  · exact some_

/-- Segments behind the version, as a URL of RunPod. -/
theorem parse_upstream {segment : List Char} {segments : List (List Char)}
    (words : ∀ part ∈ segment :: segments, isSegment part = true)
    : parseHttps
        ("https://".toList
          ++ ("api.runpod.ai".toList ++ pathText ("v2".toList :: segment :: segments)))
      = some
          { host := "api.runpod.ai".toList
            path := "/v2/".toList ++ ['/'].intercalate (segment :: segments) } := by
  have version : isSegment "v2".toList = true := by decide
  have all : ∀ part ∈ "v2".toList :: segment :: segments, isSegment part = true := by
    intro part isPart
    rcases List.mem_cons.mp isPart with isVersion | inPath
    · rw [isVersion]
      exact version
    · exact words part inPath
  have isHost : isPlainDomain "api.runpod.ai".toList = true := by decide
  have parsed := parseHttps_segments isHost
    (fun part isPart => calm_segment (all part isPart))
    (fun part isPart => not_dots_segment (all part isPart))
  rw [parsed, pathText_cons, List.intercalate_cons_cons]
  rfl

-----------------------------------------------------------------------------------------
-- Prefixes
-----------------------------------------------------------------------------------------

theorem behind_eq_some {front : String} {path rest : List Char}
    : behind front path = some rest ↔ path = (front ++ "/").toList ++ rest := by
  have length : front.toList.length + 1 = (front ++ "/").toList.length := by simp
  rw [behind, length]
  constructor
  · intro found
    split at found
    · next isPrefix =>
        rw [← Option.some.inj found]
        exact (List.prefix_iff_eq_append.mp (List.isPrefixOf_iff_prefix.mp isPrefix)).symm
    · exact nomatch found
  · intro same
    rw [same, if_pos (List.isPrefixOf_iff_prefix.mpr (List.prefix_append _ _)), List.drop_left]

/-- A path is the proxy's if it is the prefix, or has something behind it. -/
theorem under_iff {path : String}
    : Under path ↔ ¬ (path ≠ PROXY_PREFIX ∧ behind PROXY_PREFIX path.toList = none) := by
  constructor
  · intro under ⟨notPrefix, nothing⟩
    rcases under with isPrefix | ⟨rest, same⟩
    · exact notPrefix isPrefix
    · have found : behind PROXY_PREFIX path.toList = some rest.toList := by
        rw [behind_eq_some, same, String.toList_append]
      exact nomatch nothing.symm.trans found
  · intro ours
    by_cases isPrefix : path = PROXY_PREFIX
    · exact .inl isPrefix
    · cases found : behind PROXY_PREFIX path.toList with
      | none => exact absurd ⟨isPrefix, found⟩ ours
      | some rest =>
          refine .inr ⟨String.ofList rest, String.toList_injective ?_⟩
          exact (behind_eq_some.mp found).trans (by simp)

-----------------------------------------------------------------------------------------
-- What is matched
-----------------------------------------------------------------------------------------

/-- What segments are served as. -/
theorem matchUpstream_cases {method : String} {segments : List (List Char)} {route : ProxyRoute}
    (isRoute : matchUpstream method segments = route) (known : route ≠ .unknown)
    : ∃ endpointId, isSegment endpointId = true
      ∧ ((segments = [endpointId, "run".toList] ∧ method = "POST"
            ∧ route = .submit (String.ofList endpointId))
          ∨ (segments = [endpointId, "health".toList] ∧ method = "GET"
            ∧ route = .poll .health (String.ofList endpointId) none)
          ∨ ∃ jobId, isSegment jobId = true
            ∧ ((segments = [endpointId, "status".toList, jobId] ∧ method = "GET"
                  ∧ route
                    = .poll .status (String.ofList endpointId) (some (String.ofList jobId)))
                ∨ (segments = [endpointId, "cancel".toList, jobId] ∧ method = "POST"
                  ∧ route
                    = .poll .cancel (String.ofList endpointId) (some (String.ofList jobId))))) := by
  subst isRoute
  unfold matchUpstream at known ⊢
  split at known
  · exact absurd rfl known
  · next endpointId rest =>
      split at known
      · exact absurd rfl known
      · next isEndpoint =>
          refine ⟨endpointId, not_not.mp isEndpoint, ?_⟩
          simp only [if_neg isEndpoint]
          split at known
          · next op =>
              split at known
              · next run =>
                  left
                  simp [run]
              · split at known
                · next notRun health =>
                    right; left
                    simp [health]
                · exact absurd rfl known
          · next op jobId =>
              split at known
              · next isJob =>
                  right; right
                  refine ⟨jobId, isJob, ?_⟩
                  split at known
                  · next status =>
                      left
                      simp [status, isJob]
                  · split at known
                    · next notStatus cancel =>
                        right
                        simp [cancel, isJob]
                    · exact absurd rfl known
              · exact absurd rfl known
          · exact absurd rfl known

/-- A path under the upstream prefix is matched by its segments. -/
theorem match_upstream {method path : String} {rest : List Char}
    (same : path.toList = "/api/runpod/v2/".toList ++ rest)
    : matchProxyRoute method path = some (matchUpstream method (rest.splitOn '/')) := by
  have upstream : behind PROXY_UPSTREAM_PREFIX path.toList = some rest := behind_eq_some.mpr same
  have ours : behind PROXY_PREFIX path.toList = some ("v2/".toList ++ rest) :=
    behind_eq_some.mpr same
  have noWebhook : behind PROXY_WEBHOOK_PREFIX path.toList = none := by
    cases found : behind PROXY_WEBHOOK_PREFIX path.toList with
    | none => rfl
    | some token =>
        have twice := same.symm.trans (behind_eq_some.mp found)
        have letter : some 'v' = some 'w' := congrArg (fun text => text[12]?) twice
        exact absurd letter (by decide)
  simp only [matchProxyRoute, ours, noWebhook, upstream]
  simp

/-- A path under the webhook prefix is matched by its token. -/
theorem match_webhook {method path : String} {token : List Char}
    (same : path.toList = "/api/runpod/webhook/".toList ++ token)
    : matchProxyRoute method path
      = if method = "POST" ∧ isWebhookToken token then some (.webhook (String.ofList token))
        else some .unknown := by
  have webhook : behind PROXY_WEBHOOK_PREFIX path.toList = some token := behind_eq_some.mpr same
  have ours : behind PROXY_PREFIX path.toList = some ("webhook/".toList ++ token) :=
    behind_eq_some.mpr same
  simp only [matchProxyRoute, ours, webhook]
  simp

/-- The segments of a route that is sent on. -/
def segmentsOf : ProxyRoute → List (List Char)
  | .submit endpointId => [endpointId.toList, "run".toList]
  | .poll op endpointId jobId =>
      endpointId.toList :: op.text.toList :: jobId.toList.map String.toList
  | .webhook _ => []
  | .unknown => []

/-- A route that is sent on, by its segments: its path and its URL have them, behind the version. -/
structure SentOn (method path : String) (route : ProxyRoute) : Prop where
  segments : segmentsOf route ≠ []
  words : ∀ part ∈ segmentsOf route, isSegment part = true
  path : path.toList = "/api/runpod/v2/".toList ++ ['/'].intercalate (segmentsOf route)
  url
    : ∃ url, upstreamOf route = some (method, url)
      ∧ url.toList
        = "https://".toList
          ++ ("api.runpod.ai".toList ++ pathText ("v2".toList :: segmentsOf route))

/-- What is served is a callback, or it is sent on. -/
theorem sentOn_of_serves {method path : String} {route : ProxyRoute}
    (serves : Serves method path route)
    : (∃ token, route = .webhook token) ∨ SentOn method path route := by
  have run : isSegment "run".toList = true := by decide
  have health : isSegment "health".toList = true := by decide
  have status : isSegment "status".toList = true := by decide
  have cancel : isSegment "cancel".toList = true := by decide
  cases serves with
  | @submit endpointId isEndpoint =>
      right
      constructor
      · exact List.cons_ne_nil _ _
      · simp only [segmentsOf, List.forall_mem_cons]
        exact ⟨isEndpoint, run, List.forall_mem_nil _⟩
      · simp [segmentsOf, List.intercalate]
      · refine ⟨_, rfl, ?_⟩
        simp [submitUrlFor, RUNPOD_HOST, encoded_segment isEndpoint, segmentsOf, pathText]
  | @health endpointId isEndpoint =>
      right
      constructor
      · exact List.cons_ne_nil _ _
      · simp only [segmentsOf, List.forall_mem_cons]
        exact ⟨isEndpoint, health, List.forall_mem_nil _⟩
      · simp [segmentsOf, List.intercalate, PassthroughOp.text]
      · refine ⟨_, rfl, ?_⟩
        simp [encoded_segment isEndpoint, segmentsOf, pathText, PassthroughOp.text]
  | @status endpointId jobId isEndpoint isJob =>
      have filled : jobId ≠ "" := by
        intro h
        obtain rfl := h
        cases isJob
      right
      constructor
      · exact List.cons_ne_nil _ _
      · simp only [segmentsOf, Option.toList_some, List.map_cons, List.map_nil,
          List.forall_mem_cons]
        exact ⟨isEndpoint, status, isJob, List.forall_mem_nil _⟩
      · simp [segmentsOf, List.intercalate, PassthroughOp.text]
      · refine ⟨_, by simp [upstreamOf, upstreamUrlFor, filled]; rfl, ?_⟩
        simp [encoded_segment isEndpoint, encoded_segment isJob, segmentsOf, pathText,
          PassthroughOp.text]
  | @cancel endpointId jobId isEndpoint isJob =>
      have filled : jobId ≠ "" := by
        intro h
        obtain rfl := h
        cases isJob
      right
      constructor
      · exact List.cons_ne_nil _ _
      · simp only [segmentsOf, Option.toList_some, List.map_cons, List.map_nil,
          List.forall_mem_cons]
        exact ⟨isEndpoint, cancel, isJob, List.forall_mem_nil _⟩
      · simp [segmentsOf, List.intercalate, PassthroughOp.text]
      · refine ⟨_, by simp [upstreamOf, upstreamUrlFor, filled]; rfl, ?_⟩
        simp [encoded_segment isEndpoint, encoded_segment isJob, segmentsOf, pathText,
          PassthroughOp.text]
  | @webhook token isToken => exact .inl ⟨token, rfl⟩

/-- A path with the segments of a route that is served is served as that route. -/
theorem serves_of_segments {method path other : String} {route : ProxyRoute}
    (serves : Serves method other route) (sent : ∀ token, route ≠ .webhook token)
    (same : path.toList = "/api/runpod/v2/".toList ++ ['/'].intercalate (segmentsOf route))
    : Serves method path route := by
  rcases sentOn_of_serves serves with ⟨token, isWebhook⟩ | sentOn
  · exact absurd isWebhook (sent token)
  · have isPath : path = other := String.toList_injective (same.trans sentOn.path.symm)
    rwa [isPath]

/-- A route that is served is matched. -/
theorem match_of_serves {method path : String} {route : ProxyRoute}
    (serves : Serves method path route)
    : matchProxyRoute method path = some route := by
  rcases sentOn_of_serves serves with ⟨token, isWebhook⟩ | sentOn
  · subst isWebhook
    cases serves with
    | webhook isToken =>
        rw [match_webhook String.toList_append, if_pos ⟨rfl, isToken⟩, String.ofList_toList]
  · rw [match_upstream sentOn.path, splitOn_segments sentOn.segments sentOn.words]
    cases serves with
    | submit isEndpoint => simp [segmentsOf, matchUpstream, isEndpoint]
    | health isEndpoint => simp [segmentsOf, matchUpstream, isEndpoint, PassthroughOp.text]
    | status isEndpoint isJob =>
        simp [segmentsOf, matchUpstream, isEndpoint, isJob, PassthroughOp.text]
    | cancel isEndpoint isJob =>
        simp [segmentsOf, matchUpstream, isEndpoint, isJob, PassthroughOp.text]
    | webhook isToken => exact absurd rfl sentOn.segments

/-- A route that is matched is served. -/
theorem serves_of_match {method path : String} {route : ProxyRoute}
    (isMatch : matchProxyRoute method path = some route) (known : route ≠ .unknown)
    : Serves method path route := by
  simp only [matchProxyRoute] at isMatch
  split at isMatch
  · exact nomatch isMatch
  split at isMatch
  · next token found =>
      split at isMatch
      · next accepted =>
          have same : path = "/api/runpod/webhook/" ++ String.ofList token := by
            have text : (String.ofList token).toList = token := String.toList_ofList
            apply String.toList_injective
            rw [String.toList_append, text]
            exact behind_eq_some.mp found
          rw [accepted.1, same, ← Option.some.inj isMatch]
          exact .webhook (by simpa using accepted.2)
      · exact absurd (Option.some.inj isMatch).symm known
  split at isMatch
  · next rest found =>
      have joined : ['/'].intercalate (rest.splitOn '/') = rest := List.intercalate_splitOn ..
      have same : path.toList = "/api/runpod/v2/".toList ++ rest := behind_eq_some.mp found
      rw [← joined] at same
      obtain ⟨endpointId, isEndpoint, parts⟩ :=
        matchUpstream_cases (Option.some.inj isMatch) known
      have endpoint : (String.ofList endpointId).toList = endpointId := String.toList_ofList
      have isEndpoint' : isSegment (String.ofList endpointId).toList = true := by rwa [endpoint]
      rcases parts with ⟨parts, rfl, rfl⟩ | ⟨parts, rfl, rfl⟩ | ⟨jobId, isJob, last⟩
      · apply serves_of_segments (.submit isEndpoint') nofun
        rw [same, parts, segmentsOf, endpoint]
      · apply serves_of_segments (.health isEndpoint') nofun
        rw [same, parts, segmentsOf, endpoint]
        rfl
      · have job : (String.ofList jobId).toList = jobId := String.toList_ofList
        have isJob' : isSegment (String.ofList jobId).toList = true := by rwa [job]
        rcases last with ⟨parts, rfl, rfl⟩ | ⟨parts, rfl, rfl⟩
        · apply serves_of_segments (.status isEndpoint' isJob') nofun
          rw [same, parts, segmentsOf, endpoint, Option.toList_some, List.map_singleton, job]
          rfl
        · apply serves_of_segments (.cancel isEndpoint' isJob') nofun
          rw [same, parts, segmentsOf, endpoint, Option.toList_some, List.map_singleton, job]
          rfl
  · exact absurd (Option.some.inj isMatch).symm known

/-- The proxy serves its grammar, and what it sends on goes where its path says. -/
theorem exactGrammar (method path : String) : ExactGrammar method path where
  ours := by
    rw [under_iff, not_not, matchProxyRoute]
    constructor
    · intro none_
      by_contra ours
      simp only [if_neg ours] at none_
      split at none_
      · split at none_ <;> exact nomatch none_
      · split at none_ <;> exact nomatch none_
    · intro notOurs
      exact if_pos notOurs
  accepted route known := ⟨fun isMatch => serves_of_match isMatch known, match_of_serves⟩
  refused under unserved := by
    cases matched : matchProxyRoute method path with
    | none =>
        rw [under_iff] at under
        simp only [matchProxyRoute, if_neg under] at matched
        split at matched
        · split at matched <;> exact nomatch matched
        · split at matched <;> exact nomatch matched
    | some route =>
        by_cases unknown : route = .unknown
        · rw [unknown]
        · exact absurd (serves_of_match matched unknown) (unserved route)
  upstream := by
    intro route matched known sent
    rcases sentOn_of_serves (serves_of_match matched known) with ⟨token, isWebhook⟩ | sentOn
    · exact absurd isWebhook (sent token)
    · obtain ⟨url, isUpstream, chars⟩ := sentOn.url
      have suffix : (String.ofList (['/'].intercalate (segmentsOf route))).toList
          = ['/'].intercalate (segmentsOf route) :=
        String.toList_ofList
      refine ⟨url, String.ofList (['/'].intercalate (segmentsOf route)), isUpstream, ?_, ?_⟩
      · apply String.toList_injective
        rw [sentOn.path, String.toList_append, suffix]
        rfl
      · obtain ⟨segment, segments, isCons⟩ := List.exists_cons_of_ne_nil sentOn.segments
        have words := sentOn.words
        rw [suffix]
        rw [isCons] at words chars ⊢
        rw [chars, parse_upstream words]

end ControlPlane.RunpodProxy
