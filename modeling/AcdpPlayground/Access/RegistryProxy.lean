/-
The passthrough to the registries, `playground/api/registry_proxy.py`: which paths are
forwarded, and the request that goes upstream for them.

A path arrives percent-decoded and is encoded again segment by segment. The patterns end in
`$`, which also stands before a newline at the end of the path. The query is
`request.url.query`, which the framework splits off the URL that it makes of the decoded path
and the raw query: the raw query itself when the path has no `?` and neither has a `#`. Names
of request headers are lower-case.
-/

import AcdpPlayground.Auth.TokenManager
import AcdpPlayground.Client.Sending
import AcdpPlayground.Foundation.PercentEncoding
import AcdpPlayground.Foundation.TextPattern
import AcdpPlayground.Foundation.TextMethods

namespace AcdpPlayground.Access

open PythonText TextPattern PercentEncoding TextEncoding

/-! ### Paths -/

/-- `[^/]`. -/
def isSegmentPoint (point : Nat) : Bool :=
  point ≠ 47

def fixedPaths : List Text :=
  [text "healthz", text "contexts/search", text ".well-known/acdp.json",
    text ".well-known/jwks.json", text ".well-known/did.json"]

/-- `^literal$`. -/
def fixedPattern (path : Text) : Pattern :=
  [.start, .literal path, .lineEnd]

/-- `^lineages/[^/]+$`. -/
def lineagePattern : Pattern :=
  [.start, .literal (text "lineages/"), .repeated isSegmentPoint 1 none, .lineEnd]

/-- `^lineages/[^/]+/current$`. -/
def currentPattern : Pattern :=
  [.start, .literal (text "lineages/"), .repeated isSegmentPoint 1 none,
    .literal (text "/current"), .lineEnd]

def allowedPaths : List Pattern :=
  [fixedPattern (text "healthz"), fixedPattern (text "contexts/search"), lineagePattern,
    currentPattern, fixedPattern (text ".well-known/acdp.json"),
    fixedPattern (text ".well-known/jwks.json"), fixedPattern (text ".well-known/did.json")]

def refusedSegments : List Text :=
  [text "", text ".", text ".."]

def isAllowed (path : Text) : Bool :=
  if (path.splitOn 47).any (fun segment => refusedSegments.contains segment) then false
  else allowedPaths.any (fun pattern => reMatch pattern path)

/-! ### The paths that are meant -/

structure IsSegment (segment : Text) : Prop where
  nonempty : segment ≠ []
  noSlash : 47 ∉ segment
  notDot : segment ≠ text "."
  notDots : segment ≠ text ".."

def lineagePath (segment : Text) : Text :=
  text "lineages/" ++ segment

def currentPath (segment : Text) : Text :=
  text "lineages/" ++ segment ++ text "/current"

def AllowedForm (path : Text) : Prop :=
  path ∈ fixedPaths ∨
    ∃ segment, IsSegment segment ∧ (path = lineagePath segment ∨ path = currentPath segment)

/-- A path that ends in a literal, with a newline behind it. -/
def NewlineEnded (path : Text) : Prop :=
  ∃ stem, path = stem ++ [10] ∧
    (stem ∈ fixedPaths ∨ ∃ segment, IsSegment segment ∧ stem = currentPath segment)

theorem reMatch_lineage_iff (path : Text) :
    reMatch lineagePattern path = true ↔
      ∃ segment, segment ≠ [] ∧ 47 ∉ segment ∧ path = lineagePath segment := by
  unfold lineagePattern
  rw [reMatch_iff]
  constructor
  · rintro ⟨final, member⟩
    obtain ⟨_, started⟩ := ends_start_cons.mp member
    obtain ⟨rest, rfl, stemmed⟩ := ends_literal_cons.mp started
    obtain ⟨segment, behind, rfl, points, least, _, ended⟩ := ends_repeated_cons.mp stemmed
    have isEnd := exists_ends_lineEnd.mp ⟨final, ended⟩
    refine ⟨segment ++ behind, ?_, ?_, rfl⟩
    · exact List.append_ne_nil_of_left_ne_nil (List.ne_nil_of_length_pos least) _
    · intro inside
      rcases List.mem_append.mp inside with here | later
      · exact of_decide_eq_true (points 47 here) rfl
      · rcases isEnd with rfl | rfl
        · cases later
        · exact absurd (List.mem_singleton.mp later) (by decide)
  · rintro ⟨segment, nonempty, noSlash, rfl⟩
    obtain ⟨final, member⟩ :=
      (@exists_ends_lineEnd (segment.reverse ++ ((text "lineages/").reverse ++ [])) []).mpr (.inl rfl)
    refine ⟨final, ends_start_cons.mpr ⟨rfl, ends_literal_cons.mpr ⟨segment, rfl, ?_⟩⟩⟩
    refine ends_repeated_cons.mpr
      ⟨segment, [], (List.append_nil _).symm, ?_, List.length_pos_of_ne_nil nonempty, ?_, member⟩
    · intro point inside
      exact decide_eq_true (fun isSlash => noSlash (isSlash ▸ inside))
    · intro bound isBound
      cases isBound

theorem reMatch_current_iff (path : Text) :
    reMatch currentPattern path = true ↔
      ∃ segment, segment ≠ [] ∧ 47 ∉ segment ∧
        (path = currentPath segment ∨ path = currentPath segment ++ [10]) := by
  unfold currentPattern
  rw [reMatch_iff]
  constructor
  · rintro ⟨final, member⟩
    obtain ⟨_, started⟩ := ends_start_cons.mp member
    obtain ⟨rest, rfl, stemmed⟩ := ends_literal_cons.mp started
    obtain ⟨segment, more, rfl, points, least, _, named⟩ := ends_repeated_cons.mp stemmed
    obtain ⟨behind, rfl, ended⟩ := ends_literal_cons.mp named
    refine ⟨segment, List.ne_nil_of_length_pos least, ?_, ?_⟩
    · intro inside
      exact of_decide_eq_true (points 47 inside) rfl
    · unfold currentPath
      rcases exists_ends_lineEnd.mp ⟨final, ended⟩ with rfl | rfl
      · left
        rw [List.append_nil, List.append_assoc]
      · right
        rw [List.append_assoc, List.append_assoc]
  · rintro ⟨segment, nonempty, noSlash, whole⟩
    have ahead : ∃ behind, path = text "lineages/" ++ (segment ++ (text "/current" ++ behind)) ∧
        (behind = [] ∨ behind = [10]) := by
      unfold currentPath at whole
      rcases whole with rfl | rfl
      · exact ⟨[], by simp only [List.append_nil, List.append_assoc], .inl rfl⟩
      · exact ⟨[10], by simp only [List.append_assoc], .inr rfl⟩
    obtain ⟨behind, rfl, isEnd⟩ := ahead
    obtain ⟨final, member⟩ :=
      (@exists_ends_lineEnd ((text "/current").reverse ++
        (segment.reverse ++ ((text "lineages/").reverse ++ []))) behind).mpr isEnd
    refine ⟨final, ends_start_cons.mpr ⟨rfl, ends_literal_cons.mpr ⟨_, rfl, ?_⟩⟩⟩
    refine ends_repeated_cons.mpr
      ⟨segment, _, rfl, ?_, List.length_pos_of_ne_nil nonempty, ?_,
        ends_literal_cons.mpr ⟨behind, rfl, member⟩⟩
    · intro point inside
      exact decide_eq_true (fun isSlash => noSlash (isSlash ▸ inside))
    · intro bound isBound
      cases isBound

theorem mem_allowedPaths_iff (pattern : Pattern) :
    pattern ∈ allowedPaths ↔ pattern = lineagePattern ∨ pattern = currentPattern ∨
      ∃ stem ∈ fixedPaths, pattern = fixedPattern stem := by
  have fixed : (∃ stem ∈ fixedPaths, pattern = fixedPattern stem) ↔
      pattern ∈ fixedPaths.map fixedPattern := by
    rw [List.mem_map]
    constructor
    · rintro ⟨stem, member, same⟩
      exact ⟨stem, member, same.symm⟩
    · rintro ⟨stem, member, same⟩
      exact ⟨stem, member, same.symm⟩
  have order : allowedPaths.Perm (lineagePattern :: currentPattern :: fixedPaths.map fixedPattern) :=
    (@List.perm_middle _ _ [_, _] _).trans (.cons _ (@List.perm_middle _ _ [_, _] _))
  rw [order.mem_iff, List.mem_cons, List.mem_cons, fixed]

/-! ### Segments -/

theorem isAllowed_true_iff (path : Text) :
    isAllowed path = true ↔
      (∀ segment ∈ path.splitOn 47, segment ∉ refusedSegments) ∧
        allowedPaths.any (fun pattern => reMatch pattern path) = true := by
  unfold isAllowed
  by_cases refused : (path.splitOn 47).any (fun segment => refusedSegments.contains segment) = true
  · rw [if_pos refused]
    refine iff_of_false (by decide) ?_
    rintro ⟨clear, _⟩
    obtain ⟨segment, member, bad⟩ := List.any_eq_true.mp refused
    exact clear segment member (List.contains_iff_mem.mp bad)
  · rw [if_neg refused]
    constructor
    · intro matched
      refine ⟨?_, matched⟩
      intro segment member bad
      exact refused (List.any_eq_true.mpr ⟨segment, member, List.contains_iff_mem.mpr bad⟩)
    · rintro ⟨_, matched⟩
      exact matched

theorem isSegment_iff {segment : Text} (noSlash : 47 ∉ segment) :
    IsSegment segment ↔ segment ∉ refusedSegments := by
  have members : segment ∈ refusedSegments ↔
      segment = [] ∨ segment = text "." ∨ segment = text ".." := by
    simp only [refusedSegments, List.mem_cons, List.not_mem_nil, or_false]
    rfl
  rw [members]
  constructor
  · rintro ⟨nonempty, _, notDot, notDots⟩ (empty | dot | dots)
    · exact nonempty empty
    · exact notDot dot
    · exact notDots dots
  · intro other
    exact ⟨fun empty => other (.inl empty), noSlash, fun dot => other (.inr (.inl dot)),
      fun dots => other (.inr (.inr dots))⟩

theorem splitOn_lineagePath {segment : Text} (noSlash : 47 ∉ segment) :
    (lineagePath segment).splitOn 47 = [text "lineages", segment] := by
  change (text "lineages" ++ 47 :: segment).splitOn 47 = _
  rw [List.splitOn_append_cons_self_of_not_mem (by decide), List.splitOn_eq_singleton noSlash]

theorem splitOn_currentPath {segment behind : Text} (noSlash : 47 ∉ segment)
    (clear : 47 ∉ behind) :
    (currentPath segment ++ behind).splitOn 47 =
      [text "lineages", segment, text "current" ++ behind] := by
  have shape : currentPath segment ++ behind =
      text "lineages" ++ 47 :: (segment ++ 47 :: (text "current" ++ behind)) := by
    unfold currentPath
    simp only [List.append_assoc]
    rfl
  have last : 47 ∉ text "current" ++ behind := by
    intro inside
    rcases List.mem_append.mp inside with literal | later
    · exact absurd literal (by decide)
    · exact clear later
  rw [shape, List.splitOn_append_cons_self_of_not_mem (by decide),
    List.splitOn_append_cons_self_of_not_mem noSlash, List.splitOn_eq_singleton last]

/-! ### The language of the allow-list -/

theorem fixedPaths_clear : ∀ stem ∈ fixedPaths,
    (∀ segment ∈ stem.splitOn 47, segment ∉ refusedSegments) ∧
      ∀ segment ∈ (stem ++ [10]).splitOn 47, segment ∉ refusedSegments := by
  decide +kernel

theorem clear_lineagePath {segment : Text} (isSegment : IsSegment segment) :
    ∀ other ∈ (lineagePath segment).splitOn 47, other ∉ refusedSegments := by
  rw [splitOn_lineagePath isSegment.noSlash, List.forall_mem_cons, List.forall_mem_singleton]
  exact ⟨by decide, (isSegment_iff isSegment.noSlash).mp isSegment⟩

theorem clear_currentPath {segment behind : Text} (isSegment : IsSegment segment)
    (newline : behind = [] ∨ behind = [10]) :
    ∀ other ∈ (currentPath segment ++ behind).splitOn 47, other ∉ refusedSegments := by
  have clear : 47 ∉ behind := by
    rcases newline with rfl | rfl
    · exact List.not_mem_nil
    · decide
  rw [splitOn_currentPath isSegment.noSlash clear, List.forall_mem_cons, List.forall_mem_cons,
    List.forall_mem_singleton]
  refine ⟨by decide, (isSegment_iff isSegment.noSlash).mp isSegment, ?_⟩
  rcases newline with rfl | rfl
  · decide
  · decide

theorem isAllowed_iff (path : Text) :
    isAllowed path = true ↔ AllowedForm path ∨ NewlineEnded path := by
  rw [isAllowed_true_iff, List.any_eq_true]
  constructor
  · rintro ⟨clear, pattern, member, matched⟩
    rcases (mem_allowedPaths_iff pattern).mp member with rfl | rfl | ⟨stem, isFixed, rfl⟩
    · obtain ⟨segment, _, noSlash, rfl⟩ := (reMatch_lineage_iff path).mp matched
      rw [splitOn_lineagePath noSlash] at clear
      have isSegment := (isSegment_iff noSlash).mpr (clear segment (by simp))
      exact .inl (.inr ⟨segment, isSegment, .inl rfl⟩)
    · obtain ⟨segment, _, noSlash, rfl | rfl⟩ := (reMatch_current_iff path).mp matched
      · rw [← List.append_nil (currentPath segment),
          splitOn_currentPath noSlash List.not_mem_nil] at clear
        have isSegment := (isSegment_iff noSlash).mpr (clear segment (by simp))
        exact .inl (.inr ⟨segment, isSegment, .inr rfl⟩)
      · rw [splitOn_currentPath noSlash (by decide)] at clear
        have isSegment := (isSegment_iff noSlash).mpr (clear segment (by simp))
        exact .inr ⟨currentPath segment, rfl, .inr ⟨segment, isSegment, rfl⟩⟩
    · rcases (reMatch_literal_line stem path).mp matched with rfl | rfl
      · exact .inl (.inl isFixed)
      · exact .inr ⟨stem, rfl, .inl isFixed⟩
  · rintro ((isFixed | ⟨segment, isSegment, rfl | rfl⟩) |
      ⟨stem, rfl, isFixed | ⟨segment, isSegment, rfl⟩⟩)
    · exact ⟨(fixedPaths_clear path isFixed).1, _,
        (mem_allowedPaths_iff _).mpr (.inr (.inr ⟨path, isFixed, rfl⟩)),
        (reMatch_literal_line _ _).mpr (.inl rfl)⟩
    · exact ⟨clear_lineagePath isSegment, _, (mem_allowedPaths_iff _).mpr (.inl rfl),
        (reMatch_lineage_iff _).mpr ⟨segment, isSegment.nonempty, isSegment.noSlash, rfl⟩⟩
    · have clear := clear_currentPath isSegment (.inl rfl)
      rw [List.append_nil] at clear
      exact ⟨clear, _, (mem_allowedPaths_iff _).mpr (.inr (.inl rfl)),
        (reMatch_current_iff _).mpr ⟨segment, isSegment.nonempty, isSegment.noSlash, .inl rfl⟩⟩
    · exact ⟨(fixedPaths_clear stem isFixed).2, _,
        (mem_allowedPaths_iff _).mpr (.inr (.inr ⟨stem, isFixed, rfl⟩)),
        (reMatch_literal_line _ _).mpr (.inr rfl)⟩
    · exact ⟨clear_currentPath isSegment (.inr rfl), _,
        (mem_allowedPaths_iff _).mpr (.inr (.inl rfl)),
        (reMatch_current_iff _).mpr ⟨segment, isSegment.nonempty, isSegment.noSlash, .inr rfl⟩⟩

theorem not_allowedForm_of_newline {path : Text} (newline : NewlineEnded path) :
    ¬AllowedForm path := by
  have fixedEnds : ∀ stem ∈ fixedPaths, stem.getLast? ≠ some 10 := by decide
  have fixedStarts : ∀ stem ∈ fixedPaths, (stem ++ [10]).take 9 ≠ text "lineages/" := by decide
  obtain ⟨stem, rfl, isStem⟩ := newline
  rintro (isFixed | ⟨segment, isSegment, same | same⟩)
  · exact fixedEnds _ isFixed List.getLast?_concat
  · rcases isStem with isFixed | ⟨other, _, rfl⟩
    · apply fixedStarts stem isFixed
      rw [same]
      rfl
    · unfold currentPath lineagePath at same
      rw [List.append_assoc, List.append_assoc] at same
      apply isSegment.noSlash
      rw [← List.append_cancel_left same]
      exact List.mem_append_right _ List.mem_cons_self
  · have last : (currentPath segment).getLast? = some 116 :=
      List.getLast?_append_of_ne_nil _ (by decide)
    rw [← same, List.getLast?_concat] at last
    cases last

/-- The allow-list is exact up to a newline behind a path that ends in a literal. -/
theorem allow_list_exact_iff (path : Text) :
    (isAllowed path = true ↔ AllowedForm path) ↔ ¬NewlineEnded path := by
  rw [isAllowed_iff]
  constructor
  · intro exact newline
    exact not_allowedForm_of_newline newline (exact.mp (.inr newline))
  · intro other
    constructor
    · rintro (form | newline)
      · exact form
      · exact absurd newline other
    · exact .inl

theorem healthz_newline_allowed :
    ¬(isAllowed (text "healthz\n") = true ↔ AllowedForm (text "healthz\n")) := by
  intro exact
  have newline : NewlineEnded (text "healthz\n") :=
    ⟨text "healthz", rfl, .inl (by decide)⟩
  exact not_allowedForm_of_newline newline (exact.mp (by decide +kernel))

/-! ### The proxy -/

inductive RegistryChoice where
  | a
  | b
deriving DecidableEq

structure ProxySettings where
  registryAUrl : String
  registryBUrl : String

structure ProxyRequest where
  urlQuery : String
  headers : List (String × String)

structure UpstreamGet where
  url : Text
  headers : List (String × String)

structure Upstream where
  statusCode : Nat
  content : List UInt8
  headers : List (String × String)

/-- An `httpx.HTTPError` by the name of its type. -/
inductive UpstreamAnswer where
  | httpError (typeName : String)
  | answered (upstream : Upstream)

inductive ProxyResult where
  | notFound (detail : Text)
  | unicodeEncodeError
  /-- 502 with the code `registry_unreachable`. -/
  | unreachable (registry : RegistryChoice) (detail : String)
  | responded (statusCode : Nat) (content : List UInt8) (headers : List (String × String))

structure Proxied where
  sent : List UpstreamGet
  result : ProxyResult

def forwardRequestHeaders : List String :=
  ["accept", "if-none-match"]

def forwardResponseHeaders : List String :=
  ["content-type", "cache-control", "etag", "last-modified", "retry-after", "vary"]

def ProxySettings.base (settings : ProxySettings) : RegistryChoice → String
  | .a => settings.registryAUrl
  | .b => settings.registryBUrl

/-- `"/".join(quote(seg, safe=":@") for seg in path.split("/"))`. -/
def encodePath (path : Text) : Option Text :=
  ((path.splitOn 47).mapM (quote (text ":@"))).map ([47].intercalate ·)

/-- `url += "?" + request.url.query` when there is one. -/
def withQuery (url : Text) (query : String) : Text :=
  if query ≠ "" then url ++ text "?" ++ text query else url

def passedHeaders (headers : List (String × String)) : List (String × String) :=
  forwardRequestHeaders.filterMap (fun name =>
    (Client.truthyText (headers.lookup name)).map (fun value => (name, value)))

def outHeaders (headers : List (String × String)) : List (String × String) :=
  forwardResponseHeaders.filterMap (fun name =>
    (headers.lookup name).map (fun value => (name, value)))

def proxy (settings : ProxySettings) (get : UpstreamGet → UpstreamAnswer)
    (registry : RegistryChoice) (path : Text) (request : ProxyRequest) : Proxied :=
  if !isAllowed path then
    { sent := [], result := .notFound (text "not an allow-listed registry path: /" ++ path) }
  else
    match encodePath path with
    | none => { sent := [], result := .unicodeEncodeError }
    | some encoded =>
        let base := text (Auth.rstripSlashes (settings.base registry))
        let outgoing : UpstreamGet :=
          { url := withQuery (base ++ text "/" ++ encoded) request.urlQuery
            headers := passedHeaders request.headers }
        { sent := [outgoing]
          result :=
            match get outgoing with
            | .httpError typeName => .unreachable registry typeName
            | .answered upstream =>
                .responded upstream.statusCode upstream.content (outHeaders upstream.headers) }

/-! ### What goes upstream -/

/-- A character that may stand in a path outside an escape. -/
def isRawPathPoint (point : Nat) : Bool :=
  point ≠ 63 && point ≠ 35 && 32 ≤ point && !(127 ≤ point && point ≤ 159)

/-- An encoded path that means the segments of the path it is made from. -/
structure EncodesPath (path encoded : Text) : Prop where
  escaped : wellEscaped isRawPathPoint encoded = true
  decoded : (encoded.splitOn 47).map percentDecode = (path.splitOn 47).map some
  segments : ∀ segment ∈ path.splitOn 47, segment ≠ [] ∧ segment ≠ text "." ∧ segment ≠ text ".."

theorem safePoints_colon_at : SafePoints (text ":@") := by
  unfold SafePoints
  decide

theorem isRawPathPoint_of_safe {point : Nat} (safe : isAlwaysSafe point = true) :
    isRawPathPoint point = true := by
  simp only [isAlwaysSafe, isAsciiDigit, Bool.or_eq_true, Bool.and_eq_true, decide_eq_true_eq,
    List.contains_iff_mem, List.mem_cons, List.not_mem_nil, or_false] at safe
  simp only [isRawPathPoint, Bool.and_eq_true, Bool.not_eq_true', Bool.and_eq_false_iff,
    decide_eq_true_eq, decide_eq_false_iff_not]
  omega

theorem slash_not_mem_quote {segment encoded : Text}
    (quoted : quote (text ":@") segment = some encoded) : 47 ∉ encoded := by
  intro slash
  rcases mem_quote safePoints_colon_at quoted slash with percent | safe | given
  · cases percent
  · exact absurd safe (by decide)
  · exact absurd given (by decide)

theorem wellEscaped_intercalate {segments encoded : List Text}
    (quoted : segments.mapM (quote (text ":@")) = some encoded) :
    wellEscaped isRawPathPoint ([47].intercalate encoded) = true := by
  have accepted : ∀ point ∈ text ":@", isRawPathPoint point = true := by decide
  have passed : ∀ {segment part : Text}, quote (text ":@") segment = some part → ∀ rest,
      wellEscaped isRawPathPoint (part ++ rest) = wellEscaped isRawPathPoint rest := by
    intro segment part isPart
    exact wellEscaped_quote_append safePoints_colon_at (fun _ => isRawPathPoint_of_safe) accepted
      isPart
  have each := forall₂_of_mapM quoted
  clear quoted
  induction each with
  | nil => rfl
  | @cons _ part _ _ head tail ih =>
      cases tail with
      | nil =>
          rw [List.intercalate_singleton, ← List.append_nil part, passed head]
          rfl
      | cons _ _ =>
          rw [List.intercalate_cons_cons, List.append_assoc, passed head]
          exact ih

theorem decoded_segments {segments encoded : List Text}
    (quoted : segments.mapM (quote (text ":@")) = some encoded) :
    encoded.map percentDecode = segments.map some ∧ (∀ part ∈ encoded, 47 ∉ part) := by
  constructor
  · have each := forall₂_of_mapM quoted
    clear quoted
    induction each with
    | nil => rfl
    | cons head _ ih =>
        rw [List.map_cons, List.map_cons, ih, percentDecode_quote safePoints_colon_at head]
  · intro part member
    obtain ⟨segment, _, isPart⟩ := mem_of_mapM quoted part member
    exact slash_not_mem_quote isPart

theorem encodesPath_of_encodePath {path encoded : Text} (allowed : isAllowed path = true)
    (isEncoded : encodePath path = some encoded) : EncodesPath path encoded := by
  obtain ⟨parts, quoted, rfl⟩ := Option.map_eq_some_iff.mp isEncoded
  obtain ⟨decoded, clear⟩ := decoded_segments quoted
  have nonempty : parts ≠ [] := by
    rintro rfl
    have none := congrArg List.length decoded
    rw [List.length_map, List.length_map, List.length_nil] at none
    exact List.splitOn_ne_nil 47 path (List.length_eq_zero_iff.mp none.symm)
  refine ⟨wellEscaped_intercalate quoted, ?_, ?_⟩
  · rw [List.splitOn_intercalate 47 clear nonempty]
    exact decoded
  · intro segment member
    have other := ((isAllowed_true_iff path).mp allowed).1 segment member
    simp only [refusedSegments, List.mem_cons, List.not_mem_nil, or_false, not_or] at other
    exact other

theorem exists_encodePath (path : String) : ∃ encoded, encodePath (text path) = some encoded := by
  have encodable : (((text path).splitOn 47).mapM (quote (text ":@"))).isSome = true := by
    rw [mapM_isSome_iff]
    intro segment member
    apply Option.isSome_iff_exists.mpr
    apply exists_quote
    intro point inside
    have whole : point ∈ [47].intercalate ((text path).splitOn 47) :=
      TextMethods.mem_intercalate_of_mem member inside
    rw [List.intercalate_splitOn] at whole
    obtain ⟨char, _, rfl⟩ := List.mem_map.mp whole
    exact encodePoint_char char
  obtain ⟨parts, quoted⟩ := Option.isSome_iff_exists.mp encodable
  exact ⟨_, by unfold encodePath; rw [quoted]; rfl⟩

theorem mem_passedHeaders_iff (headers : List (String × String)) (name value : String) :
    (name, value) ∈ passedHeaders headers ↔
      (name = "accept" ∨ name = "if-none-match") ∧ headers.lookup name = some value ∧
        value ≠ "" := by
  have truthy : ∀ asked, Client.truthyText (headers.lookup asked) = some value ↔
      headers.lookup asked = some value ∧ value ≠ "" := by
    intro asked
    unfold Client.truthyText
    rw [Option.filter_eq_some_iff, decide_eq_true_iff]
  unfold passedHeaders
  rw [List.mem_filterMap]
  constructor
  · rintro ⟨asked, member, found⟩
    obtain ⟨given, isGiven, same⟩ := Option.map_eq_some_iff.mp found
    cases same
    simp only [forwardRequestHeaders, List.mem_cons, List.not_mem_nil, or_false] at member
    exact ⟨member, (truthy name).mp isGiven⟩
  · rintro ⟨member, isGiven⟩
    refine ⟨name, ?_, ?_⟩
    · simpa only [forwardRequestHeaders, List.mem_cons, List.not_mem_nil, or_false] using member
    · rw [(truthy name).mpr isGiven]
      rfl

def localSettings : ProxySettings where
  registryAUrl := "http://registry-a:8100/"
  registryBUrl := "http://registry-b:8101"

def searchRequest : ProxyRequest where
  urlQuery := "q=a%20b"
  headers := [("x-api-key", "secret"), ("accept", "application/json"), ("if-none-match", "")]

end AcdpPlayground.Access
