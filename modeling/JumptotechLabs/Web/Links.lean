/-
Module: JumptotechLabs.Web.Links
Layer: Web (apps/web/src/lib/router.ts)
Purpose: Which routes survive their own link. A route comes back from its link unless it is a test checkout whose
  reference has a colon, or a catalog one of whose filters was cut behind white space or between the halves of a pair.
Main exports: Names, names_routeOf, IsPath, Survives, routes_survive_iff
-/
import JumptotechLabs.Web.Router

namespace JumptotechLabs.Web

open JumptotechLabs.Core
open JumptotechLabs.Core.Utf16 (isDigit isHighSurrogate isSpace upperAscii)

/-! ### What a path names -/

/-- A group is captured exactly if the path is the head, an accepted id and the tail. -/
theorem captured_eq_some_iff {head tail : String} {accepts : Utf16 → Bool} {path id : Utf16} :
    captured head accepts tail path = some id ↔ path = units head ++ id ++ units tail ∧ accepts id = true := by
  rw [captured, Option.filter_eq_some_iff, Option.bind_eq_some_iff]
  refine and_congr_left fun _ => ?_
  constructor
  · rintro ⟨rest, isRest, isId⟩
    obtain ⟨start, rfl, starts⟩ := List.dropPrefix?_eq_some_iff.mp isRest
    obtain ⟨stop, rfl, stops⟩ := List.dropSuffix?_eq_some_iff.mp isId
    rw [eq_of_beq starts, eq_of_beq stops, List.append_assoc]
  · rintro rfl
    exact ⟨id ++ units tail, List.dropPrefix?_eq_some_iff.mpr ⟨units head, List.append_assoc _ _ _, beq_self_eq_true _⟩,
      List.dropSuffix?_eq_some_iff.mpr ⟨units tail, rfl, beq_self_eq_true _⟩⟩

/-- An id of a path: its units are those of `[A-Za-z0-9-]`. -/
def IsPlain (id : Utf16) : Prop := ∀ unit ∈ id, isIdUnit unit = true

/-- An accepted id is plain. -/
theorem isPlain_of_isId {least most : Nat} {id : Utf16} (accepted : isId least most id = true) : IsPlain id := by
  rw [isId, Bool.and_eq_true] at accepted
  exact List.all_eq_true.mp accepted.2

/-- A small letter may stand in an id. -/
theorem isIdUnit_of_isLower {unit : UInt16} (lower : isLower unit = true) : isIdUnit unit = true := by
  rw [isIdUnit, Utf16.isLetter]
  rw [isLower] at lower
  rw [lower, Bool.or_true, Bool.true_or, Bool.true_or]

/-- A slug is plain. -/
theorem isPlain_of_isSlug {least most : Nat} {id : Utf16} (accepted : isSlug least most id = true) : IsPlain id := by
  cases id with
  | nil => cases accepted
  | cons first rest =>
      rw [isSlug, Bool.and_eq_true, Bool.and_eq_true, Bool.or_eq_true] at accepted
      obtain ⟨⟨start, -⟩, others⟩ := accepted
      refine List.forall_mem_cons.mpr ⟨?_, fun unit member => ?_⟩
      · rcases start with lower | digit
        · exact isIdUnit_of_isLower lower
        · rw [isIdUnit, digit, Bool.or_true, Bool.true_or]
      · have slug := List.all_eq_true.mp others unit member
        rw [isSlugUnit, Bool.or_eq_true, Bool.or_eq_true] at slug
        rcases slug with (lower | digit) | dash
        · exact isIdUnit_of_isLower lower
        · rw [isIdUnit, digit, Bool.or_true, Bool.true_or]
        · rw [isIdUnit, dash, Bool.or_true]

/-- The units of an id, by their numbers. -/
theorem isIdUnit_iff {unit : UInt16} : isIdUnit unit = true ↔
    (65 ≤ unit.toNat ∧ unit.toNat ≤ 90) ∨ (97 ≤ unit.toNat ∧ unit.toNat ≤ 122) ∨
      (48 ≤ unit.toNat ∧ unit.toNat ≤ 57) ∨ unit.toNat = 45 := by
  simp only [isIdUnit, Utf16.isLetter, isDigit, Bool.or_eq_true, Bool.and_eq_true, decide_eq_true_eq, beq_iff_eq,
    UInt16.le_iff_toNat_le, ← UInt16.toNat_inj, or_assoc, UInt16.reduceToNat]

/-- What no id holds. -/
theorem IsPlain.not_mem {id : Utf16} (plain : IsPlain id) {unit : UInt16} (other : isIdUnit unit = false) :
    unit ∉ id := by
  intro member
  rw [plain unit member] at other
  cases other

/-- The units of ids, the dot and the underscore are not escaped. -/
theorem unreserved_of_toNat {unit : UInt16} (shape : (65 ≤ unit.toNat ∧ unit.toNat ≤ 90) ∨
    (97 ≤ unit.toNat ∧ unit.toNat ≤ 122) ∨ (48 ≤ unit.toNat ∧ unit.toNat ≤ 57) ∨ unit.toNat = 45 ∨
    unit.toNat = 46 ∨ unit.toNat = 95) : unit.toNat < 0x80 ∧ isUnreserved unit.toUInt8 = true := by
  have same : unit.toUInt8.toNat = unit.toNat := by
    rw [UInt16.toNat_toUInt8]
    omega
  refine ⟨by omega, ?_⟩
  simp only [isUnreserved, Bool.or_eq_true, Bool.and_eq_true, decide_eq_true_eq, UInt8.le_iff_toNat_le, List.mem_cons,
    List.not_mem_nil, or_false, ← UInt8.toNat_inj, same]
  simp only [UInt8.reduceToNat]
  omega

/-- An id is written as it stands. -/
theorem IsPlain.encode {id : Utf16} (plain : IsPlain id) : encodeURIComponent id = some id :=
  encodeURIComponent_of_unreserved fun unit member => unreserved_of_toNat <| by
    have shape := isIdUnit_iff.mp (plain unit member)
    omega

/-- The number of an upper-cased unit. -/
theorem toNat_upperAscii (unit : UInt16) : (upperAscii unit).toNat =
    if 97 ≤ unit.toNat ∧ unit.toNat ≤ 122 then unit.toNat - 32 else unit.toNat := by
  simp only [upperAscii, Bool.and_eq_true, decide_eq_true_eq, UInt16.le_iff_toNat_le, UInt16.reduceToNat]
  split
  case isFalse => rfl
  case isTrue lower =>
    refine UInt16.toNat_sub_of_le _ _ ?_
    simp only [UInt16.le_iff_toNat_le, UInt16.reduceToNat]
    omega

/-- Upper case keeps an id plain. -/
theorem isPlain_upper {id : Utf16} (plain : IsPlain id) : IsPlain (id.map upperAscii) := by
  intro unit member
  obtain ⟨source, inside, rfl⟩ := List.mem_map.mp member
  have shape := isIdUnit_iff.mp (plain source inside)
  rw [isIdUnit_iff, toNat_upperAscii]
  split <;> omega

/-- An upper-cased lab id is one. -/
theorem isLabId_upper {id : Utf16} (accepted : isLabId id = true) : isLabId (id.map upperAscii) = true := by
  have plain := isPlain_upper (isPlain_of_isId accepted)
  rw [isLabId, isId, Bool.and_eq_true] at accepted ⊢
  rw [List.length_map]
  exact ⟨accepted.1, List.all_eq_true.mpr plain⟩

/-- Upper case twice is upper case. -/
theorem upper_upper (id : Utf16) : (id.map upperAscii).map upperAscii = id.map upperAscii := by
  rw [List.map_map]
  refine List.map_congr_left fun unit _ => ?_
  rw [Function.comp_apply, ← UInt16.toNat_inj, toNat_upperAscii, toNat_upperAscii]
  split
  case isTrue lower => rw [if_neg (by omega)]
  case isFalse other => rfl

/-- The pages with a path of their own, which reads no query. -/
def pages : List (Utf16 × Route) :=
  [(units "/", .dashboard), (units "/tracks", .tracks), (units "/paths", .paths), (units "/progress", .progress),
    (units "/account/test-portal", .testPortal), (units "/help", .help), (units "/classroom", .classroom),
    (units "/classroom/labs", .classroomLabs)]

/-- The pages of one thing: the path that stands before its id, the ids, and the route. -/
def items : List (String × (Utf16 → Bool) × (Utf16 → Route)) :=
  [("/classroom/sessions/", isSessionId, .classroomSession), ("/classroom/students/", isUserId, .classroomStudent),
    ("/tracks/", isTrackId, .track), ("/paths/", isPathSlug, .path)]

/-- The routes that a path names. -/
inductive Names (query : Utf16) : Utf16 → Route → Prop
  | page {path : Utf16} {route : Route} : (path, route) ∈ pages → Names query path route
  | labs : Names query (units "/labs") (.labs (filtersOf (SearchParams.parse query)))
  | account : Names query (units "/account") (.account (checkoutOf (SearchParams.parse query)))
  | checkout {checkoutRef : Utf16} : isCheckoutRef checkoutRef = true →
      Names query (units "/account/test-checkout/" ++ checkoutRef) (.testCheckout checkoutRef)
  | item {head : String} {accepts : Utf16 → Bool} {route : Utf16 → Route} {id : Utf16} :
      (head, accepts, route) ∈ items → accepts id = true → Names query (units head ++ id) (route id)
  | workspace {labId : Utf16} : isLabId labId = true →
      Names query (units "/labs/" ++ labId ++ units "/workspace") (.workspace (labId.map upperAscii))
  | lab {labId : Utf16} : isLabId labId = true → Names query (units "/labs/" ++ labId) (.lab (labId.map upperAscii))
  | stage {pathId stageId : Utf16} : isPathSlug pathId = true → isPathSlug stageId = true →
      Names query (units "/paths/" ++ pathId ++ units "/stages/" ++ stageId) (.stage pathId stageId)

/-- What is captured stands between the head and the tail, and is accepted. -/
theorem of_captured {head : String} {accepts : Utf16 → Bool} {path id : Utf16}
    (isCaptured : captured head accepts "" path = some id) : path = units head ++ id ∧ accepts id = true := by
  obtain ⟨whole, accepted⟩ := captured_eq_some_iff.mp isCaptured
  exact ⟨whole.trans (List.append_nil _), accepted⟩

/-- The path of a stage is made of its two slugs. -/
theorem of_capturedStage {path pathId stageId : Utf16} (isCaptured : capturedStage path = some (pathId, stageId)) :
    path = units "/paths/" ++ pathId ++ units "/stages/" ++ stageId ∧ isPathSlug pathId = true ∧
      isPathSlug stageId = true := by
  obtain ⟨rest, isRest, behind⟩ := Option.bind_eq_some_iff.mp isCaptured
  obtain ⟨start, rfl, starts⟩ := List.dropPrefix?_eq_some_iff.mp isRest
  cases eq_of_beq starts
  dsimp only at behind
  split at behind
  case isFalse => cases behind
  case isTrue accepted =>
    obtain ⟨stage, isStage, same⟩ := Option.map_eq_some_iff.mp behind
    cases same
    obtain ⟨whole, isSlug⟩ := of_captured isStage
    refine ⟨?_, accepted, isSlug⟩
    rw [List.append_assoc, List.append_assoc, ← whole]
    exact congrArg (units "/paths/" ++ ·) (List.prefix_iff_eq_append.mp (List.takeWhile_prefix _)).symm

/-- A route that is found is one that the path names. -/
theorem names_routeOf {path query : Utf16} (nonempty : path ≠ []) (found : routeOf path query ≠ .notFound) :
    Names query path (routeOf path query) := by
  have page {name : Utf16} {route : Route} (same : path = name) (isPage : (name, route) ∈ pages) :
      Names query path route := same ▸ .page isPage
  revert found
  unfold routeOf
  by_cases isHome : path = units "/" ∨ path = []
  · rw [if_pos isHome]
    exact fun _ => page (isHome.resolve_right nonempty) (by decide)
  by_cases isLabs : path = units "/labs"
  · rw [if_neg isHome, if_pos isLabs, isLabs]
    exact fun _ => .labs
  by_cases isTracks : path = units "/tracks"
  · rw [if_neg isHome, if_neg isLabs, if_pos isTracks]
    exact fun _ => page isTracks (by decide)
  by_cases isPaths : path = units "/paths"
  · rw [if_neg isHome, if_neg isLabs, if_neg isTracks, if_pos isPaths]
    exact fun _ => page isPaths (by decide)
  rw [if_neg isHome, if_neg isLabs, if_neg isTracks, if_neg isPaths]
  by_cases isProgress : path = units "/progress"
  · rw [if_pos isProgress]
    exact fun _ => page isProgress (by decide)
  by_cases isAccount : path = units "/account"
  · rw [if_neg isProgress, if_pos isAccount, isAccount]
    exact fun _ => .account
  by_cases isPortal : path = units "/account/test-portal"
  · rw [if_neg isProgress, if_neg isAccount, if_pos isPortal]
    exact fun _ => page isPortal (by decide)
  rw [if_neg isProgress, if_neg isAccount, if_neg isPortal]
  cases isCheckout : captured "/account/test-checkout/" isCheckoutRef "" path with
  | some checkoutRef =>
      obtain ⟨rfl, accepted⟩ := of_captured isCheckout
      exact fun _ => .checkout accepted
  | none =>
  dsimp only
  by_cases isHelp : path = units "/help"
  · rw [if_pos isHelp]
    exact fun _ => page isHelp (by decide)
  by_cases isClassroom : path = units "/classroom"
  · rw [if_neg isHelp, if_pos isClassroom]
    exact fun _ => page isClassroom (by decide)
  by_cases isLabList : path = units "/classroom/labs"
  · rw [if_neg isHelp, if_neg isClassroom, if_pos isLabList]
    exact fun _ => page isLabList (by decide)
  rw [if_neg isHelp, if_neg isClassroom, if_neg isLabList]
  have item {head : String} {accepts : Utf16 → Bool} {route : Utf16 → Route} {id : Utf16}
      (isItem : (head, accepts, route) ∈ items) (isCaptured : captured head accepts "" path = some id) :
      Names query path (route id) := by
    obtain ⟨rfl, accepted⟩ := of_captured isCaptured
    exact .item isItem accepted
  cases isSession : captured "/classroom/sessions/" isSessionId "" path with
  | some sessionId => exact fun _ => item (List.mem_cons_self ..) isSession
  | none =>
  cases isStudent : captured "/classroom/students/" isUserId "" path with
  | some userId => exact fun _ => item (List.mem_cons_of_mem _ (List.mem_cons_self ..)) isStudent
  | none =>
  cases isWorkspace : captured "/labs/" isLabId "/workspace" path with
  | some labId =>
      obtain ⟨rfl, accepted⟩ := captured_eq_some_iff.mp isWorkspace
      exact fun _ => .workspace accepted
  | none =>
  cases isLab : captured "/labs/" isLabId "" path with
  | some labId =>
      obtain ⟨rfl, accepted⟩ := of_captured isLab
      exact fun _ => .lab accepted
  | none =>
  cases isTrack : captured "/tracks/" isTrackId "" path with
  | some trackId => exact fun _ => item (by simp [items]) isTrack
  | none =>
  cases isStage : capturedStage path with
  | some stage =>
      obtain ⟨rfl, onPath, onStage⟩ := of_capturedStage isStage
      exact fun _ => .stage onPath onStage
  | none =>
  cases isPath : captured "/paths/" isPathSlug "" path with
  | some pathId => exact fun _ => item (by simp [items]) isPath
  | none => exact fun found => absurd rfl found

/-- Only the path of a checkout names one. -/
theorem Names.of_testCheckout {query path checkoutRef : Utf16} (names : Names query path (.testCheckout checkoutRef)) :
    path = units "/account/test-checkout/" ++ checkoutRef := by
  generalize isRoute : Route.testCheckout checkoutRef = route at names
  cases names with
  | page isPage => subst isRoute; simp [pages] at isPage
  | labs => cases isRoute
  | account => cases isRoute
  | checkout accepted => cases isRoute; rfl
  | item isItem accepted =>
      simp only [items, List.mem_cons, Prod.mk.injEq, List.not_mem_nil, or_false] at isItem
      rcases isItem with ⟨-, -, rfl⟩ | ⟨-, -, rfl⟩ | ⟨-, -, rfl⟩ | ⟨-, -, rfl⟩ <;> cases isRoute
  | workspace accepted => cases isRoute
  | lab accepted => cases isRoute
  | stage onPath onStage => cases isRoute

/-! ### Reading a link -/

/-- A path as it is read from a hash. -/
structure IsPath (path : Utf16) : Prop where
  unmarked : 63 ∉ path
  ends : path = units "/" ∨ (path ≠ [] ∧ ∀ unit ∈ path.getLast?, unit ≠ 47)

/-- `path.replace(/\/+$/, '') || '/'`. -/
def withoutSlashes (path : Utf16) : Utf16 :=
  if path.rdropWhile (· = 47) = [] then units "/" else path.rdropWhile (· = 47)

theorem pathOf_eq (hash : Utf16) : pathOf hash = withoutSlashes ((rawOf hash).takeWhile (· ≠ 63)) := rfl

theorem ends_of_last {path : Utf16} {last : UInt16} (isLast : path.getLast? = some last) (notSlash : last ≠ 47) :
    ∀ unit ∈ path.getLast?, unit ≠ 47 := by
  intro unit isUnit
  rw [isLast] at isUnit
  cases isUnit
  exact notSlash

/-- What is read as a path is one. -/
theorem isPath_pathOf (hash : Utf16) : IsPath (pathOf hash) := by
  rw [pathOf_eq]
  have unmarked : 63 ∉ (rawOf hash).takeWhile (· ≠ 63) := by
    intro member
    have isOther := List.mem_takeWhile_imp member
    exact of_decide_eq_true isOther rfl
  generalize (rawOf hash).takeWhile (· ≠ 63) = path at unmarked
  rw [withoutSlashes]
  split
  case isTrue => exact ⟨by decide, .inl rfl⟩
  case isFalse nonempty =>
    refine ⟨fun member => unmarked ((List.rdropWhile_prefix _ path).subset member), .inr ⟨nonempty, ?_⟩⟩
    intro unit isLast
    have stops := List.rdropWhile_last_not (fun unit : UInt16 => decide (unit = 47)) path nonempty
    rw [List.getLast?_eq_some_getLast nonempty] at isLast
    cases isLast
    exact of_decide_eq_false (Bool.eq_false_iff.mpr stops)

/-- A path has no slashes to lose at its end. -/
theorem IsPath.withoutSlashes {path : Utf16} (isPath : IsPath path) : withoutSlashes path = path := by
  rcases isPath.ends with rfl | ⟨nonempty, ends⟩
  · decide
  · have same : path.rdropWhile (· = 47) = path := List.rdropWhile_eq_self_iff.mpr fun isCons isSlash =>
      ends _ (List.getLast?_eq_some_getLast isCons) (of_decide_eq_true isSlash)
    rw [Web.withoutSlashes, same, if_neg nonempty]

theorem rawOf_link (rest : Utf16) : rawOf (35 :: rest) = rest := if_pos rfl

/-- A link with no query is read as the route of its path. -/
theorem parseRoute_link {path : Utf16} (isPath : IsPath path) : parseRoute (35 :: path) = routeOf path [] := by
  have plain : ∀ unit ∈ path, decide (unit ≠ 63) = true := fun unit member =>
    decide_eq_true fun isMark => isPath.unmarked (isMark ▸ member)
  rw [parseRoute, pathOf_eq, queryOf, rawOf_link, List.takeWhile_eq_self_iff.mpr plain, isPath.withoutSlashes,
    List.dropWhile_eq_nil_iff.mpr plain, List.drop_nil, List.takeWhile_nil]

/-- A link with a query is read as the route of the two. -/
theorem parseRoute_query {path query : Utf16} (isPath : IsPath path) (unmarked : 63 ∉ query) :
    parseRoute (35 :: (path ++ 63 :: query)) = routeOf path query := by
  have plain : ∀ unit ∈ path, decide (unit ≠ 63) = true := fun unit member =>
    decide_eq_true fun isMark => isPath.unmarked (isMark ▸ member)
  have front : (path ++ 63 :: query).takeWhile (· ≠ 63) = path := by
    rw [List.takeWhile_append_of_pos plain, List.takeWhile_cons_of_neg (by decide), List.append_nil]
  have behind : (path ++ 63 :: query).dropWhile (· ≠ 63) = 63 :: query := by
    rw [List.dropWhile_append_of_pos plain, List.dropWhile_cons_of_neg (by decide)]
  have whole : query.takeWhile (· ≠ 63) = query := List.takeWhile_eq_self_iff.mpr fun unit member =>
    decide_eq_true fun isMark => unmarked (isMark ▸ member)
  rw [parseRoute, pathOf_eq, queryOf, rawOf_link, front, behind, isPath.withoutSlashes, List.drop_succ_cons,
    List.drop_zero, whole]

/-- Only the catalog and the account read the query. -/
theorem routeOf_query {path : Utf16} (notLabs : path ≠ units "/labs") (notAccount : path ≠ units "/account")
    (query other : Utf16) : routeOf path query = routeOf path other := by
  unfold routeOf
  rw [if_neg notLabs, if_neg notLabs, if_neg notAccount, if_neg notAccount]

/-- A route comes back from its own link. -/
def Returns (route : Route) : Prop := (hrefFor route).map parseRoute = some route

instance (route : Route) : Decidable (Returns route) := inferInstanceAs (Decidable (_ = _))

/-! ### Ids of labs -/

/-- No lab id has a slash. -/
theorem slash_not_mem {labId : Utf16} (accepted : isLabId labId = true) : 47 ∉ labId :=
  (isPlain_of_isId accepted).not_mem (by decide)

theorem nonempty_of_isLabId {labId : Utf16} (accepted : isLabId labId = true) : labId ≠ [] := by
  rintro rfl
  cases accepted

/-- Paths that differ in a unit are not one. -/
theorem ne_of_unit {path other : Utf16} {unit : UInt16} (index : Nat) (has : path[index]? = some unit)
    (differs : other[index]? ≠ some unit) : path ≠ other := by
  rintro rfl
  exact differs has

/-- A path whose second unit is not the head's is not captured. -/
theorem captured_of_second {head tail : String} {accepts : Utf16 → Bool} {path : Utf16} {unit : UInt16}
    (second : path[1]? = some unit) (long : 1 < (units head).length) (other : (units head)[1]? ≠ some unit) :
    captured head accepts tail path = none := by
  cases isCaptured : captured head accepts tail path with
  | none => rfl
  | some id =>
      obtain ⟨rfl, -⟩ := captured_eq_some_iff.mp isCaptured
      rw [List.append_assoc, List.getElem?_append_left long] at second
      exact absurd second other

/-- Below `/labs/` there are labs and their workspaces. -/
theorem routeOf_labs (rest query : Utf16) : routeOf (units "/labs/" ++ rest) query =
    match captured "/labs/" isLabId "/workspace" (units "/labs/" ++ rest) with
    | some labId => .workspace (labId.map upperAscii)
    | none =>
        match captured "/labs/" isLabId "" (units "/labs/" ++ rest) with
        | some labId => .lab (labId.map upperAscii)
        | none => .notFound := by
  have second : (units "/labs/" ++ rest)[1]? = some 108 := rfl
  have notPage {name : Utf16} (other : name[5]? ≠ some 47) : units "/labs/" ++ rest ≠ name := ne_of_unit 5 rfl other
  have notStage : capturedStage (units "/labs/" ++ rest) = none := by
    cases isStage : capturedStage (units "/labs/" ++ rest) with
    | none => rfl
    | some stage =>
        rw [(of_capturedStage isStage).1, List.append_assoc, List.append_assoc] at second
        exact absurd (Option.some.inj second) (by decide)
  have otherThing {head : String} {accepts : Utf16 → Bool} (long : 1 < (units head).length)
      (other : (units head)[1]? ≠ some 108) : captured head accepts "" (units "/labs/" ++ rest) = none :=
    captured_of_second second long other
  unfold routeOf
  rw [if_neg (not_or.mpr ⟨notPage (by decide), notPage (by decide)⟩),
    if_neg (notPage (by decide)), if_neg (notPage (by decide)), if_neg (notPage (by decide)),
    if_neg (notPage (by decide)), if_neg (notPage (by decide)), if_neg (notPage (by decide)),
    otherThing (by decide) (by decide)]
  dsimp only
  rw [if_neg (notPage (by decide)), if_neg (notPage (by decide)), if_neg (notPage (by decide)),
    otherThing (by decide) (by decide)]
  dsimp only
  rw [otherThing (by decide) (by decide)]
  dsimp only
  cases captured "/labs/" isLabId "/workspace" (units "/labs/" ++ rest) with
  | some labId => rfl
  | none =>
  cases captured "/labs/" isLabId "" (units "/labs/" ++ rest) with
  | some labId => rfl
  | none =>
  dsimp only
  rw [otherThing (by decide) (by decide), notStage]
  dsimp only
  rw [otherThing (by decide) (by decide)]

/-- The path of a workspace names the workspace, in upper case. -/
theorem routeOf_workspace {labId : Utf16} (accepted : isLabId labId = true) (query : Utf16) :
    routeOf (units "/labs/" ++ labId ++ units "/workspace") query = .workspace (labId.map upperAscii) := by
  have isCaptured : captured "/labs/" isLabId "/workspace" (units "/labs/" ++ labId ++ units "/workspace") =
      some labId := captured_eq_some_iff.mpr ⟨rfl, accepted⟩
  rw [List.append_assoc] at isCaptured ⊢
  rw [routeOf_labs, isCaptured]

/-- The path of a lab names the lab, in upper case. -/
theorem routeOf_lab {labId : Utf16} (accepted : isLabId labId = true) (query : Utf16) :
    routeOf (units "/labs/" ++ labId) query = .lab (labId.map upperAscii) := by
  have isCaptured : captured "/labs/" isLabId "" (units "/labs/" ++ labId) = some labId :=
    captured_eq_some_iff.mpr ⟨(List.append_nil _).symm, accepted⟩
  have notWorkspace : captured "/labs/" isLabId "/workspace" (units "/labs/" ++ labId) = none := by
    cases isWorkspace : captured "/labs/" isLabId "/workspace" (units "/labs/" ++ labId) with
    | none => rfl
    | some other =>
        have whole := (captured_eq_some_iff.mp isWorkspace).1
        rw [List.append_assoc, List.append_cancel_left_eq] at whole
        refine absurd ?_ (slash_not_mem accepted)
        rw [whole]
        exact List.mem_append_right _ (by decide)
  rw [routeOf_labs, notWorkspace, isCaptured]

/-! ### The filters of the catalog -/

/-- No two filters share a parameter. -/
theorem name_inj {key other : FilterKey} : key.name = other.name ↔ key = other := by
  cases key <;> cases other <;> decide

theorem mem_filterKeys (key : FilterKey) : key ∈ filterKeys := by
  cases key <;> decide

/-- Setting a filter changes that filter alone. -/
theorem value_assign (filters : CatalogFilters) (key other : FilterKey) (text : Utf16) :
    (filters.assign key text).value other = if key = other then some text else filters.value other := by
  cases key <;> cases other <;> rfl

/-- Filters with the same values are the same. -/
theorem filters_ext {filters others : CatalogFilters} (same : ∀ key, filters.value key = others.value key) :
    filters = others := by
  cases filters
  cases others
  exact CatalogFilters.mk.injEq .. |>.mpr ⟨same .track, same .q, same .level, same .status⟩

/-- Where each step sets what is read under its own key, a run of steps sets what is read under theirs. -/
theorem read_foldl {σ κ α : Type} [DecidableEq κ] (step : σ → κ → σ) (read : σ → κ → Option α) (value : κ → Option α)
    (sets : ∀ state key other, read (step state key) other =
      if key = other then (value other).or (read state other) else read state other)
    (keys : List κ) (state : σ) (other : κ) : read (keys.foldl step state) other =
      if other ∈ keys then (value other).or (read state other) else read state other := by
  induction keys generalizing state with
  | nil => rw [List.foldl_nil, if_neg List.not_mem_nil]
  | cons key keys ih =>
      rw [List.foldl_cons, ih, sets]
      by_cases same : key = other
      · rw [if_pos same, if_pos (List.mem_cons.mpr (.inl same.symm))]
        split
        · rw [← Option.or_assoc, Option.or_self]
        · rfl
      · rw [if_neg same]
        exact if_congr (by rw [List.mem_cons, or_iff_right (Ne.symm same)]) rfl rfl

/-- Each filter that is read is the one of its parameter. -/
theorem value_filtersOf (params : SearchParams) (key : FilterKey) :
    (filtersOf params).value key = filterOf params key := by
  rw [filtersOf, read_foldl _ CatalogFilters.value (filterOf params), if_pos (mem_filterKeys key)]
  · cases key <;> exact Option.or_none
  · intro filters first other
    cases isFilter : filterOf params first with
    | none =>
        by_cases same : first = other
        · rw [if_pos same, ← same, isFilter, Option.none_or, Option.elim_none]
        · rw [if_neg same, Option.elim_none]
    | some text =>
        rw [Option.elim_some, value_assign]
        by_cases same : first = other
        · rw [if_pos same, if_pos same, ← same, isFilter, Option.some_or]
        · rw [if_neg same, if_neg same]

/-- What is written for a filter; half of a pair is replaced. -/
def writtenFilter (filters : CatalogFilters) (key : FilterKey) : Option Utf16 :=
  ((filters.value key).filter (· ≠ [])).map fun text => ofScalars (scalars text)

/-- The parameter of a filter is what is written for it. -/
theorem get_paramsOf (filters : CatalogFilters) (key : FilterKey) :
    (paramsOf filters).get key.name = writtenFilter filters key := by
  refine (read_foldl _ (fun (params : SearchParams) (key : FilterKey) => params.get key.name) (writtenFilter filters)
    ?_ filterKeys [] key).trans ?_
  · intro params first other
    cases isFilter : (filters.value first).filter (· ≠ []) with
    | none =>
        by_cases same : first = other
        · rw [if_pos same, ← same, writtenFilter, isFilter, Option.map_none, Option.none_or, Option.elim_none]
        · rw [if_neg same, Option.elim_none]
    | some text =>
        rw [Option.elim_some, SearchParams.get_set]
        by_cases same : first = other
        · rw [if_pos same, if_pos (congrArg _ same), ← same, writtenFilter, isFilter, Option.map_some, Option.some_or]
        · rw [if_neg same, if_neg fun names => same (name_inj.mp names)]
  · rw [if_pos (mem_filterKeys key)]
    exact Option.or_none

/-- The link of a catalog is read as a catalog, with the filters that were written. -/
theorem parseRoute_labs (filters : CatalogFilters) :
    (hrefFor (.labs filters)).map parseRoute = some (.labs (filtersOf (paramsOf filters))) := by
  have isPath : IsPath (units "/labs") :=
    ⟨by decide, .inr ⟨by decide, ends_of_last (show (units "/labs").getLast? = some 115 from rfl) (by decide)⟩⟩
  have isLabs (query : Utf16) : routeOf (units "/labs") query = .labs (filtersOf (SearchParams.parse query)) := by
    unfold routeOf
    rw [if_neg (by decide), if_pos rfl]
  have whole := SearchParams.parse_written (paramsOf filters)
  rw [hrefFor, Option.map_some]
  by_cases empty : (paramsOf filters).written = []
  · rw [empty] at whole
    rw [if_neg (not_not.mpr empty), show units "#/labs" = 35 :: units "/labs" from rfl, parseRoute_link isPath, isLabs,
      whole]
  · have isLink : units "#/labs?" ++ (paramsOf filters).written =
        35 :: (units "/labs" ++ 63 :: (paramsOf filters).written) := rfl
    rw [if_pos empty, isLink, parseRoute_query isPath (SearchParams.query_not_mem_written _), isLabs, whole]

/-- The values of the filters that a query names. -/
def trimmedFilter (query : Utf16) (key : FilterKey) : Option Utf16 :=
  ((SearchParams.parse query).get key.name).map Utf16.trim

/-- A cut behind the 64th unit leaves neither white space nor half of a pair at the end. -/
def CutsWhole (text : Utf16) : Prop :=
  ∀ unit, text[63]? = some unit → isSpace unit = false ∧ isHighSurrogate unit = false

/-- A filter is read again from what is written exactly if it is cut whole. -/
theorem filterOf_paramsOf_iff (query : Utf16) (key : FilterKey) :
    filterOf (paramsOf (filtersOf (SearchParams.parse query))) key = filterOf (SearchParams.parse query) key ↔
      ∀ text ∈ trimmedFilter query key, CutsWhole text := by
  rw [filterOf, get_paramsOf, writtenFilter, value_filtersOf, filterOf, trimmedFilter]
  cases isRead : (SearchParams.parse query).get key.name with
  | none => simp
  | some value =>
      have wellFormed : WellFormed value.trim := (SearchParams.wellFormed_of_get isRead).trim
      have isCut := cut_survives_iff wellFormed (Utf16.trim_trim value) 63
      rw [Option.map_some, Option.map_some]
      by_cases empty : value.trim.take 64 = []
      · have isEmpty : value.trim = [] := (List.take_eq_nil_iff.mp empty).resolve_left (by decide)
        have nothing : (some ([] : Utf16)).filter (· ≠ []) = none := by decide
        rw [isEmpty, List.take_nil, nothing, Option.filter_none, Option.map_none, Option.map_none, Option.filter_none]
        refine iff_of_true rfl fun text isText unit isUnit => ?_
        cases isText
        cases isUnit
      · have kept : (some (value.trim.take 64)).filter (· ≠ []) = some (value.trim.take 64) :=
          Option.filter_eq_some_iff.mpr ⟨rfl, decide_eq_true empty⟩
        rw [kept, kept, Option.map_some, Option.map_some, Option.filter_eq_some_iff, Option.some.injEq, isCut]
        constructor
        · rintro ⟨whole, -⟩ text isText
          cases isText
          exact whole
        · intro whole
          exact ⟨whole _ rfl, decide_eq_true empty⟩

/-! ### Routes and their links -/

/-- When a route that is found comes back from its link. -/
structure Survives (path query : Utf16) : Prop where
  noColon : 58 ∉ path
  cutsWhole : path = units "/labs" → ∀ key, ∀ text ∈ trimmedFilter query key, CutsWhole text

/-- A route whose link has the path it was read from comes back. -/
theorem returns_iff_of_link {path query : Utf16} {route : Route} (isPath : IsPath path)
    (isRoute : routeOf path query = route) (isLink : hrefFor route = some (35 :: path)) (noColon : 58 ∉ path)
    (notLabs : path ≠ units "/labs") (notAccount : path ≠ units "/account") :
    Returns route ↔ Survives path query := by
  refine iff_of_true ?_ ⟨noColon, fun isLabs => absurd isLabs notLabs⟩
  rw [Returns, isLink, Option.map_some, parseRoute_link isPath, routeOf_query notLabs notAccount [] query, isRoute]

/-- The link of a page is its path, which has no colon and reads no query. -/
theorem page_link : ∀ page ∈ pages, hrefFor page.2 = some (35 :: page.1) ∧ 58 ∉ page.1 ∧
    page.1 ≠ units "/labs" ∧ page.1 ≠ units "/account" := by
  decide

/-- The link of a thing is its path; none begins as those of labs and of the account do. -/
theorem item_link {head : String} {accepts : Utf16 → Bool} {route : Utf16 → Route} {id : Utf16}
    (isItem : (head, accepts, route) ∈ items) (accepted : accepts id = true) :
    IsPlain id ∧ hrefFor (route id) = (encodeURIComponent id).map (fun text => 35 :: (units head ++ text)) ∧
      58 ∉ units head ∧ ∃ unit, (units head)[1]? = some unit ∧ unit ≠ 108 ∧ unit ≠ 97 := by
  simp only [items, List.mem_cons, Prod.mk.injEq, List.not_mem_nil, or_false] at isItem
  rcases isItem with ⟨rfl, rfl, rfl⟩ | ⟨rfl, rfl, rfl⟩ | ⟨rfl, rfl, rfl⟩ | ⟨rfl, rfl, rfl⟩
  · exact ⟨isPlain_of_isId accepted, rfl, by decide, 99, by decide, by decide, by decide⟩
  · exact ⟨isPlain_of_isId accepted, rfl, by decide, 99, by decide, by decide, by decide⟩
  · exact ⟨isPlain_of_isSlug accepted, rfl, by decide, 116, by decide, by decide, by decide⟩
  · exact ⟨isPlain_of_isSlug accepted, rfl, by decide, 112, by decide, by decide, by decide⟩

theorem IsPlain.no_colon {id : Utf16} (plain : IsPlain id) : 58 ∉ id := plain.not_mem (by decide)

/-- The units of a reference, by their numbers. -/
theorem isRefUnit_iff {unit : UInt16} : isRefUnit unit = true ↔
    isIdUnit unit = true ∨ unit.toNat = 95 ∨ unit.toNat = 46 ∨ unit.toNat = 58 := by
  simp only [isRefUnit, Bool.or_eq_true, beq_iff_eq, ← UInt16.toNat_inj, or_assoc, UInt16.reduceToNat]

/-- What a reference is written with has no slash and no question mark, and a percent sign if there is a colon to
    escape. -/
theorem checkout_written {checkoutRef : Utf16} (accepted : isCheckoutRef checkoutRef = true) :
    ∃ written, encodeURIComponent checkoutRef = some written ∧ 47 ∉ written ∧ 63 ∉ written ∧
      if 58 ∈ checkoutRef then 37 ∈ written else written = checkoutRef := by
  rw [isCheckoutRef, Bool.and_eq_true, List.all_eq_true] at accepted
  have shape (unit : UInt16) (member : unit ∈ checkoutRef) := isRefUnit_iff.mp (accepted.2 unit member)
  have ascii : ∀ unit ∈ checkoutRef, unit.toNat < 0x80 := by
    intro unit member
    rcases shape unit member with plain | others
    · have bounds := isIdUnit_iff.mp plain
      omega
    · omega
  have encoded := encodeURIComponent_ascii ascii
  have noSlash : (47 : UInt8).toUInt16 ∉ _ := not_mem_of_reserved ascii (by decide) (by decide) (by decide) encoded
  have noMark : (63 : UInt8).toUInt16 ∉ _ := not_mem_of_reserved ascii (by decide) (by decide) (by decide) encoded
  refine ⟨_, encoded, noSlash, noMark, ?_⟩
  split
  case isTrue colon => exact percent_mem_of_reserved ascii colon (by decide) encoded
  case isFalse noColon =>
    have unescaped : encodeURIComponent checkoutRef = some checkoutRef := by
      refine encodeURIComponent_of_unreserved fun unit member => unreserved_of_toNat ?_
      rcases shape unit member with plain | isUnderscore | isDot | isColon
      · have bounds := isIdUnit_iff.mp plain
        omega
      · omega
      · omega
      · exact absurd ((UInt16.toNat_inj (b := 58)).mp isColon ▸ member) noColon
    exact Option.some.inj (encoded.symm.trans unescaped)

/-- A path may go on with text that has no question mark and does not end in a slash. -/
theorem isPath_append {front back : Utf16} (unmarked : 63 ∉ front) (unmarkedBack : 63 ∉ back) (nonempty : back ≠ [])
    (ends : ∀ unit ∈ back.getLast?, unit ≠ 47) : IsPath (front ++ back) := by
  refine ⟨fun member => (List.mem_append.mp member).elim unmarked unmarkedBack,
    .inr ⟨List.append_ne_nil_of_right_ne_nil _ nonempty, fun unit isLast => ends unit ?_⟩⟩
  rwa [List.getLast?_append_of_ne_nil _ nonempty] at isLast

/-- A reference comes back from its link if it has no colon: the link is read as it was written, and no reference has a
    percent sign. -/
theorem returns_testCheckout_iff {checkoutRef : Utf16} (accepted : isCheckoutRef checkoutRef = true) {query : Utf16}
    (isPath : IsPath (units "/account/test-checkout/" ++ checkoutRef))
    (isRoute : routeOf (units "/account/test-checkout/" ++ checkoutRef) query = .testCheckout checkoutRef) :
    Returns (.testCheckout checkoutRef) ↔ Survives (units "/account/test-checkout/" ++ checkoutRef) query := by
  obtain ⟨written, encoded, noSlash, noMark, escaped⟩ := checkout_written accepted
  have isLink : hrefFor (.testCheckout checkoutRef) = some (35 :: (units "/account/test-checkout/" ++ written)) := by
    rw [hrefFor, encoded]
    rfl
  by_cases colon : 58 ∈ checkoutRef
  · rw [if_pos colon] at escaped
    have nonempty : written ≠ [] := List.ne_nil_of_mem escaped
    have isPath' : IsPath (units "/account/test-checkout/" ++ written) :=
      isPath_append (by decide) noMark nonempty fun unit isLast isSlash =>
        noSlash (isSlash ▸ List.mem_of_getLast? isLast)
    refine iff_of_false ?_ fun survives => survives.noColon (List.mem_append_right _ colon)
    rw [Returns, isLink, Option.map_some, parseRoute_link isPath', Option.some.injEq]
    intro same
    have names := names_routeOf (List.append_ne_nil_of_right_ne_nil _ nonempty) (same.trans_ne Route.noConfusion)
    rw [same] at names
    rw [List.append_cancel_left names.of_testCheckout] at escaped
    rw [isCheckoutRef, Bool.and_eq_true, List.all_eq_true] at accepted
    exact absurd (accepted.2 37 escaped) (by decide)
  · rw [if_neg colon] at escaped
    subst escaped
    refine returns_iff_of_link isPath isRoute isLink ?_ (ne_of_unit 8 rfl (by decide))
      (ne_of_unit 8 rfl (by decide))
    exact fun member => (List.mem_append.mp member).elim (by decide) colon

/-- The workspace of a lab, in upper case, comes back from its link. -/
theorem returns_workspace {labId : Utf16} (accepted : isLabId labId = true) :
    Returns (.workspace (labId.map upperAscii)) := by
  have plain := isPlain_upper (isPlain_of_isId accepted)
  have isLink : hrefFor (.workspace (labId.map upperAscii)) =
      some (35 :: (units "/labs/" ++ labId.map upperAscii ++ units "/workspace")) := by
    rw [hrefFor, plain.encode]
    rfl
  have isPath : IsPath (units "/labs/" ++ labId.map upperAscii ++ units "/workspace") :=
    isPath_append (fun member => (List.mem_append.mp member).elim (by decide) (plain.not_mem (by decide))) (by decide)
      (by decide) (ends_of_last (show (units "/workspace").getLast? = some 101 from rfl) (by decide))
  rw [Returns, isLink, Option.map_some, parseRoute_link isPath, routeOf_workspace (isLabId_upper accepted), upper_upper]

/-- A lab, in upper case, comes back from its link. -/
theorem returns_lab {labId : Utf16} (accepted : isLabId labId = true) : Returns (.lab (labId.map upperAscii)) := by
  have plain := isPlain_upper (isPlain_of_isId accepted)
  have isLink : hrefFor (.lab (labId.map upperAscii)) = some (35 :: (units "/labs/" ++ labId.map upperAscii)) := by
    rw [hrefFor, plain.encode]
    rfl
  have isPath : IsPath (units "/labs/" ++ labId.map upperAscii) :=
    isPath_append (by decide) (plain.not_mem (by decide)) (nonempty_of_isLabId (isLabId_upper accepted))
      fun unit isLast isSlash => plain.not_mem (by decide) (isSlash ▸ List.mem_of_getLast? isLast)
  rw [Returns, isLink, Option.map_some, parseRoute_link isPath, routeOf_lab (isLabId_upper accepted), upper_upper]

/-- The catalog comes back exactly if each of its filters is cut whole. -/
theorem returns_labs_iff (query : Utf16) :
    Returns (.labs (filtersOf (SearchParams.parse query))) ↔ Survives (units "/labs") query := by
  rw [Returns, parseRoute_labs, Option.some.injEq, Route.labs.injEq]
  constructor
  · intro same
    refine ⟨by decide, fun _ key => (filterOf_paramsOf_iff query key).mp ?_⟩
    rw [← value_filtersOf, ← value_filtersOf, same]
  · rintro ⟨-, cutsWhole⟩
    refine filters_ext fun key => ?_
    rw [value_filtersOf, value_filtersOf]
    exact (filterOf_paramsOf_iff query key).mpr (cutsWhole rfl key)

/-- The account page comes back from its link. -/
theorem returns_account (checkout : Option Checkout) : Returns (.account checkout) := by
  rcases checkout with _ | _ | _ <;> decide

/-- The route of a path comes back from its link exactly if nothing in its reference is escaped, and nothing of its
    filters is lost. -/
theorem returns_iff {path query : Utf16} {route : Route} (isPath : IsPath path) (isRoute : routeOf path query = route)
    (names : Names query path route) : Returns route ↔ Survives path query := by
  have elsewhere {path : Utf16} (noColon : 58 ∉ path) (notLabs : path ≠ units "/labs") : Survives path query :=
    ⟨noColon, fun isLabs => absurd isLabs notLabs⟩
  cases names with
  | page isPage =>
      obtain ⟨isLink, noColon, notLabs, notAccount⟩ := page_link _ isPage
      exact returns_iff_of_link isPath isRoute isLink noColon notLabs notAccount
  | labs => exact returns_labs_iff query
  | account => exact iff_of_true (returns_account _) (elsewhere (by decide) (by decide))
  | checkout accepted => exact returns_testCheckout_iff accepted isPath isRoute
  | @item head accepts route id isItem accepted =>
      obtain ⟨plain, isLink, noColon, unit, second, notLabs, notAccount⟩ := item_link isItem accepted
      rw [plain.encode, Option.map_some] at isLink
      have isSecond : (units head ++ id)[1]? = some unit := by
        rw [List.getElem?_append_left (List.getElem?_eq_some_iff.mp second).1, second]
      refine returns_iff_of_link isPath isRoute isLink ?_ (ne_of_unit 1 isSecond ?_) (ne_of_unit 1 isSecond ?_)
      · exact fun member => (List.mem_append.mp member).elim noColon plain.no_colon
      · exact fun same => notLabs (Option.some.inj same).symm
      · exact fun same => notAccount (Option.some.inj same).symm
  | workspace accepted =>
      refine iff_of_true (returns_workspace accepted) (elsewhere ?_ (ne_of_unit 5 rfl (by decide)))
      intro member
      rcases List.mem_append.mp member with inFront | inTail
      · exact (List.mem_append.mp inFront).elim (by decide) (isPlain_of_isId accepted).no_colon
      · exact absurd inTail (by decide)
  | lab accepted =>
      refine iff_of_true (returns_lab accepted) (elsewhere ?_ (ne_of_unit 5 rfl (by decide)))
      exact fun member => (List.mem_append.mp member).elim (by decide) (isPlain_of_isId accepted).no_colon
  | @stage pathId stageId onPath onStage =>
      have plain := isPlain_of_isSlug onPath
      have plainStage := isPlain_of_isSlug onStage
      have isLink : hrefFor (.stage pathId stageId) =
          some (35 :: (units "/paths/" ++ pathId ++ units "/stages/" ++ stageId)) := by
        rw [hrefFor, plain.encode, plainStage.encode]
        rfl
      have second : (units "/paths/" ++ pathId ++ units "/stages/" ++ stageId)[1]? = some 112 := by
        rw [List.append_assoc, List.append_assoc]
        rfl
      refine returns_iff_of_link isPath isRoute isLink ?_ (ne_of_unit 1 second (by decide))
        (ne_of_unit 1 second (by decide))
      intro member
      rcases List.mem_append.mp member with inFront | inStage
      · rcases List.mem_append.mp inFront with inPath | inMiddle
        · exact (List.mem_append.mp inPath).elim (by decide) plain.no_colon
        · exact absurd inMiddle (by decide)
      · exact plainStage.no_colon inStage

theorem pathOf_ne_nil (hash : Utf16) : pathOf hash ≠ [] := by
  rcases (isPath_pathOf hash).ends with isRoot | ⟨nonempty, -⟩
  · rw [isRoot]
    decide
  · exact nonempty

/-- A route that is found comes back from its own link exactly if its path has no colon and no filter of the catalog is
    cut behind white space or between the halves of a pair. -/
theorem routes_survive_iff (hash : Utf16) (found : parseRoute hash ≠ .notFound) :
    (hrefFor (parseRoute hash)).map parseRoute = some (parseRoute hash) ↔ Survives (pathOf hash) (queryOf hash) :=
  returns_iff (isPath_pathOf hash) rfl (names_routeOf (pathOf_ne_nil hash) found)

theorem routes_survive_lab :
    parseRoute (units "#/labs/linux-001") ≠ .notFound ∧
      ((hrefFor (parseRoute (units "#/labs/linux-001"))).map parseRoute = some (parseRoute (units "#/labs/linux-001")) ↔
        Survives (pathOf (units "#/labs/linux-001")) (queryOf (units "#/labs/linux-001"))) := by
  have found : parseRoute (units "#/labs/linux-001") ≠ .notFound := by decide
  exact ⟨found, routes_survive_iff _ found⟩

/-- The reference `a:b` is accepted, and its link names nothing. -/
theorem routes_lost : ¬∀ hash, WellFormed hash → parseRoute hash ≠ .notFound →
    (hrefFor (parseRoute hash)).map parseRoute = some (parseRoute hash) := by
  intro all
  have back := all (units "#/account/test-checkout/a:b") (by decide) (by decide)
  have lost : (hrefFor (parseRoute (units "#/account/test-checkout/a:b"))).map parseRoute = some .notFound := by
    decide
  rw [lost] at back
  exact absurd back (by decide)

end JumptotechLabs.Web
