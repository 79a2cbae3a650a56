/-
Module: JumptotechLabs.Web.Router
Layer: Web (apps/web/src/lib/router.ts)
Purpose: The routes of the student app: which route a hash names, and the link that is written for a route. The parser
  matches the path as it stands, and reads the catalog's filters from the query, trimmed and cut to 64 units.
Main exports: CatalogFilters, Route, pathOf, queryOf, routeOf, parseRoute, hrefFor
-/
import JumptotechLabs.Core.UrlEncoding

namespace JumptotechLabs.Web

open JumptotechLabs.Core
open JumptotechLabs.Core.Utf16 (isDigit upperAscii)

/-! ### Routes -/

/-- A filter of the lab catalog. -/
inductive FilterKey where
  | track
  | q
  | level
  | status
deriving DecidableEq

/-- The parameter a filter is written under. -/
def FilterKey.name : FilterKey → String
  | .track => "track"
  | .q => "q"
  | .level => "level"
  | .status => "status"

/-- `FILTER_KEYS`. -/
def filterKeys : List FilterKey := [.track, .q, .level, .status]

/-- What the catalog is filtered by; a filter that is not set is `none`. -/
structure CatalogFilters where
  track : Option Utf16 := none
  q : Option Utf16 := none
  level : Option Utf16 := none
  status : Option Utf16 := none
deriving DecidableEq

namespace CatalogFilters

/-- `filters[key]`. -/
def value (filters : CatalogFilters) : FilterKey → Option Utf16
  | .track => filters.track
  | .q => filters.q
  | .level => filters.level
  | .status => filters.status

/-- `filters[key] = value`. -/
def assign (filters : CatalogFilters) (key : FilterKey) (value : Utf16) : CatalogFilters :=
  match key with
  | .track => { filters with track := some value }
  | .q => { filters with q := some value }
  | .level => { filters with level := some value }
  | .status => { filters with status := some value }

end CatalogFilters

/-- How a checkout sent the student back. -/
inductive Checkout where
  | returned
  | canceled
deriving DecidableEq

/-- The word of the query. -/
def Checkout.text : Checkout → String
  | .returned => "returned"
  | .canceled => "canceled"

/-- The pages of the app, with what their paths name. -/
inductive Route where
  | dashboard
  | labs (filters : CatalogFilters)
  | lab (labId : Utf16)
  | workspace (labId : Utf16)
  | tracks
  | track (trackId : Utf16)
  | paths
  | path (pathId : Utf16)
  | stage (pathId stageId : Utf16)
  | progress
  | account (checkout : Option Checkout)
  | testCheckout (checkoutRef : Utf16)
  | testPortal
  | help
  | classroom
  | classroomLabs
  | classroomSession (sessionId : Utf16)
  | classroomStudent (userId : Utf16)
  | notFound
deriving DecidableEq

/-! ### The shapes of ids -/

/-- `[a-z]`. -/
def isLower (unit : UInt16) : Bool := 97 ≤ unit && unit ≤ 122

/-- `[A-Za-z0-9-]`. -/
def isIdUnit (unit : UInt16) : Bool := Utf16.isLetter unit || isDigit unit || unit == 45

/-- `[a-z0-9-]`. -/
def isSlugUnit (unit : UInt16) : Bool := isLower unit || isDigit unit || unit == 45

/-- `[A-Za-z0-9-]{least,most}`. -/
def isId (least most : Nat) (text : Utf16) : Bool :=
  decide (least ≤ text.length ∧ text.length ≤ most) && text.all isIdUnit

/-- `[a-z0-9][a-z0-9-]{least,most}`. -/
def isSlug (least most : Nat) : Utf16 → Bool
  | [] => false
  | first :: rest =>
      (isLower first || isDigit first) && decide (least ≤ rest.length ∧ rest.length ≤ most) && rest.all isSlugUnit

/-- `LAB_ID`. -/
def isLabId : Utf16 → Bool := isId 1 16

/-- `TRACK_ID`. -/
def isTrackId : Utf16 → Bool := isSlug 0 31

/-- `PATH_SLUG`. -/
def isPathSlug : Utf16 → Bool := isSlug 1 47

/-- `SESSION_ID`. -/
def isSessionId : Utf16 → Bool := isId 8 64

/-- `USER_ID`. -/
def isUserId : Utf16 → Bool := isId 1 64

/-- `[A-Za-z0-9_.:-]`. -/
def isRefUnit (unit : UInt16) : Bool := isIdUnit unit || unit == 95 || unit == 46 || unit == 58

/-- `[A-Za-z0-9_.:-]{1,255}`. -/
def isCheckoutRef (text : Utf16) : Bool := decide (1 ≤ text.length ∧ text.length ≤ 255) && text.all isRefUnit

/-! ### Reading a hash -/

/-- `hash.replace(/^#/, '')`. -/
def rawOf (hash : Utf16) : Utf16 := if hash.head? = some 35 then hash.tail else hash

/-- `pathPart.replace(/\/+$/, '') || '/'`. -/
def pathOf (hash : Utf16) : Utf16 :=
  let path := ((rawOf hash).takeWhile (· ≠ 63)).rdropWhile (· = 47)
  if path = [] then units "/" else path

/-- `queryPart`: what stands between the first question mark and the second. -/
def queryOf (hash : Utf16) : Utf16 := (((rawOf hash).dropWhile (· ≠ 63)).drop 1).takeWhile (· ≠ 63)

/-- The group of `^head(…)tail$`. -/
def captured (head : String) (accepts : Utf16 → Bool) (tail : String) (path : Utf16) : Option Utf16 :=
  ((path.dropPrefix? (units head)).bind fun rest => rest.dropSuffix? (units tail)).filter accepts

/-- `new RegExp(`^/paths/${PATH_SLUG}/stages/${PATH_SLUG}$`)`: no slug has a slash. -/
def capturedStage (path : Utf16) : Option (Utf16 × Utf16) :=
  (path.dropPrefix? (units "/paths/")).bind fun rest =>
    let pathId := rest.takeWhile (· ≠ 47)
    if isPathSlug pathId then
      (captured "/stages/" isPathSlug "" (rest.drop pathId.length)).map fun stageId => (pathId, stageId)
    else none

/-- `params.get(key)?.trim().slice(0, 64)`, if it is not empty. -/
def filterOf (params : SearchParams) (key : FilterKey) : Option Utf16 :=
  ((params.get key.name).map fun value => value.trim.take 64).filter (· ≠ [])

/-- The filters that a query names. -/
def filtersOf (params : SearchParams) : CatalogFilters :=
  filterKeys.foldl (fun filters key => (filterOf params key).elim filters (filters.assign key)) {}

/-- The checkout that a query names; any other word is none. -/
def checkoutOf (params : SearchParams) : Option Checkout :=
  let checkout := params.get "checkout"
  if checkout = some (units "returned") then some .returned
  else if checkout = some (units "canceled") then some .canceled
  else none

/-- `parseRoute`, of a path and a query. -/
def routeOf (path query : Utf16) : Route :=
  if path = units "/" ∨ path = [] then .dashboard
  else if path = units "/labs" then .labs (filtersOf (SearchParams.parse query))
  else if path = units "/tracks" then .tracks
  else if path = units "/paths" then .paths
  else if path = units "/progress" then .progress
  else if path = units "/account" then .account (checkoutOf (SearchParams.parse query))
  else if path = units "/account/test-portal" then .testPortal
  else
    match captured "/account/test-checkout/" isCheckoutRef "" path with
    | some checkoutRef => .testCheckout checkoutRef
    | none =>
        if path = units "/help" then .help
        else if path = units "/classroom" then .classroom
        else if path = units "/classroom/labs" then .classroomLabs
        else
          match captured "/classroom/sessions/" isSessionId "" path with
          | some sessionId => .classroomSession sessionId
          | none =>
              match captured "/classroom/students/" isUserId "" path with
              | some userId => .classroomStudent userId
              | none =>
                  match captured "/labs/" isLabId "/workspace" path with
                  | some labId => .workspace (labId.map upperAscii)
                  | none =>
                      match captured "/labs/" isLabId "" path with
                      | some labId => .lab (labId.map upperAscii)
                      | none =>
                          match captured "/tracks/" isTrackId "" path with
                          | some trackId => .track trackId
                          | none =>
                              match capturedStage path with
                              | some (pathId, stageId) => .stage pathId stageId
                              | none =>
                                  match captured "/paths/" isPathSlug "" path with
                                  | some pathId => .path pathId
                                  | none => .notFound

/-- The route of a hash; what names no page is `notFound`. -/
def parseRoute (hash : Utf16) : Route := routeOf (pathOf hash) (queryOf hash)

/-! ### Writing a link -/

/-- The parameters of the filters that are set and not empty. -/
def paramsOf (filters : CatalogFilters) : SearchParams :=
  filterKeys.foldl
    (fun params key => ((filters.value key).filter (· ≠ [])).elim params fun value => params.set key.name value) []

/-- A link; nothing where `encodeURIComponent` throws. -/
def hrefFor : Route → Option Utf16
  | .dashboard => some (units "#/")
  | .labs filters =>
      let query := (paramsOf filters).written
      some (if query ≠ [] then units "#/labs?" ++ query else units "#/labs")
  | .lab labId => (encodeURIComponent labId).map fun id => units "#/labs/" ++ id
  | .workspace labId => (encodeURIComponent labId).map fun id => units "#/labs/" ++ id ++ units "/workspace"
  | .tracks => some (units "#/tracks")
  | .track trackId => (encodeURIComponent trackId).map fun id => units "#/tracks/" ++ id
  | .paths => some (units "#/paths")
  | .path pathId => (encodeURIComponent pathId).map fun id => units "#/paths/" ++ id
  | .stage pathId stageId =>
      (encodeURIComponent pathId).bind fun path =>
        (encodeURIComponent stageId).map fun stage => units "#/paths/" ++ path ++ units "/stages/" ++ stage
  | .progress => some (units "#/progress")
  | .account (some checkout) => some (units "#/account?checkout=" ++ units checkout.text)
  | .account none => some (units "#/account")
  | .testCheckout checkoutRef =>
      (encodeURIComponent checkoutRef).map fun ref => units "#/account/test-checkout/" ++ ref
  | .testPortal => some (units "#/account/test-portal")
  | .help => some (units "#/help")
  | .classroom => some (units "#/classroom")
  | .classroomLabs => some (units "#/classroom/labs")
  | .classroomSession sessionId => (encodeURIComponent sessionId).map fun id => units "#/classroom/sessions/" ++ id
  | .classroomStudent userId => (encodeURIComponent userId).map fun id => units "#/classroom/students/" ++ id
  | .notFound => some (units "#/")

end JumptotechLabs.Web
