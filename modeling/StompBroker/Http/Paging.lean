import StompBroker.Json.Shape
import StompBroker.Json.Writer
import StompBroker.Number.Bounds

/-!
# Pages of a listing

A `PageQuery` asks for one page of a listing, counted from one. What it asks for is brought within
bounds when it is used: `limit` is the number of rows of a page and `offset` the number of rows
before the page. A `PageInfo` says which page an answer holds.
-/

set_option autoImplicit false

namespace StompBroker

/-- Which page of how many rows an answer holds. -/
structure PageInfo where
  total : Nat
  pageNum : Nat
  pageSize : Nat
  deriving DecidableEq, Repr

namespace PageInfo

/-- The page information as a document. -/
def toJson (info : PageInfo) : Json :=
  .object [("total", .ofNat info.total), ("pageNum", .ofNat info.pageNum),
    ("pageSize", .ofNat info.pageSize)]

/-- What a document with page information must hold. -/
def shape : Json.Shape :=
  .record
    [("total", .required, .natural maxUnsigned64), ("pageNum", .required, .natural maxUnsigned32),
      ("pageSize", .required, .natural maxUnsigned32)]

/-- The page information of a document of that shape. -/
def ofJson? (document : Json) : Option PageInfo := do
  return {
    total := ← (← document.member? "total").nat?
    pageNum := ← (← document.member? "pageNum").nat?
    pageSize := ← (← document.member? "pageSize").nat? }

end PageInfo

/-- Asks for one page of a listing. -/
structure PageQuery where
  pageNum : Nat := 1
  pageSize : Nat := 10
  deriving DecidableEq, Repr

namespace PageQuery

/-- The most rows of a page. -/
def maxPageSize : Nat := 200

/-- The number of rows of the page. -/
def limit (query : PageQuery) : Nat := max 1 (min query.pageSize maxPageSize)

/-- The page that is answered. -/
def page (query : PageQuery) : Nat := max query.pageNum 1

/-- The number of rows before the page. -/
def offset (query : PageQuery) : Nat := (query.page - 1) * query.limit

/-- What a document with a query may hold. -/
def shape : Json.Shape :=
  .record
    [("pageNum", .defaulted, .natural maxUnsigned32),
      ("pageSize", .defaulted, .natural maxUnsigned32)]

/-- The query of a document. -/
def ofJson? (document : Json) : Option PageQuery :=
  match shape.read (Json.write document) with
  | .error _ => none
  | .ok fields =>
    let number (name : String) (missing : Nat) :=
      ((fields.member? name).bind Json.nat?).getD missing
    some { pageNum := number "pageNum" 1, pageSize := number "pageSize" 10 }

end PageQuery

end StompBroker
