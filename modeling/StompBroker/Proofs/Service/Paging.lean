import StompBroker.Proofs.Http.Form
import StompBroker.Proofs.Service.Reading

/-!
# The notices, page by page

A page of a listing is what its query cuts out of the notices, the latest first. Pages of one size
lie next to each other, so those up to a page are a front of the listing (`flatMap_cut`), and those
up to the last one are all of it.

The service answers a request for a page with that page, as long as the request is handed on and the
database answers (`answer_of_browses`), and such a request leaves the notices alone. Hence whoever
asks for one page after the other gets every notice once (`exists_paginated_of_browses`), whatever
else happens between the requests. The table has the notices in the order of their ids, each of them
once, and so the pages have them, too.
-/

set_option autoImplicit false

namespace StompBroker

variable {σ : Type}

/-! ### Pages that lie next to each other -/

namespace PageQuery

/-- What the query cuts out of a listing. -/
def cut {α : Type} (query : PageQuery) (listing : List α) : List α :=
  (listing.drop query.offset).take query.limit

/-- The number of the last page with something on it, or zero. -/
def lastPage (total size : Nat) : Nat := (total + size - 1) / size

theorem limit_pos (query : PageQuery) : 0 < query.limit := Nat.le_max_left 1 _

theorem le_lastPage_mul (total : Nat) {size : Nat} (h : 0 < size) :
    total ≤ lastPage total size * size := by
  have hdivision := Nat.div_add_mod (total + size - 1) size
  have hremainder := Nat.mod_lt (total + size - 1) h
  rw [lastPage, Nat.mul_comm]
  omega

theorem mul_lt_of_lt_lastPage {total size page : Nat} (h : 0 < size)
    (hpage : page < lastPage total size) : page * size < total := by
  have hquotient := (Nat.le_div_iff_mul_le h).mp hpage
  rw [Nat.succ_mul] at hquotient
  omega

section Pages

variable {α : Type} (pageSize : Nat) (listing : List α)

/-- The pages up to one of them are a front of the listing. -/
theorem flatMap_cut (count : Nat) :
    (List.range' 1 count).flatMap (fun pageNum ↦ cut { pageNum, pageSize } listing) =
      listing.take (count * limit { pageSize }) := by
  induction count with
  | zero => simp
  | succ count ih =>
    have hcut : cut { pageNum := 1 + count, pageSize } listing =
        (listing.drop (count * limit { pageSize })).take (limit { pageSize }) := by
      have hpage : max (1 + count) 1 - 1 = count := by omega
      rw [cut, offset, page, hpage]
      rfl
    rw [List.range'_1_concat, List.flatMap_append, List.flatMap_singleton, ih, hcut, Nat.succ_mul,
      List.take_add]

theorem length_cut_of_lt {pageNum : Nat} (hpos : 1 ≤ pageNum)
    (h : pageNum < lastPage listing.length (limit { pageSize })) :
    (cut { pageNum, pageSize } listing).length = limit { pageSize } := by
  have hfull := mul_lt_of_lt_lastPage (limit_pos { pageSize }) h
  have hoffset : offset { pageNum, pageSize } =
      pageNum * limit { pageSize } - limit { pageSize } := by
    have hpage : max pageNum 1 = pageNum := Nat.max_eq_left hpos
    rw [offset, page, hpage, Nat.sub_mul, Nat.one_mul]
    rfl
  have hlimit : limit { pageNum, pageSize } = limit { pageSize } := rfl
  have hroom : limit { pageSize } ≤ pageNum * limit { pageSize } := Nat.le_mul_of_pos_left _ hpos
  rw [cut, List.length_take, List.length_drop, hoffset, hlimit]
  omega

theorem cut_of_lastPage_lt {pageNum : Nat}
    (h : lastPage listing.length (limit { pageSize }) < pageNum) :
    cut { pageNum, pageSize } listing = [] := by
  have hlast := le_lastPage_mul listing.length (limit_pos { pageSize })
  have hoffset : listing.length ≤ offset { pageNum, pageSize } := by
    refine Nat.le_trans hlast (Nat.mul_le_mul_right _ ?_)
    have hpage : pageNum ≤ page { pageNum, pageSize } := Nat.le_max_left _ _
    omega
  rw [cut, List.drop_eq_nil_of_le hoffset, List.take_nil]

end Pages

/-- The number of rows before a page fits in a signed number of 64 bits. -/
theorem offset_le {query : PageQuery} (h : query.pageNum ≤ maxUnsigned32) :
    query.offset ≤ maxSigned64 := by
  have hlimit : query.limit ≤ maxPageSize := Nat.max_le.mpr ⟨by decide, Nat.min_le_right _ _⟩
  have hpage : query.page - 1 ≤ maxUnsigned32 := by
    have hpositive : query.page ≤ maxUnsigned32 := Nat.max_le.mpr ⟨h, by decide⟩
    omega
  exact Nat.le_trans (Nat.mul_le_mul hpage hlimit) (by decide)

end PageQuery

namespace Notice

open Gate (HandsOn Scope)

/-! ### The answer to a request for a page -/

/-- The answer with one page of these notices. -/
def pageAnswer (query : PageQuery) (rows : List (Int × Notice)) : Response :=
  .ok (.okPage (.array ((query.cut rows.reverse).map fun (id, notice) ↦ toJson id notice))
    { total := rows.length, pageNum := query.page, pageSize := query.limit })

/-- The database answers, and these are the notices. -/
structure Stores (service : Service σ) (rows : List (Int × Notice)) : Prop where
  isOpen : service.database.isOpen = true
  table : ∃ table, service.database.tables.notices = some table ∧ table.rows = rows

/-- A request for a page that gets through to its handler. -/
structure Browses [LivenessStore σ] (request : Request) (service : Service σ) (query : PageQuery) :
    Prop where
  method : request.method = "GET"
  path : request.path = "/api/v1/notices"
  asks : PageQuery.ofTarget? request.query = some query
  handed : ∃ principal ready, HandsOn request service principal ready

theorem dispatch_eq_endpointList [LivenessStore σ] {request : Request}
    (hmethod : request.method = "GET") (hpath : request.path = "/api/v1/notices")
    (context : Context) :
    Endpoint.dispatch (Endpoint.all (σ := σ)) context request = endpointList context request := by
  funext service
  simp [Endpoint.dispatch, Endpoint.all, Endpoint.takes, hmethod, hpath, List.find?]

theorem endpointList_of_scope {request : Request} {principal : Option Principal}
    {ready found : Service σ} {context : Context} {query : PageQuery}
    {rows : List (Int × Notice)} (hstores : Stores ready rows)
    (hasks : PageQuery.ofTarget? request.query = some query)
    (hscope : Scope principal ready context found) :
    endpointList context request found = (.response (pageAnswer query rows), found) := by
  obtain ⟨table, htable, rfl⟩ := hstores.table
  have hreads : Tables.pageOfNotices query.limit query.offset ready.database.tables =
      .ok ((table.rows.length, query.cut table.rows.reverse), ready.database.tables) := by
    rw [Tables.pageOfNotices, htable]
    rfl
  simp only [endpointList, hasks, list, hscope.execute hstores.isOpen hreads]
  rfl

/-- The client gets the page, and the notices stay. -/
theorem answer_of_browses [LivenessStore σ] {request : Request} {service : Service σ}
    {query : PageQuery} {rows : List (Int × Notice)} (hstores : Stores service rows)
    (h : Browses request service query) :
    (Service.answer request service).1 = some (pageAnswer query rows) ∧
      (Service.answer request service).2.database.tables.notices =
        service.database.tables.notices := by
  obtain ⟨principal, ready, hready⟩ := h.handed
  have hdatabase : ready.database = service.database := by rw [hready.ready_eq]
  have hstored : Stores ready rows := by
    obtain ⟨hopen, htable⟩ := hstores
    rw [← hdatabase] at hopen htable
    exact ⟨hopen, htable⟩
  have hmethod : request.method ≠ "OPTIONS" := by
    rw [h.method]
    decide
  have hpath : request.path ≠ Gate.socketPath := by
    rw [h.path]
    decide
  have hreplies (context : Context) (found : Service σ)
      (hscope : Scope principal ready context found) :
      endpointList context request found =
        (.response (pageAnswer query rows), { found with cache := ready.cache }) := by
    rw [endpointList_of_scope hstored h.asks hscope, hscope.found_eq]
  obtain ⟨hanswer, -, hnotices⟩ := answer_of_replies hmethod hpath
    (dispatch_eq_endpointList h.method h.path) hready hstored.isOpen hreplies
  refine ⟨?_, hdatabase ▸ hnotices⟩
  rw [hanswer, Service.trimmed, h.method]
  rfl

/-! ### One page after the other -/

section Pages

variable [LivenessStore σ] {rows : List (Int × Notice)} {pageSize : Nat}
  {requests : Nat → Request} {services : Nat → Service σ}

/-- The pages of these notices, of which each request gets one. -/
structure Paginated (rows : List (Int × Notice)) (pageSize size : Nat) (requests : Nat → Request)
    (services : Nat → Service σ) (pages : Nat → List (Int × Notice)) : Prop where
  /-- An answer holds a page, the number of all notices, the number of the page and its size. -/
  answered : ∀ pageNum ≤ maxUnsigned32,
    (Service.answer (requests pageNum) (services pageNum)).1 =
      some (.ok (.okPage (.array ((pages pageNum).map fun (id, notice) ↦ toJson id notice))
        { total := rows.length, pageNum := max pageNum 1, pageSize := size }))
  /-- All pages together hold every notice once. -/
  once : ((List.range' 1 (PageQuery.lastPage rows.length size)).flatMap pages).Perm rows
  /-- The latest notices come first. -/
  falling : ((List.range' 1 (PageQuery.lastPage rows.length size)).flatMap pages).Pairwise
    fun row later ↦ later.1 < row.1
  /-- Every page but the last one is full. -/
  full : ∀ pageNum, 1 ≤ pageNum → pageNum < PageQuery.lastPage rows.length size →
    (pages pageNum).length = size
  /-- Behind the last page there is nothing. -/
  beyond : ∀ pageNum, PageQuery.lastPage rows.length size < pageNum → pages pageNum = []
  /-- Page zero is the first. -/
  first : pages 0 = pages 1
  /-- No offset is too large for the database. -/
  within : ∀ pageNum ≤ maxUnsigned32, PageQuery.offset { pageNum, pageSize } ≤ maxSigned64
  /-- The requests leave the notices alone. -/
  kept : ∀ pageNum ≤ maxUnsigned32,
    (Service.answer (requests pageNum) (services pageNum)).2.database.tables.notices =
      (services pageNum).database.tables.notices

/-- Whoever asks for one page after the other gets every notice, whatever else happens meanwhile to
the service. -/
theorem exists_paginated_of_browses
    (hstores : ∀ pageNum ≤ maxUnsigned32, Stores (services pageNum) rows)
    (hbrowses : ∀ pageNum ≤ maxUnsigned32,
      Browses (requests pageNum) (services pageNum) { pageNum, pageSize }) :
    ∃ pages, Paginated rows pageSize (max 1 (min pageSize 200)) requests services pages := by
  have hanswers (pageNum : Nat) (hbound : pageNum ≤ maxUnsigned32) :=
    answer_of_browses (hstores pageNum hbound) (hbrowses pageNum hbound)
  have hlength : rows.reverse.length = rows.length := List.length_reverse
  have hsize : PageQuery.limit { pageSize } = max 1 (min pageSize 200) := rfl
  have hall : (List.range' 1 (PageQuery.lastPage rows.length (max 1 (min pageSize 200)))).flatMap
      (fun pageNum ↦ PageQuery.cut { pageNum, pageSize } rows.reverse) = rows.reverse := by
    rw [PageQuery.flatMap_cut, hsize, List.take_of_length_le]
    rw [hlength]
    exact PageQuery.le_lastPage_mul _ (Nat.le_max_left _ _)
  refine ⟨fun pageNum ↦ PageQuery.cut { pageNum, pageSize } rows.reverse, ?_⟩
  constructor
  case answered => exact fun pageNum hbound ↦ (hanswers pageNum hbound).1
  case once =>
    rw [hall]
    exact List.reverse_perm rows
  case falling =>
    obtain ⟨table, -, rfl⟩ := (hstores 0 (Nat.zero_le _)).table
    rw [hall]
    exact List.pairwise_reverse.mpr table.ascending
  case full =>
    intro pageNum hpos hlast
    rw [← hlength] at hlast
    exact PageQuery.length_cut_of_lt pageSize rows.reverse hpos hlast
  case beyond =>
    intro pageNum hlast
    rw [← hlength] at hlast
    exact PageQuery.cut_of_lastPage_lt pageSize rows.reverse hlast
  case first => rfl
  case within => exact fun pageNum hbound ↦ PageQuery.offset_le hbound
  case kept => exact fun pageNum hbound ↦ (hanswers pageNum hbound).2

end Pages

/-! ### Three notices, two on a page -/

/-- A request of alice for a page. -/
def pageRequest (query : PageQuery) : Request :=
  { Desk.request "GET" "/api/v1/notices" "" with query := some query.spell }

/-- What the layers come to does not depend on the query. -/
theorem verdict_withQuery [LivenessStore σ] (request : Request) (query : Option String)
    (service : Service σ) :
    Gate.verdict { request with query } service = Gate.verdict request service :=
  rfl

theorem browses_pageRequest {query : PageQuery} (hnum : query.pageNum ≤ maxUnsigned32)
    (hsize : query.pageSize ≤ maxUnsigned32) (tables : Tables) :
    Browses (pageRequest query) (Desk.service tables) query := by
  have hneeds : Desk.settings.access.requiresToken "/api/v1/notices" = true := by decide
  obtain ⟨ready, hready, -⟩ := Desk.exists_handsOn_request tables (fun _ ↦ none) "GET" "" hneeds
  have hverdict := hready.verdict_eq
  rw [← verdict_withQuery _ (some query.spell)] at hverdict
  exact ⟨rfl, rfl, PageQuery.ofTarget?_spell hnum hsize, _, _, Gate.handsOn_of_verdict hverdict⟩

/-- Three notices, the first of which was deleted. -/
def threeRows : List (Int × Notice) :=
  [2, 3, 4].map fun id ↦ (id, ⟨"t", "c", 1, none, "alice", 1700000000000⟩)

def threeNotices : Table Notice where
  rows := threeRows
  lastId := 4
  ascending := by decide
  counted := by decide

/-- The three of them make a full page and a last one. -/
theorem exists_paginated_of_browses_threeRows :
    let service := Desk.service { Tables.prepare {} with notices := some threeNotices }
    let requests := fun pageNum ↦ pageRequest { pageNum, pageSize := 2 }
    Stores service threeRows ∧
      (∀ pageNum ≤ maxUnsigned32, Browses (requests pageNum) service { pageNum, pageSize := 2 }) ∧
      ∃ pages, Paginated threeRows 2 2 requests (fun _ ↦ service) pages ∧
        (pages 1).length = 2 ∧ pages 3 = [] := by
  intro service requests
  have hstores : Stores service threeRows := ⟨rfl, _, rfl, rfl⟩
  have hsmall : 2 ≤ maxUnsigned32 := by decide
  have hbrowses (pageNum : Nat) (hbound : pageNum ≤ maxUnsigned32) :
      Browses (requests pageNum) service { pageNum, pageSize := 2 } :=
    browses_pageRequest hbound hsmall _
  obtain ⟨pages, hpages⟩ :=
    exists_paginated_of_browses (fun _ _ ↦ hstores) hbrowses
  have hsize : max 1 (min 2 200) = 2 := rfl
  rw [hsize] at hpages
  exact ⟨hstores, hbrowses, pages, hpages, hpages.full 1 (by decide) (by decide),
    hpages.beyond 3 (by decide)⟩

end Notice

end StompBroker
