import StompBroker.Proofs.Json.Record
import StompBroker.Proofs.Password
import StompBroker.Proofs.Service.Reading
import StompBroker.Token.RemoteCache

/-!
# Who may log in

Of a table of users a login asks one thing: whether there is a row with the name that was entered,
without the blanks around it, whose hash is that of the password (`Verifies`). If there is one and
its account is enabled, the login is granted, and in a cache that works the token of the answer is
valid at once, for the user of that row. If its account is disabled, or if there is none, the login
is refused, and only the code of the answer tells these apart. A refused login leaves the cache as
it was, so whoever was live stays so and nobody else becomes live (`decided_of_asks`).

The path of the login needs no token (`not_needsToken_login`), so nothing but the limiter stands in
front of it.
-/

set_option autoImplicit false

namespace StompBroker

variable {σ : Type}

/-! ### A cache that works -/

/-- What is kept in the store now is there now. -/
def LivenessStore.Works [LivenessStore σ] (clock : Clock) (store : σ) : Prop :=
  ∀ key seconds, 0 < seconds →
    ∃ after, LivenessStore.set clock key seconds store = (.ok (), after) ∧
      (LivenessStore.contains clock key after).1 = .ok true

theorem LivenessCache.lt_expiry_of_pos {clock : Clock} {seconds : Nat}
    (hend : clock.millis < maxInt64) (hpos : 0 < seconds) :
    clock.millis < expiry clock seconds := by
  unfold expiry lifetime clamp64 maxUnsigned64 minInt64
  unfold maxInt64 at hend ⊢
  omega

/-- The cache in the service works until the end of time. -/
theorem LivenessCache.works {clock : Clock} (hend : clock.millis < maxInt64)
    (cache : LivenessCache) : LivenessStore.Works clock cache := by
  intro key seconds hpos
  have hlive : (cache.set clock key seconds).Live clock key := by
    rw [live_set_iff, if_pos rfl]
    exact lt_expiry_of_pos hend hpos
  exact ⟨_, rfl, congrArg Except.ok ((contains_eq_true_iff _ _ _).mpr hlive)⟩

/-- So does one on a server that answers. -/
theorem RemoteCache.works {clock : Clock} (hend : clock.millis < maxInt64) {cache : RemoteCache}
    (hanswers : cache.silence = none) : LivenessStore.Works clock cache := by
  intro key seconds hpos
  have hlive : (cache.held.set clock key seconds).Live clock key := by
    rw [LivenessCache.live_set_iff, if_pos rfl]
    exact LivenessCache.lt_expiry_of_pos hend hpos
  refine ⟨{ cache with held := cache.held.set clock key seconds }, ?_, ?_⟩
  · simp only [LivenessStore.set, ask, hanswers]
  · simp only [LivenessStore.contains, ask, hanswers]
    exact congrArg Except.ok ((LivenessCache.contains_eq_true_iff _ _ _).mpr hlive)

/-- Where the cache works, a token is valid when it is issued. -/
theorem Authenticator.validate_issue [LivenessStore σ] (auth : Authenticator) {clock : Clock}
    {store : σ} (hworks : LivenessStore.Works clock store) (hclock : InWord clock.millis)
    {user : Principal} (huser : user.userId ≤ maxUnsigned64) :
    ∃ token after, auth.issue clock user store = (.ok token, after) ∧
      ∃ claims, (auth.validate clock token after).1 = .ok claims ∧ claims.principal = user := by
  have hpos : 0 < auth.livenessSeconds :=
    Nat.lt_min.mpr ⟨Nat.succ_pos _, by decide⟩
  obtain ⟨after, hset, hcontains⟩ := hworks (livenessKey user.username) auth.livenessSeconds hpos
  obtain ⟨token, hissue, htimeline⟩ := auth.timeline_of_issue clock user huser hclock hset
  have hparse := htimeline.valid clock (Int.le_refl _) htimeline.ordered
  exact ⟨token, after, hissue, _, auth.validate_of_parse hparse hcontains, rfl⟩

namespace Login

open Gate (Scope)

/-! ### What the table of users says -/

/-- Names are given once, ids are positive numbers of the database, and passwords are kept as
hashes. -/
structure Accounts (rows : List (Int × User)) : Prop where
  names : (rows.map fun row ↦ row.2.username).Nodup
  ids : ∀ row ∈ rows, 0 < row.1 ∧ row.1 ≤ maxInt64
  hashes : ∀ row ∈ rows, PasswordHash.parse? row.2.password ≠ none

/-- This row is that of the name, and its hash that of the password. -/
structure Verifies (rows : List (Int × User)) (username password : String) (id : Int)
    (user : User) : Prop where
  named : username ≠ ""
  given : password ≠ ""
  row : (id, user) ∈ rows
  name : user.username = username
  verified : verifyPassword user.password password = .ok true

theorem find?_eq_some_iff {rows : List (Int × User)}
    (h : (rows.map fun row ↦ row.2.username).Nodup) {username : String} {id : Int} {user : User} :
    rows.find? (fun row ↦ row.2.username == username) = some (id, user) ↔
      (id, user) ∈ rows ∧ user.username = username := by
  constructor
  · intro hfound
    have hname := List.find?_some hfound
    exact ⟨List.mem_of_find?_eq_some hfound, beq_iff_eq.mp hname⟩
  · rintro ⟨hmem, hname⟩
    cases hfound : rows.find? fun row ↦ row.2.username == username with
    | none =>
      have hother := List.find?_eq_none.mp hfound (id, user) hmem
      exact absurd (beq_iff_eq.mpr hname) hother
    | some found =>
      have hother := List.find?_some hfound
      have hsame : found.2.username = user.username := (beq_iff_eq.mp hother).trans hname.symm
      rw [List.inj_on_of_nodup_map h (List.mem_of_find?_eq_some hfound) hmem hsame]

/-- There is one such row at most. -/
theorem Verifies.unique {rows : List (Int × User)} {username password : String} {id id' : Int}
    {user user' : User} (hrows : (rows.map fun row ↦ row.2.username).Nodup)
    (h : Verifies rows username password id user) (h' : Verifies rows username password id' user') :
    id' = id ∧ user' = user := by
  have hsame := List.inj_on_of_nodup_map hrows h'.row h.row (h'.name.trans h.name.symm)
  exact ⟨congrArg Prod.fst hsame, congrArg Prod.snd hsame⟩

/-- What the service answers if it finds the row of the name. -/
theorem check_eq {user : User} {password : String} {verified : Bool}
    (h : verifyPassword user.password password = .ok verified) :
    check password user =
      if verified then
        if user.status = User.enabled then .ok () else .error (.unauthorized "Account disabled")
      else .error .badCredentials := by
  unfold check
  rw [h]
  cases verified with
  | false => rfl
  | true =>
    by_cases hstatus : user.status = User.enabled
    · simp [hstatus, bind, Except.bind, pure, Except.pure]
    · simp [hstatus, bind, Except.bind, throw, throwThe, MonadExceptOf.throw]

section Decision

variable [LivenessStore σ] {service found : Service σ} {context : Context} {users : Table User}
  {username password : String} {id : Int} {user : User}

theorem logIn_of_verifies (haccounts : Accounts users.rows)
    (hexecute : context.execute (Tables.findUser username) found =
      (.ok (users.find? fun user ↦ user.username == username), found))
    (h : Verifies users.rows username password id user) :
    logIn context username password found =
      if user.status = User.enabled then grant id username found
      else (.error (.unauthorized "Account disabled"), found) := by
  have hgiven : ¬(username.isEmpty || password.isEmpty) = true := by
    simp [String.isEmpty_iff, h.named, h.given]
  have hfound : users.find? (fun user ↦ user.username == username) = some (id, user) :=
    (find?_eq_some_iff haccounts.names).mpr ⟨h.row, h.name⟩
  rw [logIn, if_neg hgiven, hexecute, hfound]
  simp only [check_eq h.verified, if_true]
  by_cases hstatus : user.status = User.enabled
  · simp only [if_pos hstatus]
  · simp only [if_neg hstatus]

theorem logIn_of_not_verifies (haccounts : Accounts users.rows)
    (hexecute : context.execute (Tables.findUser username) found =
      (.ok (users.find? fun user ↦ user.username == username), found))
    (h : ∀ id user, ¬Verifies users.rows username password id user) :
    logIn context username password found = (.error .badCredentials, found) := by
  unfold logIn
  split
  · rfl
  · rename_i hgiven
    simp only [Bool.or_eq_true, String.isEmpty_iff, not_or] at hgiven
    rw [hexecute]
    cases hfound : users.find? fun user ↦ user.username == username with
    | none => rfl
    | some row =>
      obtain ⟨id, user⟩ := row
      obtain ⟨hmem, hname⟩ := (find?_eq_some_iff haccounts.names).mp hfound
      obtain ⟨hash, hhash⟩ := Option.ne_none_iff_exists'.mp (haccounts.hashes _ hmem)
      have hverify : verifyPassword user.password password = .ok (hash.accepts password) := by
        rw [verifyPassword, hhash]
      have hwrong : hash.accepts password = false := by
        by_contra haccepted
        rw [Bool.not_eq_false] at haccepted
        rw [haccepted] at hverify
        exact h id user ⟨hgiven.1, hgiven.2, hmem, hname, hverify⟩
      simp only [check_eq hverify, hwrong, Bool.false_eq_true, if_false]

end Decision

/-! ### The answer to a login -/

theorem not_needsToken_login (settings : AccessSettings) :
    ¬settings.NeedsToken "/api/v1/auth/login" := by
  have hlogin : AccessSettings.loginStarts.any (Text.startsWith · "/api/v1/auth/login") = true := by
    decide
  rw [← AccessSettings.requiresToken_iff, AccessSettings.requiresToken, hlogin]
  simp

theorem dispatch_eq_endpoint [LivenessStore σ] {request : Request}
    (hmethod : request.method = "POST") (hpath : request.path = "/api/v1/auth/login")
    (context : Context) :
    Endpoint.dispatch (Endpoint.all (σ := σ)) context request = endpoint context request := by
  funext service
  simp [Endpoint.dispatch, Endpoint.all, Endpoint.takes, hmethod, hpath, List.find?]

/-- A login with this name and this password that the limiter lets through. -/
structure Asks (request : Request) (service : Service σ) (entered password : String) : Prop where
  method : request.method = "POST"
  path : request.path = "/api/v1/auth/login"
  lets : Gate.Lets request service
  body : ∃ body, request.document shape = .ok body ∧ body.textOf "username" = entered ∧
    body.textOf "password" = password

/-- The response refuses the request with this code. -/
def Refuses (code : String) (response : Response) : Prop :=
  ∃ message, response = .refuse ⟨401, code, message⟩

/-- How a login is answered. -/
structure Decided [LivenessStore σ] (service : Service σ) (rows : List (Int × User))
    (username password : String) (answered : Response × Service σ) : Prop where
  /-- It is granted exactly if there is a row for it with an enabled account. -/
  granted_iff : answered.1.status = 200 ↔
    ∃ id user, Verifies rows username password id user ∧ user.status = 1
  /-- The answer holds a token that is valid at once, for the user of the row. -/
  token : ∀ id user, Verifies rows username password id user → user.status = 1 →
    ∃ token, answered.1 = .ok (granted token service.auth.ttlSeconds) ∧
      ∃ claims, (service.auth.validate service.clock token answered.2.cache).1 = .ok claims ∧
        (claims.principal.userId : Int) = id ∧ claims.principal.username = user.username
  /-- With the right password, a disabled account is told from one that is not there. -/
  disabled : ∀ id user, Verifies rows username password id user → user.status ≠ 1 →
    Refuses "A" answered.1
  /-- Otherwise nothing is told. -/
  unverified : (∀ id user, ¬Verifies rows username password id user) → Refuses "A0210" answered.1
  /-- A login that is refused leaves the cache as it was. -/
  untouched : answered.1.status ≠ 200 → answered.2.cache = service.cache

section Answer

variable [LivenessStore σ] {request : Request} {service : Service σ} {users : Table User}
  {entered password : String}

/-- The handler of a login comes to what `logIn` comes to, in every scope. -/
theorem answer_of_asks (hasks : Asks request service entered password)
    (hopen : service.database.isOpen = true) {outcome : Except Failure Envelope} {cache : σ}
    (hlogin : ∀ context found, Scope none (Gate.metered request service) context found →
      logIn context (Text.trim entered) password found =
        (outcome, { found with cache := cache })) :
    ∃ after, Service.answer request service = (some (.ofOutcome outcome), after) ∧
      after.cache = cache := by
  obtain ⟨body, hdocument, rfl, rfl⟩ := hasks.body
  have hneeds : ¬(Gate.metered request service).settings.access.NeedsToken request.path := by
    rw [hasks.path]
    exact not_needsToken_login _
  have hready : Gate.HandsOn request service none (Gate.metered request service) :=
    Gate.handsOn_of_verdict
      (by rw [Gate.verdict_of_lets hasks.lets, Gate.identify_of_open _ hneeds])
  have hmethod : request.method ≠ "OPTIONS" := by
    rw [hasks.method]
    decide
  have hpath : request.path ≠ Gate.socketPath := by
    rw [hasks.path]
    decide
  have hreplies (context : Context) (found : Service σ)
      (hscope : Scope none (Gate.metered request service) context found) :
      endpoint context request found =
        (.response (.ofOutcome outcome), { found with cache := cache }) := by
    simp only [endpoint, Handler.reading, hdocument, hlogin context found hscope]
    rfl
  obtain ⟨hanswer, hcache, -⟩ := answer_of_replies hmethod hpath
    (dispatch_eq_endpoint hasks.method hasks.path) hready hopen hreplies
  refine ⟨_, Prod.ext ?_ rfl, hcache⟩
  rw [hanswer, Service.trimmed, hasks.method]
  rfl

section Ends

variable {rows : List (Int × User)} {username : String} {id : Int} {user : User}
  {answered : Response × Service σ}

theorem decided_of_granted (hrows : (rows.map fun row ↦ row.2.username).Nodup)
    (h : Verifies rows username password id user) (hstatus : user.status = 1) {token : String}
    (hanswer : answered.1 = .ok (granted token service.auth.ttlSeconds)) {claims : Claims}
    (hvalid : (service.auth.validate service.clock token answered.2.cache).1 = .ok claims)
    (hid : (claims.principal.userId : Int) = id) (hname : claims.principal.username = username) :
    Decided service rows username password answered := by
  have hgranted : answered.1.status = 200 := by
    rw [hanswer]
    rfl
  constructor
  case granted_iff => exact iff_of_true hgranted ⟨id, user, h, hstatus⟩
  case token =>
    intro other holder hother _
    obtain ⟨rfl, rfl⟩ := h.unique hrows hother
    exact ⟨token, hanswer, claims, hvalid, hid, hname.trans h.name.symm⟩
  case disabled =>
    intro other holder hother hdisabled
    obtain ⟨rfl, rfl⟩ := h.unique hrows hother
    exact absurd hstatus hdisabled
  case unverified => exact fun hnone ↦ absurd h (hnone id user)
  case untouched => exact fun hrefused ↦ absurd hgranted hrefused

theorem decided_of_disabled (hrows : (rows.map fun row ↦ row.2.username).Nodup)
    (h : Verifies rows username password id user) (hstatus : user.status ≠ 1) {reason : String}
    (hanswer : answered.1 = .fail (.unauthorized reason))
    (hcache : answered.2.cache = service.cache) :
    Decided service rows username password answered := by
  have hrefused : answered.1.status ≠ 200 := by
    rw [hanswer]
    exact fun hsame ↦ nomatch hsame
  have hnotEnabled (other : Int) (holder : User)
      (hother : Verifies rows username password other holder) : holder.status ≠ 1 := by
    obtain ⟨rfl, rfl⟩ := h.unique hrows hother
    exact hstatus
  constructor
  case granted_iff =>
    refine iff_of_false hrefused ?_
    rintro ⟨other, holder, hother, henabled⟩
    exact hnotEnabled other holder hother henabled
  case token =>
    intro other holder hother henabled
    exact absurd henabled (hnotEnabled other holder hother)
  case disabled => exact fun _ _ _ _ ↦ ⟨_, hanswer⟩
  case unverified => exact fun hnone ↦ absurd h (hnone id user)
  case untouched => exact fun _ ↦ hcache

theorem decided_of_unverified (h : ∀ id user, ¬Verifies rows username password id user)
    (hanswer : answered.1 = .fail .badCredentials) (hcache : answered.2.cache = service.cache) :
    Decided service rows username password answered := by
  have hrefused : answered.1.status ≠ 200 := by
    rw [hanswer]
    exact fun hsame ↦ nomatch hsame
  constructor
  case granted_iff =>
    refine iff_of_false hrefused ?_
    rintro ⟨id, user, hverifies, -⟩
    exact h id user hverifies
  case token => exact fun id user hverifies ↦ absurd hverifies (h id user)
  case disabled => exact fun id user hverifies ↦ absurd hverifies (h id user)
  case unverified => exact fun _ ↦ ⟨_, hanswer⟩
  case untouched => exact fun _ ↦ hcache

end Ends

section Scopes

variable {username : String} {context : Context} {found : Service σ}

omit [LivenessStore σ] in
theorem execute_findUser (hopen : service.database.isOpen = true)
    (husers : service.database.tables.users = some users) (username : String)
    (hscope : Scope none (Gate.metered request service) context found) :
    context.execute (Tables.findUser username) found =
      (.ok (users.find? fun user ↦ user.username == username), found) := by
  refine hscope.execute hopen ?_
  have htable : (Gate.metered request service).database.tables.users = some users := husers
  rw [Tables.findUser, htable]
  rfl

omit [LivenessStore σ] in
theorem found_cache (hscope : Scope none (Gate.metered request service) context found) :
    found = { found with cache := service.cache } := by
  rw [hscope.found_eq]
  rfl

theorem grant_of_issue {token : String} {after : σ} {id : Int}
    (hissue : service.auth.issue service.clock (principal id username) service.cache =
      (.ok token, after))
    (hscope : Scope none (Gate.metered request service) context found) :
    grant id username found =
      (.ok (granted token service.auth.ttlSeconds), { found with cache := after }) := by
  obtain ⟨database, rfl⟩ : ∃ database, found = { Gate.metered request service with database } :=
    ⟨_, hscope.found_eq⟩
  have hfound : ({ Gate.metered request service with database } : Service σ).auth.issue
      service.clock (principal id username) service.cache = (.ok token, after) :=
    hissue
  rw [grant]
  simp only [Gate.metered] at hfound ⊢
  rw [hfound]
  rfl

end Scopes

/-- A token for a row of the table is valid when it is issued. -/
theorem exists_issued (haccounts : Accounts users.rows)
    (hworks : LivenessStore.Works service.clock service.cache)
    (hclock : InWord service.clock.millis) {id : Int} {user : User} (hrow : (id, user) ∈ users.rows)
    (username : String) :
    ∃ token after, service.auth.issue service.clock (principal id username) service.cache =
        (.ok token, after) ∧
      ∃ claims, (service.auth.validate service.clock token after).1 = .ok claims ∧
        (claims.principal.userId : Int) = id ∧ claims.principal.username = username := by
  obtain ⟨hpos, hmost⟩ := haccounts.ids _ hrow
  have hsize : (principal id username).userId ≤ maxUnsigned64 :=
    Nat.le_trans (Int.toNat_le_toNat hmost) (by decide)
  obtain ⟨token, after, hissue, claims, hvalid, hclaims⟩ :=
    service.auth.validate_issue hworks hclock hsize
  refine ⟨token, after, hissue, claims, hvalid, ?_, ?_⟩
  · rw [hclaims]
    exact Int.toNat_of_nonneg (Int.le_of_lt hpos)
  · rw [hclaims]
    rfl

/-- There is an answer, whatever the table of users, the cache, the name and the password are. -/
theorem decided_of_asks (hasks : Asks request service entered password)
    (hopen : service.database.isOpen = true) (husers : service.database.tables.users = some users)
    (haccounts : Accounts users.rows) (hworks : LivenessStore.Works service.clock service.cache)
    (hclock : InWord service.clock.millis) :
    ∃ response after, Service.answer request service = (some response, after) ∧
      Decided service users.rows (Text.trim entered) password (response, after) := by
  by_cases hverifies : ∃ id user, Verifies users.rows (Text.trim entered) password id user
  · obtain ⟨id, user, h⟩ := hverifies
    by_cases hstatus : user.status = User.enabled
    · obtain ⟨token, after, hissue, claims, hvalid, hid, hname⟩ :=
        exists_issued haccounts hworks hclock h.row (Text.trim entered)
      obtain ⟨left, hanswer, hcache⟩ :=
        answer_of_asks hasks hopen fun context found hscope ↦ by
          rw [logIn_of_verifies haccounts (execute_findUser hopen husers _ hscope) h,
            if_pos hstatus, grant_of_issue hissue hscope]
      rw [← hcache] at hvalid
      exact ⟨_, left, hanswer,
        decided_of_granted haccounts.names h hstatus rfl hvalid hid hname⟩
    · obtain ⟨left, hanswer, hcache⟩ :=
        answer_of_asks hasks hopen fun context found hscope ↦ by
          rw [logIn_of_verifies haccounts (execute_findUser hopen husers _ hscope) h,
            if_neg hstatus, ← found_cache hscope]
      exact ⟨_, left, hanswer, decided_of_disabled haccounts.names h hstatus rfl hcache⟩
  · have hnone (id : Int) (user : User)
        (h : Verifies users.rows (Text.trim entered) password id user) : False :=
      hverifies ⟨id, user, h⟩
    obtain ⟨left, hanswer, hcache⟩ :=
      answer_of_asks hasks hopen fun context found hscope ↦ by
        rw [logIn_of_not_verifies haccounts (execute_findUser hopen husers _ hscope) hnone,
          ← found_cache hscope]
    exact ⟨_, left, hanswer, decided_of_unverified hnone rfl hcache⟩

end Answer

/-! ### Two users with passwords -/

/-- The body of a login is what a form says. -/
def form (username password : String) : Request :=
  { method := "POST", path := "/api/v1/auth/login"
    headers := [("content-type", Utf8.encode "application/json")]
    body := Json.write (.object [("username", .string username), ("password", .string password)]) }

theorem document_form {username password : String}
    (h : (form username password).body.length ≤ Request.bodyLimit) :
    (form username password).document shape =
      .ok (.object [("username", .string username), ("password", .string password)]) := by
  have htype : ((form username password).headerText? "content-type").elim false
      MediaType.isJson = true := by
    with_unfolding_all rfl
  have hflat : Json.Flat [("username", .required, .text), ("password", .required, .text)]
      [("username", .string username), ("password", .string password)] := by
    refine ⟨fun member hmem ↦ ?_, fun member hmem field hfield ↦ ?_, by simp⟩
    · simp only [List.mem_cons, List.not_mem_nil, or_false] at hmem
      rcases hmem with rfl | rfl <;> exact .text _
    · simp only [List.mem_cons, List.not_mem_nil, or_false] at hmem
      rcases hmem with rfl | rfl <;> cases hfield <;> exact .text _
  have hread : shape.read (form username password).body =
      .ok (.object [("username", .string username), ("password", .string password)]) :=
    Json.Shape.read_record hflat rfl
  rw [Request.document, htype, if_neg (by decide), if_neg (Nat.not_lt.mpr h), hread]

/-- Whatever is entered in the form is what the login asks. -/
theorem asks_form [LivenessStore σ] {username password : String} {service : Service σ}
    (hlets : Gate.Lets (form username password) service)
    (hsize : (form username password).body.length ≤ Request.bodyLimit) :
    Asks (form username password) service username password :=
  ⟨rfl, rfl, hlets, _, document_form hsize, rfl, rfl⟩

def salt : Bytes := List.replicate 16 0

/-- The accounts of alice and of bob, the second of which is disabled. -/
def twoRows : List (Int × User) :=
  [(7, ⟨"alice", "Alice", PasswordHash.create "secret" salt, 1, 0⟩),
    (8, ⟨"bob", "Bob", PasswordHash.create "sesame" salt, 0, 0⟩)]

theorem accounts_twoRows : Accounts twoRows where
  names := by decide
  ids := by decide
  hashes row hmem := by
    have hcreated (password : String) :
        PasswordHash.parse? (PasswordHash.create password salt) ≠ none := by
      rw [PasswordHash.parse?_create password (by decide) (by decide)]
      exact Option.some_ne_none _
    simp only [twoRows, List.mem_cons, List.not_mem_nil, or_false] at hmem
    rcases hmem with rfl | rfl <;> exact hcreated _

theorem verifies_alice :
    Verifies twoRows "alice" "secret" 7
      ⟨"alice", "Alice", PasswordHash.create "secret" salt, 1, 0⟩ :=
  ⟨by decide, by decide, List.mem_cons_self, rfl,
    verifyPassword_create_self "secret" (by decide) (by decide)⟩

theorem verifies_bob :
    Verifies twoRows "bob" "sesame" 8 ⟨"bob", "Bob", PasswordHash.create "sesame" salt, 0, 0⟩ :=
  ⟨by decide, by decide, List.mem_cons_of_mem _ List.mem_cons_self, rfl,
    verifyPassword_create_self "sesame" (by decide) (by decide)⟩

def twoUsers : Table User where
  rows := twoRows
  lastId := 8
  ascending := by decide
  counted := by decide

/-- Alice is let in, though she put blanks around her name, and bob is not. -/
theorem decided_of_asks_twoRows :
    let service := Desk.service { Tables.prepare {} with users := some twoUsers }
    Asks (form " alice " "secret") service " alice " "secret" ∧
      Asks (form "bob" "sesame") service "bob" "sesame" ∧ service.database.isOpen = true ∧
      Accounts twoRows ∧ LivenessStore.Works service.clock service.cache ∧
      InWord service.clock.millis ∧
      (∃ response after,
        Service.answer (form " alice " "secret") service = (some response, after) ∧
          Decided service twoRows "alice" "secret" (response, after) ∧ response.status = 200) ∧
      ∃ response after, Service.answer (form "bob" "sesame") service = (some response, after) ∧
        Decided service twoRows "bob" "sesame" (response, after) ∧ Refuses "A" response ∧
          after.cache = service.cache := by
  intro service
  have hworks : LivenessStore.Works service.clock service.cache :=
    LivenessCache.works (by decide) _
  have hclock : InWord service.clock.millis := ⟨by decide, by decide⟩
  have halice : Asks (form " alice " "secret") service " alice " "secret" :=
    asks_form rfl (by decide)
  have hbob : Asks (form "bob" "sesame") service "bob" "sesame" := asks_form rfl (by decide)
  obtain ⟨first, left, hfirst, hgranted⟩ :=
    decided_of_asks halice rfl rfl accounts_twoRows hworks hclock
  obtain ⟨second, after, hsecond, hdecided⟩ :=
    decided_of_asks hbob rfl rfl accounts_twoRows hworks hclock
  have hrefused : Refuses "A" second := hdecided.disabled _ _ verifies_bob (by decide)
  have hstatus : second.status ≠ 200 := by
    obtain ⟨message, rfl⟩ := hrefused
    exact fun hsame ↦ nomatch hsame
  exact ⟨halice, hbob, rfl, accounts_twoRows, hworks, hclock,
    ⟨first, left, hfirst, hgranted, hgranted.granted_iff.mpr ⟨_, _, verifies_alice, rfl⟩⟩,
    second, after, hsecond, hdecided, hrefused, hdecided.untouched hstatus⟩

end Login

end StompBroker
