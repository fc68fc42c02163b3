import StompBroker.Destination
import StompBroker.Proofs.Text.Split

/-!
# Classes of destinations

`Destination.Fits` says of each class which paths are in it, and `fits_parse` that a path is in the
class that it is parsed as. A destination that is parsed as a topic or a queue, or as a private
queue, is its own path (`parse_eq_topic`, `parse_eq_queue`, `parse_eq_userQueue`). One that names a
user is the user's own form of a private queue, and its canonical form is the shared key of that
queue (`parse_eq_userScoped`).

The keys under which sessions subscribe have one of three starts and a name behind it (`IsKey`). A
destination with one of the first two is published to as it is, or has no name and is no key
(`parse_of_isShared`).

A destination may name a user (`Names`): it is that user's own form of a private queue, or the
endpoint that greets the user. It names no second one (`Names.unique`).

The own form of a private queue is read back as what it was made from (`parse_eq_userScoped_iff`),
but for the user called queue, whose own forms are taken for shared keys (`parse_userDestination`).
-/

set_option autoImplicit false

namespace StompBroker.Destination

variable {raw path start username canonical : String}

theorem hasName_iff : hasName start path = true ↔ ∃ name, name ≠ "" ∧ path = start ++ name := by
  unfold hasName
  constructor
  · intro h
    cases hrest : Text.stripStart? start path with
    | none =>
      rw [hrest] at h
      cases h
    | some name =>
      rw [hrest] at h
      refine ⟨name, ?_, Text.stripStart?_eq_some_iff.mp hrest⟩
      rintro rfl
      cases h
  · rintro ⟨name, hname, hpath⟩
    rw [Text.stripStart?_eq_some_iff.mpr hpath]
    simpa [String.isEmpty_iff] using hname

/-- A path is of a class. -/
def Fits (raw : String) : Destination → Prop
  | topic path => path = raw ∧ hasName "/topic/" raw
  | queue path => path = raw ∧ hasName "/queue/" raw
  | userQueue path => path = raw ∧ hasName "/user/queue/" raw
  | app path => path = raw ∧ hasName "/app/" raw
  | userScoped username canonical =>
    ∃ queue, raw = userDestination username queue ∧ canonical = StompBroker.userQueue queue ∧
      hasName "/queue/" queue
  | other path => path = raw

/-- The first slash behind the start ends the user's name, so a path names one user. -/
theorem scoped?_eq_some_iff :
    scoped? raw = some (username, canonical) ↔
      username ≠ "" ∧ '/' ∉ username.toList ∧ ∃ queue, hasName "/queue/" queue = true ∧
        raw = userDestination username queue ∧ canonical = StompBroker.userQueue queue := by
  have hslash : String.singleton '/' = "/" := rfl
  constructor
  · intro h
    unfold scoped? at h
    obtain ⟨rest, hrest, h⟩ := Option.bind_eq_some_iff.mp h
    obtain ⟨⟨user, name⟩, hparts, h⟩ := Option.bind_eq_some_iff.mp h
    simp only [Option.ite_none_right_eq_some, Bool.and_eq_true, Bool.not_eq_true',
      String.isEmpty_eq_false_iff] at h
    obtain ⟨⟨hne, hnamed⟩, hfound⟩ := h
    cases hfound
    obtain ⟨hfront, rfl⟩ := Text.splitOnce?_eq_some_iff.mp hparts
    obtain rfl := Text.stripStart?_eq_some_iff.mp hrest
    refine ⟨hne, hfront, "/" ++ name, hnamed, ?_, rfl⟩
    simp [userDestination, String.append_assoc, hslash]
  · rintro ⟨hne, hfront, queue, hnamed, rfl, rfl⟩
    obtain ⟨name, -, rfl⟩ := hasName_iff.mp hnamed
    have hstart : "/queue/" = "/" ++ "queue/" := rfl
    have hrest : Text.stripStart? "/user/" (userDestination username ("/queue/" ++ name)) =
        some (username ++ ("/queue/" ++ name)) := by
      rw [Text.stripStart?_eq_some_iff, userDestination, String.append_assoc]
    have hparts : Text.splitOnce? '/' (username ++ ("/queue/" ++ name)) =
        some (username, "queue/" ++ name) := by
      rw [Text.splitOnce?_eq_some_iff, hslash, hstart]
      exact ⟨hfront, by simp only [String.append_assoc]⟩
    have hqueue : "/" ++ ("queue/" ++ name) = "/queue/" ++ name := by
      rw [hstart, String.append_assoc]
    simp [scoped?, hrest, hparts, hqueue, hnamed, hne]

theorem scoped?_eq_some (h : scoped? raw = some (username, canonical)) :
    Fits raw (userScoped username canonical) := by
  obtain ⟨-, -, queue, hnamed, hraw, hcanonical⟩ := scoped?_eq_some_iff.mp h
  exact ⟨queue, hraw, hcanonical, hnamed⟩

theorem fits_parse (raw : String) : Fits raw (parse raw) := by
  unfold parse
  split
  · exact ⟨rfl, by assumption⟩
  split
  · exact ⟨rfl, by assumption⟩
  split
  · exact ⟨rfl, by assumption⟩
  split
  · exact ⟨rfl, by assumption⟩
  split
  · rename_i hscoped
    exact scoped?_eq_some hscoped
  · exact rfl

/-- A path that names no user is kept as it is. -/
theorem parse_mem_of_ne_userScoped (h : ∀ username canonical,
    parse raw ≠ userScoped username canonical) :
    parse raw ∈ [topic raw, queue raw, userQueue raw, app raw, other raw] := by
  have hfits := fits_parse raw
  cases hparse : parse raw with
  | userScoped username canonical => exact absurd hparse (h username canonical)
  | topic path | queue path | userQueue path | app path =>
    rw [hparse] at hfits
    simp [hfits.1]
  | other path =>
    rw [hparse] at hfits
    obtain rfl : path = raw := hfits
    simp

theorem fits_of_parse_eq {destination : Destination} (h : parse raw = destination) :
    Fits raw destination :=
  h ▸ fits_parse raw

theorem parse_eq_topic (h : parse raw = topic path) : path = raw :=
  (fits_of_parse_eq h).1

theorem parse_eq_queue (h : parse raw = queue path) : path = raw :=
  (fits_of_parse_eq h).1

theorem parse_eq_userQueue (h : parse raw = userQueue path) : path = raw :=
  (fits_of_parse_eq h).1

theorem parse_eq_userScoped (h : parse raw = userScoped username canonical) :
    ∃ queue, raw = userDestination username queue ∧ canonical = StompBroker.userQueue queue := by
  obtain ⟨queue, hraw, hcanonical, -⟩ := fits_of_parse_eq h
  exact ⟨queue, hraw, hcanonical⟩

/-! ### Keys of the table -/

/-- A topic, a queue or the shared form of a private queue. -/
def IsKey (key : String) : Prop :=
  ∃ start ∈ ["/topic/", "/queue/", "/user/queue/"], ∃ name, name ≠ "" ∧ key = start ++ name

/-- Sessions subscribe to a key as it is. -/
theorem isKey_iff_parse :
    IsKey raw ↔ parse raw = topic raw ∨ parse raw = queue raw ∨ parse raw = userQueue raw := by
  have hkey : IsKey raw ↔ hasName "/topic/" raw = true ∨ hasName "/queue/" raw = true ∨
      hasName "/user/queue/" raw = true := by
    simp [IsKey, hasName_iff]
  rw [hkey]
  constructor
  · intro h
    unfold parse
    split
    · exact .inl rfl
    rename_i htopic
    split
    · exact .inr (.inl rfl)
    rename_i hqueue
    rw [if_pos ((h.resolve_left htopic).resolve_left hqueue)]
    exact .inr (.inr rfl)
  · rintro (hparse | hparse | hparse)
    · exact .inl (fits_of_parse_eq hparse).2
    · exact .inr (.inl (fits_of_parse_eq hparse).2)
    · exact .inr (.inr (fits_of_parse_eq hparse).2)

theorem isKey_userQueue {queue : String} (h : hasName "/queue/" queue = true) :
    IsKey (StompBroker.userQueue queue) := by
  obtain ⟨name, hname, rfl⟩ := hasName_iff.mp h
  refine ⟨"/user/queue/", by simp, name, hname, ?_⟩
  have hstart : "/user/queue/" = "/user" ++ "/queue/" := rfl
  rw [StompBroker.userQueue, hstart, String.append_assoc]

/-! ### Topics and queues -/

/-- A destination begins as topics or queues do; it may lack the name. -/
def IsShared (destination : String) : Prop :=
  ∃ start ∈ ["/topic/", "/queue/"], ∃ name, destination = start ++ name

theorem not_isKey_of_isShared_nil {start : String} (hstart : start ∈ ["/topic/", "/queue/"]) :
    ¬IsKey start := by
  rintro ⟨other, hother, hnamed⟩
  rw [← hasName_iff] at hnamed
  revert other start
  decide

/-- Without a name a topic or a queue is nothing that sessions subscribe to. -/
theorem parse_of_isShared (h : IsShared raw) :
    parse raw = topic raw ∨ parse raw = queue raw ∨ parse raw = other raw ∧ ¬IsKey raw := by
  obtain ⟨start, hstart, name, rfl⟩ := h
  by_cases hname : name = ""
  · subst hname
    rw [String.append_empty]
    refine .inr (.inr ⟨?_, not_isKey_of_isShared_nil hstart⟩)
    revert start
    decide
  · have hnamed : hasName start (start ++ name) = true := hasName_iff.mpr ⟨name, hname, rfl⟩
    by_cases htopic : hasName "/topic/" (start ++ name) = true
    · exact .inl (by rw [parse, if_pos htopic])
    · have hqueue : hasName "/queue/" (start ++ name) = true := by
        simp only [List.mem_cons, List.not_mem_nil, or_false] at hstart
        rcases hstart with rfl | rfl
        · exact absurd hnamed htopic
        · exact hnamed
      exact .inr (.inl (by rw [parse, if_neg htopic, if_pos hqueue]))

/-! ### Users that destinations name -/

/-- The shared form of a private queue. -/
def IsPrivate (key : String) : Prop :=
  ∃ name, key = "/user/queue/" ++ name

/-- The endpoint that greets a user. -/
def greetingEndpoint (username : String) : String := "/app/sendToUser/" ++ username

/-- A destination names the user whose private queue it is, or whom its endpoint greets. -/
def Names (destination username : String) : Prop :=
  (∃ canonical, parse destination = userScoped username canonical) ∨
    destination = greetingEndpoint username

theorem hasName_append_eq_false {start other : String} (name : String)
    (h : ∀ chars, start.toList.isPrefixOf? (other.toList ++ chars) = none) :
    hasName start (other ++ name) = false := by
  have hrest : Text.stripStart? start (other ++ name) = none := by
    rw [Text.stripStart?, String.toList_append, h, Option.map_none]
  rw [hasName, hrest]

theorem parse_app {name : String} (hname : name ≠ "") :
    parse ("/app/" ++ name) = app ("/app/" ++ name) := by
  have htopic : hasName "/topic/" ("/app/" ++ name) = false :=
    hasName_append_eq_false name fun _ ↦ rfl
  have hqueue : hasName "/queue/" ("/app/" ++ name) = false :=
    hasName_append_eq_false name fun _ ↦ rfl
  have hprivate : hasName "/user/queue/" ("/app/" ++ name) = false :=
    hasName_append_eq_false name fun _ ↦ rfl
  have happ : hasName "/app/" ("/app/" ++ name) = true := hasName_iff.mpr ⟨name, hname, rfl⟩
  rw [parse, htopic, hqueue, hprivate, happ]
  rfl

theorem parse_greetingEndpoint (username : String) :
    parse (greetingEndpoint username) = app (greetingEndpoint username) := by
  have hparts : greetingEndpoint username = "/app/" ++ ("sendToUser/" ++ username) := by
    have hstart : "/app/sendToUser/" = "/app/" ++ "sendToUser/" := rfl
    exact (congrArg (· ++ username) hstart).trans String.append_assoc
  have hname : "sendToUser/" ++ username ≠ "" := by
    intro hempty
    have hchars := congrArg String.toList hempty
    rw [String.toList_append] at hchars
    cases hchars
  rw [hparts]
  exact parse_app hname

theorem Names.unique {destination username other : String} (h : Names destination username)
    (hother : Names destination other) : other = username := by
  rcases h with ⟨canonical, hparse⟩ | rfl
  · rcases hother with ⟨canonicalOther, hparseOther⟩ | rfl
    · rw [hparse] at hparseOther
      exact (userScoped.inj hparseOther).1.symm
    · rw [parse_greetingEndpoint] at hparse
      cases hparse
  · rcases hother with ⟨canonical, hparse⟩ | hendpoint
    · rw [parse_greetingEndpoint] at hparse
      cases hparse
    · exact (String.append_right_inj _).mp hendpoint.symm

/-- What is published to a topic or a queue does not go to a private queue. -/
theorem not_isPrivate_of_parse {key : String} (h : parse raw = topic key ∨ parse raw = queue key) :
    ¬IsPrivate key := by
  rintro ⟨name, hkey⟩
  have hstart : hasName "/topic/" key = true ∨ hasName "/queue/" key = true := by
    rcases h with hparse | hparse
    · have hfits := fits_of_parse_eq hparse
      exact .inl (hfits.1 ▸ hfits.2)
    · have hfits := fits_of_parse_eq hparse
      exact .inr (hfits.1 ▸ hfits.2)
  have htopic : hasName "/topic/" ("/user/queue/" ++ name) = false :=
    hasName_append_eq_false name fun _ ↦ rfl
  have hqueue : hasName "/queue/" ("/user/queue/" ++ name) = false :=
    hasName_append_eq_false name fun _ ↦ rfl
  rw [hkey, htopic, hqueue] at hstart
  rcases hstart with hstart | hstart <;> cases hstart

/-! ### The form that names the user -/

/-- The private queues of all users and those of a user called queue have the same start. -/
theorem hasName_userDestination_iff {queue : String} (hslash : '/' ∉ username.toList)
    (hqueue : hasName "/queue/" queue = true) :
    hasName "/user/queue/" (userDestination username queue) = true ↔ username = "queue" := by
  obtain ⟨name, -, rfl⟩ := hasName_iff.mp hqueue
  have hsingleton : String.singleton '/' = "/" := rfl
  have hstart : "/queue/" = "/" ++ "queue/" := rfl
  have hlong : "/user/queue/" = "/user/" ++ ("queue" ++ "/") := rfl
  have hown : userDestination username ("/queue/" ++ name) =
      "/user/" ++ (username ++ String.singleton '/' ++ ("queue/" ++ name)) := by
    rw [userDestination, hstart, hsingleton]
    simp only [String.append_assoc]
  have hshared : ∀ rest, "/user/queue/" ++ rest =
      "/user/" ++ ("queue" ++ String.singleton '/' ++ rest) := by
    intro rest
    rw [hlong, hsingleton]
    simp only [String.append_assoc]
  rw [hasName_iff]
  constructor
  · rintro ⟨rest, -, hrest⟩
    rw [hown, hshared, String.append_right_inj] at hrest
    -- Both sides cut the same text at its first slash.
    have hcut : Text.splitOnce? '/' (username ++ String.singleton '/' ++ ("queue/" ++ name)) =
        some ("queue", rest) := Text.splitOnce?_eq_some_iff.mpr ⟨by decide, hrest⟩
    rw [Text.splitOnce?_eq_some_iff.mpr ⟨hslash, rfl⟩] at hcut
    exact congrArg Prod.fst (Option.some.inj hcut)
  · rintro rfl
    refine ⟨"queue/" ++ name, ?_, hown.trans (hshared _).symm⟩
    intro hempty
    have hchars := congrArg String.toList hempty
    rw [String.toList_append] at hchars
    cases hchars

/-- A user's own form of a private queue is parsed as such, unless the user is called queue: then it
has the start of the shared keys, and is one. -/
theorem parse_userDestination {queue : String} (hne : username ≠ "")
    (hslash : '/' ∉ username.toList) (hqueue : hasName "/queue/" queue = true) :
    parse (userDestination username queue) =
      if username = "queue" then userQueue (userDestination username queue)
      else userScoped username (StompBroker.userQueue queue) := by
  have hstart : userDestination username queue = "/user/" ++ (username ++ queue) := by
    rw [userDestination, String.append_assoc]
  have hother : hasName "/topic/" (userDestination username queue) = false ∧
      hasName "/queue/" (userDestination username queue) = false ∧
        hasName "/app/" (userDestination username queue) = false := by
    rw [hstart]
    exact ⟨hasName_append_eq_false _ fun _ ↦ rfl, hasName_append_eq_false _ fun _ ↦ rfl,
      hasName_append_eq_false _ fun _ ↦ rfl⟩
  have hscoped : scoped? (userDestination username queue) =
      some (username, StompBroker.userQueue queue) :=
    scoped?_eq_some_iff.mpr ⟨hne, hslash, queue, hqueue, rfl, rfl⟩
  rw [parse, hother.1, hother.2.1, hother.2.2, hscoped]
  simp only [hasName_userDestination_iff hslash hqueue, Bool.false_eq_true, if_false]

/-- Whatever is parsed as naming a user is that user's own form of a private queue, and the user is
not called queue. -/
theorem parse_eq_userScoped_iff :
    parse raw = userScoped username canonical ↔
      (username ≠ "" ∧ '/' ∉ username.toList) ∧ username ≠ "queue" ∧ ∃ queue,
        hasName "/queue/" queue = true ∧ raw = userDestination username queue ∧
          canonical = StompBroker.userQueue queue := by
  constructor
  · intro h
    have hscoped : scoped? raw = some (username, canonical) := by
      unfold parse at h
      split at h
      · cases h
      split at h
      · cases h
      split at h
      · cases h
      split at h
      · cases h
      split at h
      · rename_i hscoped
        cases h
        exact hscoped
      · cases h
    obtain ⟨hne, hslash, queue, hqueue, rfl, rfl⟩ := scoped?_eq_some_iff.mp hscoped
    refine ⟨⟨hne, hslash⟩, ?_, queue, hqueue, rfl, rfl⟩
    intro hcalled
    rw [parse_userDestination hne hslash hqueue, if_pos hcalled] at h
    cases h
  · rintro ⟨⟨hne, hslash⟩, hcalled, queue, hqueue, rfl, rfl⟩
    rw [parse_userDestination hne hslash hqueue, if_neg hcalled]

end StompBroker.Destination
