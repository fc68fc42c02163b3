import StompBroker.Http.RequestLog
import StompBroker.Proofs.Text.Split
import StompBroker.Proofs.Text.Utf8

/-!
# What the log of requests keeps to itself

A `Json.Path` leads from a document to one of its parts, and it is `Open` as long as no member on it
sounds secret. `redact` keeps a document as far as open paths lead (`at?_redact_of_open`); what is
stored under the first secret name on a path becomes one fixed text, and nothing can be found behind
that (`at?_redact_of_secret`).

So the redacted forms of two documents agree exactly if the documents are `Alike`, that is, if they
differ only in what is stored under secret names (`redact_eq_iff`). The events about two requests
with alike bodies are then the same, the mark of a cut included (`indistinct_of_alike`).
-/

set_option autoImplicit false

namespace StompBroker

/-! ### Paths -/

namespace Json

/-- A step from a document to one of its parts. -/
inductive Step where
  | element (index : Nat)
  | member (name : String)

/-- Steps from a document to a part at any depth. -/
abbrev Path := List Step

/-- The part that a step leads to. -/
def part? (document : Json) : Step → Option Json
  | .element index => document.array?.bind fun elements ↦ elements[index]?
  | .member name => document.member? name

/-- The part that a path leads to. -/
def at? (document : Json) (path : Path) : Option Json := path.foldlM part? document

/-- A document without the parts that it holds: a scalar, so many elements, or these names. -/
inductive Outline where
  | scalar (document : Json)
  | elements (count : Nat)
  | members (names : List String)

def outline : Json → Outline
  | .array elements => .elements elements.length
  | .object members => .members (members.map (·.1))
  | scalar => .scalar scalar

theorem at?_cons (document : Json) (step : Step) (path : Path) :
    document.at? (step :: path) = (document.part? step).bind (·.at? path) := rfl

theorem at?_singleton (document : Json) (step : Step) :
    document.at? [step] = document.part? step := by
  rw [at?_cons]
  exact Option.bind_fun_some (document.part? step)

theorem at?_append (document : Json) (path rest : Path) :
    document.at? (path ++ rest) = (document.at? path).bind (·.at? rest) :=
  List.foldlM_append

end Json

namespace RequestLog

open Json (Step)

/-! ### Names that sound secret -/

/-- The name in lower case holds one of the words. -/
def SoundsSecret (name : String) : Prop :=
  ∃ word ∈ secretWords, word.toList <:+: name.toList.flatMap lowerChar

theorem isSecret_iff {name : String} : isSecret name = true ↔ SoundsSecret name := by
  simp only [isSecret, List.any_eq_true, Text.occurs_iff, SoundsSecret]

/-- No member on the path sounds secret. -/
def Open (path : Json.Path) : Prop := ∀ name, Step.member name ∈ path → ¬SoundsSecret name

theorem Open.tail {step : Step} {path : Json.Path} (h : Open (step :: path)) : Open path :=
  fun name hmem ↦ h name (List.mem_cons_of_mem step hmem)

/-! ### Parts of a redacted document -/

theorem redactElements_eq_map (elements : List Json) :
    redactElements elements = elements.map redact := by
  induction elements with
  | nil => rfl
  | cons element rest ih => rw [redactElements, List.map_cons, ih]

/-- A value without its secrets, where it is stored under a name. -/
def redactUnder (name : String) (value : Json) : Json :=
  if isSecret name then concealed else redact value

theorem redactMembers_eq_map (members : List (String × Json)) :
    redactMembers members = members.map fun member ↦ (member.1, redactUnder member.1 member.2) := by
  induction members with
  | nil => rfl
  | cons member rest ih => rw [redactMembers, List.map_cons, ih, redactUnder]

theorem redactUnder_of_secret {name : String} (h : SoundsSecret name) (value : Json) :
    redactUnder name value = concealed :=
  if_pos (isSecret_iff.mpr h)

theorem redactUnder_of_not_secret {name : String} (h : ¬SoundsSecret name) (value : Json) :
    redactUnder name value = redact value :=
  if_neg (mt isSecret_iff.mp h)

theorem outline_redact (document : Json) : (redact document).outline = document.outline := by
  cases document with
  | array elements =>
    rw [redact, redactElements_eq_map, Json.outline, Json.outline, List.length_map]
  | object members =>
    rw [redact, redactMembers_eq_map, Json.outline, Json.outline, List.map_map]
    rfl
  | null | bool value | number value | string value => rfl

theorem part?_redact_element (document : Json) (index : Nat) :
    (redact document).part? (.element index) = (document.part? (.element index)).map redact := by
  cases document with
  | array elements =>
    rw [redact, redactElements_eq_map]
    exact List.getElem?_map
  | null | bool value | number value | string value | object members => rfl

theorem part?_redact_member (document : Json) (name : String) :
    (redact document).part? (.member name) =
      (document.part? (.member name)).map (redactUnder name) := by
  cases document with
  | object members =>
    have hfind : (redactMembers members).find? (fun entry ↦ entry.1 == name) =
        (members.find? fun entry ↦ entry.1 == name).map
          fun member ↦ (member.1, redactUnder member.1 member.2) := by
      rw [redactMembers_eq_map, List.find?_map]
      rfl
    simp only [redact, Json.part?, Json.member?, hfind]
    cases hfound : members.find? fun entry ↦ entry.1 == name with
    | none => rfl
    | some entry =>
      have hname := List.find?_some hfound
      simp only [Option.map_some, beq_iff_eq.mp hname]
  | null | bool value | number value | string value | array elements => rfl

theorem part?_redact_of_open {step : Step} (h : Open [step]) (document : Json) :
    (redact document).part? step = (document.part? step).map redact := by
  cases step with
  | element index => exact part?_redact_element document index
  | member name =>
    have hsame : redactUnder name = redact :=
      funext (redactUnder_of_not_secret (h name List.mem_cons_self))
    rw [part?_redact_member, hsame]

/-- Open paths lead to the same parts as before, without their secrets. -/
theorem at?_redact_of_open {path : Json.Path} (h : Open path) (document : Json) :
    (redact document).at? path = (document.at? path).map redact := by
  induction path generalizing document with
  | nil => rfl
  | cons step path ih =>
    have hstep : Open [step] := fun name hmem ↦
      h name (List.mem_cons.mpr (.inl (List.mem_singleton.mp hmem)))
    rw [Json.at?_cons, Json.at?_cons, part?_redact_of_open hstep]
    cases document.part? step with
    | none => rfl
    | some part => exact ih h.tail part

/-- Under the first secret name on a path stands the fixed text, if anything stood there. -/
theorem at?_redact_of_secret {path : Json.Path} (h : Open path) {name : String}
    (hname : SoundsSecret name) (document : Json) :
    (redact document).at? (path ++ [.member name]) =
      (document.at? (path ++ [.member name])).map fun _ ↦ concealed := by
  have hsame : redactUnder name = fun _ ↦ concealed := funext (redactUnder_of_secret hname)
  rw [Json.at?_append, Json.at?_append, at?_redact_of_open h]
  cases document.at? path with
  | none => rfl
  | some part =>
    simp only [Option.map_some, Option.bind_some, Json.at?_singleton, part?_redact_member, hsame]

/-- Behind a secret name there is nothing. -/
theorem at?_redact_behind_secret {path : Json.Path} (h : Open path) {name : String}
    (hname : SoundsSecret name) (document : Json) (step : Step) (rest : Json.Path) :
    (redact document).at? (path ++ .member name :: step :: rest) = none := by
  have hsplit : path ++ .member name :: step :: rest =
      (path ++ [.member name]) ++ step :: rest := by
    rw [List.append_assoc]
    rfl
  rw [hsplit, Json.at?_append, at?_redact_of_secret h hname]
  cases document.at? (path ++ [.member name]) with
  | none => rfl
  | some part => cases step <;> rfl

/-! ### Documents that differ in their secrets -/

mutual

/-- The documents differ only in what is stored under secret names. -/
inductive Alike : Json → Json → Prop
  | same (document : Json) : Alike document document
  | array {left right : List Json} : AlikeElements left right → Alike (.array left) (.array right)
  | object {left right : List (String × Json)} :
    AlikeMembers left right → Alike (.object left) (.object right)

inductive AlikeElements : List Json → List Json → Prop
  | nil : AlikeElements [] []
  | cons {left right : Json} {lefts rights : List Json} :
    Alike left right → AlikeElements lefts rights → AlikeElements (left :: lefts) (right :: rights)

inductive AlikeMembers : List (String × Json) → List (String × Json) → Prop
  | nil : AlikeMembers [] []
  | kept {name : String} {left right : Json} {lefts rights : List (String × Json)} :
    Alike left right → AlikeMembers lefts rights →
      AlikeMembers ((name, left) :: lefts) ((name, right) :: rights)
  | secret {name : String} (left right : Json) {lefts rights : List (String × Json)} :
    SoundsSecret name → AlikeMembers lefts rights →
      AlikeMembers ((name, left) :: lefts) ((name, right) :: rights)

end

mutual

theorem Alike.redact_eq {left right : Json} : Alike left right → redact left = redact right
  | .same _ => rfl
  | .array h => congrArg Json.array h.redact_eq
  | .object h => congrArg Json.object h.redact_eq

theorem AlikeElements.redact_eq {lefts rights : List Json} :
    AlikeElements lefts rights → redactElements lefts = redactElements rights
  | .nil => rfl
  | .cons h hrest => by rw [redactElements, redactElements, h.redact_eq, hrest.redact_eq]

theorem AlikeMembers.redact_eq {lefts rights : List (String × Json)} :
    AlikeMembers lefts rights → redactMembers lefts = redactMembers rights
  | .nil => rfl
  | .kept h hrest => by rw [redactMembers, redactMembers, h.redact_eq, hrest.redact_eq]
  | .secret _ _ h hrest => by
    rw [redactMembers, redactMembers, if_pos (isSecret_iff.mpr h), if_pos (isSecret_iff.mpr h),
      hrest.redact_eq]

end

mutual

/-- Nothing but secrets is lost. -/
theorem alike_of_redact_eq : ∀ {left right : Json}, redact left = redact right → Alike left right
  | .null, right, h | .bool _, right, h | .number _, right, h | .string _, right, h => by
    cases right <;> cases h
    exact .same _
  | .array _, right, h => by
    cases right with
    | array rights => exact .array (alikeElements_of_redact_eq (Json.array.inj h))
    | null | bool _ | number _ | string _ | object _ => cases h
  | .object _, right, h => by
    cases right with
    | object rights => exact .object (alikeMembers_of_redact_eq (Json.object.inj h))
    | null | bool _ | number _ | string _ | array _ => cases h

theorem alikeElements_of_redact_eq : ∀ {lefts rights : List Json},
    redactElements lefts = redactElements rights → AlikeElements lefts rights
  | [], [], _ => .nil
  | [], _ :: _, h | _ :: _, [], h => nomatch h
  | _ :: _, _ :: _, h =>
    have hboth := List.cons.inj h
    .cons (alike_of_redact_eq hboth.1) (alikeElements_of_redact_eq hboth.2)

theorem alikeMembers_of_redact_eq : ∀ {lefts rights : List (String × Json)},
    redactMembers lefts = redactMembers rights → AlikeMembers lefts rights
  | [], [], _ => .nil
  | [], _ :: _, h | _ :: _, [], h => nomatch h
  | (name, left) :: _, (other, right) :: _, h => by
    obtain ⟨hmember, hrest⟩ := List.cons.inj h
    obtain ⟨hname, hvalue⟩ := Prod.mk.inj hmember
    subst hname
    by_cases hsecret : SoundsSecret name
    · exact .secret left right hsecret (alikeMembers_of_redact_eq hrest)
    · have hopen : ¬isSecret name = true := mt isSecret_iff.mp hsecret
      rw [if_neg hopen, if_neg hopen] at hvalue
      exact .kept (alike_of_redact_eq hvalue) (alikeMembers_of_redact_eq hrest)

end

/-- Documents agree without their secrets exactly if they differ in nothing else. -/
theorem redact_eq_iff {left right : Json} : redact left = redact right ↔ Alike left right :=
  ⟨alike_of_redact_eq, Alike.redact_eq⟩

mutual

theorem alike_redact : ∀ document : Json, Alike (redact document) document
  | .null | .bool _ | .number _ | .string _ => .same _
  | .array elements => .array (alike_redactElements elements)
  | .object members => .object (alike_redactMembers members)

theorem alike_redactElements : ∀ elements : List Json,
    AlikeElements (redactElements elements) elements
  | [] => .nil
  | element :: rest => .cons (alike_redact element) (alike_redactElements rest)

theorem alike_redactMembers : ∀ members : List (String × Json),
    AlikeMembers (redactMembers members) members
  | [] => .nil
  | (name, value) :: rest => by
    rw [redactMembers]
    by_cases hsecret : SoundsSecret name
    · exact .secret _ value hsecret (alike_redactMembers rest)
    · rw [if_neg (mt isSecret_iff.mp hsecret)]
      exact .kept (alike_redact value) (alike_redactMembers rest)

end

/-! ### Bodies that are logged -/

/-- What becomes of a document that is redacted. -/
structure Redaction (document redacted : Json) : Prop where
  /-- Where no name on the way sounds secret, the same stands as before: the same scalar, as many
  elements, the same names in their order. -/
  kept : ∀ path, Open path →
    (redacted.at? path).map Json.outline = (document.at? path).map Json.outline
  /-- What the first secret name on a way leads to is replaced. -/
  replaced : ∀ path name, Open path → SoundsSecret name →
    redacted.at? (path ++ [.member name]) =
      (document.at? (path ++ [.member name])).map fun _ ↦ .string "***REDACTED***"
  /-- Behind it there is nothing any more. -/
  gone : ∀ path name step rest, Open path → SoundsSecret name →
    redacted.at? (path ++ .member name :: step :: rest) = none
  again : redact redacted = redacted
  /-- Only secrets are lost. -/
  recovers : ∀ other, redact other = redacted ↔ Alike other document

theorem redaction (document : Json) : Redaction document (redact document) where
  kept path hopen := by
    rw [at?_redact_of_open hopen, Option.map_map]
    exact congrFun (congrArg Option.map (funext outline_redact)) (document.at? path)
  replaced path name hopen hname := at?_redact_of_secret hopen hname document
  gone path name step rest hopen hname := at?_redact_behind_secret hopen hname document step rest
  again := (alike_redact document).redact_eq
  recovers other := redact_eq_iff

/-- The octets are a text that spells the document. -/
def Reads (body : Bytes) (document : Json) : Prop :=
  ∃ text, Utf8.decode? body = some text ∧ Json.ofText? text = some document

theorem logged_of_reads {body : Bytes} {document : Json} (h : Reads body document) :
    logged body = Text.shortened bodyLimit (redact document).text := by
  obtain ⟨text, htext, hdocument⟩ := h
  simp only [logged, htext, redactText, hdocument]

/-- The log shows of two bodies the same redacted document, cut to the same size. -/
structure Indistinct (first second : Bytes) (left right : Json) : Prop where
  shown : logged first = Text.shortened 500 (redact left).text
  same : logged second = logged first
  /-- Requests that differ in these bodies only leave the same events at every level. -/
  events : ∀ (level : Level) (request : Request) (status : Nat),
    events level { request with body := second } status =
      events level { request with body := first } status
  redaction : Redaction left (redact left) ∧ Redaction right (redact right)

/-- Nobody learns a secret from the log. -/
theorem indistinct_of_alike {first second : Bytes} {left right : Json} (hfirst : Reads first left)
    (hsecond : Reads second right) (halike : Alike left right) :
    Indistinct first second left right := by
  have hsame : logged second = logged first := by
    rw [logged_of_reads hfirst, logged_of_reads hsecond, halike.redact_eq]
  refine ⟨logged_of_reads hfirst, hsame, fun level request status ↦ ?_,
    redaction left, redaction right⟩
  have hread : readsBody level { request with body := second } =
      readsBody level { request with body := first } := rfl
  simp only [events, hread, hsame]

namespace Logins

/-- A login that brings an earlier token with it. -/
def first : String :=
  "[\x7b\"user\":\"u\",\"Password\":\"123\",\"old\":\x7b\"accessToken\":[\x7b\"a\":0\x7d]\x7d\x7d]"

/-- The same login with another password and without the token. -/
def second : String :=
  "[\x7b\"old\":\x7b\"accessToken\":null\x7d,\"Password\":true,\"user\":\"u\"\x7d]"

def document (password token : Json) : Json :=
  .array [.object [("Password", password), ("old", .object [("accessToken", token)]),
    ("user", .string "u")]]

/-- What the log says of both. -/
def shown : String :=
  "[\x7b\"Password\":\"***REDACTED***\",\"old\":\x7b\"accessToken\":\"***REDACTED***\"\x7d," ++
    "\"user\":\"u\"\x7d]"

end Logins

/-- Of two logins with different secrets the log says the same. -/
theorem indistinct_of_alike_logins :
    let left := Logins.document (.string "123") (.array [.object [("a", .ofNat 0)]])
    let right := Logins.document (.bool true) .null
    Reads (Utf8.encode Logins.first) left ∧ Reads (Utf8.encode Logins.second) right ∧
      Alike left right ∧
        Indistinct (Utf8.encode Logins.first) (Utf8.encode Logins.second) left right ∧
          logged (Utf8.encode Logins.second) = Logins.shown := by
  intro left right
  have hfirst : Reads (Utf8.encode Logins.first) left := ⟨_, Utf8.decode?_encode _, rfl⟩
  have hsecond : Reads (Utf8.encode Logins.second) right := ⟨_, Utf8.decode?_encode _, rfl⟩
  have hpassword : SoundsSecret "Password" := isSecret_iff.mp (by decide)
  have htoken : SoundsSecret "accessToken" := isSecret_iff.mp (by decide)
  have halike : Alike left right :=
    .array (.cons (.object (.secret _ _ hpassword
      (.kept (.object (.secret _ _ htoken .nil)) (.kept (.same _) .nil)))) .nil)
  have hindistinct := indistinct_of_alike hfirst hsecond halike
  have hshown : Text.shortened bodyLimit (redact left).text = Logins.shown := by
    have htext : (redact left).text = Logins.shown := by decide +kernel
    rw [htext]
    exact if_pos (by decide)
  exact ⟨hfirst, hsecond, halike, hindistinct,
    hindistinct.same.trans (hindistinct.shown.trans hshown)⟩

end RequestLog

end StompBroker
