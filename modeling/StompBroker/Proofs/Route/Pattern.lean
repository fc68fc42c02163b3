import Mathlib.Data.List.Forall2
import StompBroker.Proofs.Session.Rows
import StompBroker.Proofs.Text.Split
import StompBroker.Route.Pattern

/-!
# Patterns and the paths that they match

The parts of a pattern between its slashes stand for its segments: a name in braces for a capture,
and everything that is not in braces for itself (`Segment.SpelledBy`, `parse_eq_ok_iff`).
`RoutePattern.fill` puts one text after the other in the places of the captures.

A path matches exactly if it is such a filling with texts that are not empty and hold no slash
(`match?_eq_some_iff`), and the value of a name is the text in the last place that has this name
(`lookup_assignAll`). So parameters from which the path can be put together again are those that
the match gives (`Reproduces.gives`). Conversely, what a match gives puts the path together again as
long as no name is used twice (`Gives.reproduces`). A name with two places has only one value, and
the path may have two different texts there (`not_reproduces_repeated`).

Among the patterns that are registered, the first that matches decides about a path, and those that
come later decide only about what was left open (`routing`).
-/

set_option autoImplicit false

namespace StompBroker

/-! ### The parts of a pattern -/

/-- The name of a capture. -/
def Segment.name? : Segment → Option String
  | .literal _ => none
  | .capture name => some name

/-- The part of a pattern that stands for a segment. -/
inductive Segment.SpelledBy : Segment → String → Prop
  | capture {name : String} (hname : name ≠ "") :
    SpelledBy (.capture name) ("\x7b" ++ name ++ "\x7d")
  | literal {text : String} (hplain : ∀ inner, text ≠ "\x7b" ++ inner ++ "\x7d") :
    SpelledBy (.literal text) text

namespace RoutePattern

/-- The path with these parts. -/
def joined (parts : List String) : String := "/" ++ "/".intercalate parts

/-- There is a part, and no part holds a slash. -/
structure Parts (parts : List String) : Prop where
  nonempty : parts ≠ []
  separate : ∀ part ∈ parts, '/' ∉ part.toList

theorem split_stripStart?_eq_some_iff {path : String} {parts : List String} :
    (Text.stripStart? "/" path).map (Text.split '/') = some parts ↔
      Parts parts ∧ path = joined parts := by
  have hslash : String.singleton '/' = "/" := rfl
  rw [Option.map_eq_some_iff]
  constructor
  · rintro ⟨rest, hrest, hparts⟩
    obtain ⟨hne, hseparate, rfl⟩ := Text.split_eq_iff.mp hparts
    exact ⟨⟨hne, hseparate⟩, Text.stripStart?_eq_some_iff.mp hrest⟩
  · rintro ⟨⟨hne, hseparate⟩, rfl⟩
    exact ⟨_, Text.stripStart?_eq_some_iff.mpr rfl, Text.split_eq_iff.mpr ⟨hne, hseparate, rfl⟩⟩

theorem braced?_eq_some_iff {part name : String} :
    braced? part = some name ↔ part = "\x7b" ++ name ++ "\x7d" := by
  simp only [braced?, Option.bind_eq_some_iff, Text.stripStart?_eq_some_iff,
    Text.stripEnd?_eq_some_iff]
  constructor
  · rintro ⟨rest, rfl, rfl⟩
    exact (String.append_assoc).symm
  · rintro rfl
    exact ⟨name ++ "\x7d", String.append_assoc, rfl⟩

theorem readSegment_eq_ok_iff {pattern part : String} {segment : Segment} :
    readSegment pattern part = .ok segment ↔ segment.SpelledBy part := by
  unfold readSegment
  constructor
  · intro h
    split at h
    · rename_i name hbraced
      split at h
      · cases h
      · rename_i hempty
        cases h
        rw [braced?_eq_some_iff.mp hbraced]
        exact .capture fun hname ↦ hempty (String.isEmpty_iff.mpr hname)
    · rename_i hbraced
      cases h
      refine .literal fun inner hinner ↦ ?_
      rw [braced?_eq_some_iff.mpr hinner] at hbraced
      cases hbraced
  · intro h
    cases h with
    | @capture name hname =>
      rw [braced?_eq_some_iff.mpr rfl]
      exact if_neg fun hempty ↦ hname (String.isEmpty_iff.mp hempty)
    | literal hplain =>
      have hbraced : braced? part = none :=
        Option.eq_none_iff_forall_ne_some.mpr fun inner hinner ↦
          hplain inner (braced?_eq_some_iff.mp hinner)
      rw [hbraced]

theorem mapM_readSegment_eq_ok_iff {pattern : String} {parts : List String}
    {segments : List Segment} :
    parts.mapM (readSegment pattern) = .ok segments ↔
      List.Forall₂ Segment.SpelledBy segments parts := by
  induction parts generalizing segments with
  | nil =>
    rw [List.mapM_nil, List.forall₂_nil_right_iff]
    exact ⟨fun h ↦ (Except.ok.inj h).symm, fun h ↦ h ▸ rfl⟩
  | cons part parts ih =>
    rw [List.mapM_cons, List.forall₂_cons_right_iff]
    constructor
    · intro h
      cases hsegment : readSegment pattern part with
      | error failure =>
        rw [hsegment] at h
        cases h
      | ok segment =>
        cases hrest : parts.mapM (readSegment pattern) with
        | error failure =>
          rw [hsegment, hrest] at h
          cases h
        | ok rest =>
          rw [hsegment, hrest] at h
          cases h
          exact ⟨segment, rest, readSegment_eq_ok_iff.mp hsegment, ih.mp hrest, rfl⟩
    · rintro ⟨segment, rest, hsegment, hrest, rfl⟩
      rw [readSegment_eq_ok_iff.mpr hsegment, ih.mpr hrest]
      rfl

/-- A pattern is accepted exactly if its parts stand for segments. -/
theorem parse_eq_ok_iff {text : String} {pattern : RoutePattern} :
    parse text = .ok pattern ↔
      pattern.text = text ∧ ∃ parts, Parts parts ∧ text = joined parts ∧
        List.Forall₂ Segment.SpelledBy pattern.segments parts := by
  unfold parse
  constructor
  · intro h
    split at h
    · cases h
    · rename_i path hpath
      cases hsegments : (Text.split '/' path).mapM (readSegment text) with
      | error failure =>
        rw [hsegments] at h
        cases h
      | ok segments =>
        rw [hsegments] at h
        cases h
        have hparts : (Text.stripStart? "/" text).map (Text.split '/') =
            some (Text.split '/' path) := by
          rw [hpath, Option.map_some]
        obtain ⟨hparts, htext⟩ := split_stripStart?_eq_some_iff.mp hparts
        exact ⟨rfl, _, hparts, htext, mapM_readSegment_eq_ok_iff.mp hsegments⟩
  · rintro ⟨rfl, parts, hparts, htext, hsegments⟩
    obtain ⟨path, hpath, rfl⟩ := Option.map_eq_some_iff.mp
      (split_stripStart?_eq_some_iff.mpr ⟨hparts, htext⟩)
    rw [hpath]
    simp only [mapM_readSegment_eq_ok_iff.mpr hsegments]
    rfl

/-! ### Filling the captures -/

/-- The names of the captures, from the left to the right. -/
def names (pattern : RoutePattern) : List String := pattern.segments.filterMap Segment.name?

/-- The parts of a path, with one value after the other in the places of the captures. -/
def fillSegments : List Segment → List String → List String
  | .literal text :: segments, values => text :: fillSegments segments values
  | .capture _ :: segments, value :: values => value :: fillSegments segments values
  | _, _ => []

/-- The path with one value after the other in the places of the captures. -/
def fill (pattern : RoutePattern) (values : List String) : String :=
  joined (fillSegments pattern.segments values)

/-- There is one value for each capture, and each can be a part of a path that is not empty. -/
structure Takes (pattern : RoutePattern) (values : List String) : Prop where
  length : values.length = pattern.names.length
  usable : ∀ value ∈ values, value ≠ "" ∧ '/' ∉ value.toList

/-- Gives names values, one after the other. -/
def assignAll (captured pairs : List (String × String)) : List (String × String) :=
  pairs.foldl (fun captured pair ↦ assign pair.1 pair.2 captured) captured

theorem lookup_assign (name value other : String) (captured : List (String × String)) :
    (assign name value captured).lookup other =
      if name = other then some value else captured.lookup other := by
  induction captured with
  | nil => exact Rows.lookup_cons []
  | cons entry captured ih =>
    obtain ⟨key, kept⟩ := entry
    unfold assign
    split
    · rename_i hkey
      rw [Rows.lookup_cons, Rows.lookup_cons, hkey]
      split <;> rfl
    · rename_i hkey
      rw [Rows.lookup_cons, Rows.lookup_cons, ih]
      by_cases hother : key = other
      · rw [if_pos hother, if_neg fun hname ↦ hkey (hother.trans hname.symm), if_pos hother]
      · rw [if_neg hother, if_neg hother]

/-- The last value of a name counts. -/
theorem lookup_assignAll (captured pairs : List (String × String)) (name : String) :
    (assignAll captured pairs).lookup name =
      (pairs.reverse.lookup name).or (captured.lookup name) := by
  induction pairs generalizing captured with
  | nil => rfl
  | cons pair pairs ih =>
    obtain ⟨key, value⟩ := pair
    have hstep : assignAll captured ((key, value) :: pairs) =
        assignAll (assign key value captured) pairs := rfl
    rw [hstep, ih, lookup_assign, List.reverse_cons, List.lookup_append, Rows.lookup_cons,
      List.lookup_nil, Option.or_assoc]
    split <;> rfl

/-- Parts that fit the segments are a filling of them. -/
theorem exists_fillSegments_of_matchSegments {segments : List Segment} {parts : List String}
    {captured result : List (String × String)}
    (h : matchSegments captured segments parts = some result) :
    ∃ values, values.length = (segments.filterMap Segment.name?).length ∧
      (∀ value ∈ values, value ≠ "") ∧ parts = fillSegments segments values ∧
      result = assignAll captured ((segments.filterMap Segment.name?).zip values) := by
  fun_induction matchSegments captured segments parts with
  | case1 captured =>
    cases h
    exact ⟨[], rfl, fun _ hmem ↦ absurd hmem List.not_mem_nil, rfl, rfl⟩
  | case2 captured segments text parts ih =>
    obtain ⟨values, hlength, hvalues, rfl, rfl⟩ := ih h
    exact ⟨values, hlength, hvalues, rfl, rfl⟩
  | case3 => cases h
  | case4 => cases h
  | case5 captured name segments part parts hpart ih =>
    obtain ⟨values, hlength, hvalues, rfl, rfl⟩ := ih h
    rw [String.isEmpty_iff] at hpart
    exact ⟨part :: values, congrArg Nat.succ hlength,
      List.forall_mem_cons.mpr ⟨hpart, hvalues⟩, rfl, rfl⟩
  | case6 => cases h

/-- A filling fits its segments. -/
theorem matchSegments_fillSegments {segments : List Segment} {values : List String}
    (hlength : values.length = (segments.filterMap Segment.name?).length)
    (hvalues : ∀ value ∈ values, value ≠ "") (captured : List (String × String)) :
    matchSegments captured segments (fillSegments segments values) =
      some (assignAll captured ((segments.filterMap Segment.name?).zip values)) := by
  induction segments generalizing values captured with
  | nil => rfl
  | cons segment segments ih =>
    cases segment with
    | literal text =>
      rw [fillSegments, matchSegments, if_pos rfl]
      exact ih hlength hvalues captured
    | capture name =>
      cases values with
      | nil => cases hlength
      | cons value values =>
        obtain ⟨hvalue, hrest⟩ := List.forall_mem_cons.mp hvalues
        rw [fillSegments, matchSegments, if_neg (by rwa [String.isEmpty_iff])]
        exact ih (Nat.succ.inj hlength) hrest (assign name value captured)

/-- Segments fit exactly the parts that are a filling of them. -/
theorem matchSegments_eq_some_iff {segments : List Segment} {parts : List String}
    {captured result : List (String × String)} :
    matchSegments captured segments parts = some result ↔
      ∃ values, values.length = (segments.filterMap Segment.name?).length ∧
        (∀ value ∈ values, value ≠ "") ∧ parts = fillSegments segments values ∧
        result = assignAll captured ((segments.filterMap Segment.name?).zip values) := by
  constructor
  · exact exists_fillSegments_of_matchSegments
  · rintro ⟨values, hlength, hvalues, rfl, rfl⟩
    exact matchSegments_fillSegments hlength hvalues captured

/-- The segments of a pattern that was accepted: there is one, and no literal holds a slash. -/
structure Accepted (pattern : RoutePattern) : Prop where
  nonempty : pattern.segments ≠ []
  literals : ∀ text, .literal text ∈ pattern.segments → '/' ∉ text.toList

theorem fillSegments_ne_nil {segments : List Segment} {values : List String}
    (hsegments : segments ≠ [])
    (hlength : values.length = (segments.filterMap Segment.name?).length) :
    fillSegments segments values ≠ [] := by
  cases segments with
  | nil => exact absurd rfl hsegments
  | cons segment segments =>
    cases segment with
    | literal text => exact List.cons_ne_nil _ _
    | capture name =>
      cases values with
      | nil => cases hlength
      | cons value values => exact List.cons_ne_nil _ _

/-- The parts of a filling are literals and values. -/
theorem mem_fillSegments {segments : List Segment} {values : List String} {part : String}
    (h : part ∈ fillSegments segments values) : .literal part ∈ segments ∨ part ∈ values := by
  fun_induction fillSegments segments values with
  | case1 text segments values ih =>
    rcases List.mem_cons.mp h with rfl | hrest
    · exact .inl List.mem_cons_self
    · exact (ih hrest).imp_left (List.mem_cons_of_mem _)
  | case2 name segments value values ih =>
    rcases List.mem_cons.mp h with rfl | hrest
    · exact .inr List.mem_cons_self
    · exact (ih hrest).imp (List.mem_cons_of_mem _) (List.mem_cons_of_mem _)
  | case3 => cases h

theorem parts_fillSegments {pattern : RoutePattern} (hpattern : pattern.Accepted)
    {values : List String} (hvalues : pattern.Takes values) :
    Parts (fillSegments pattern.segments values) where
  nonempty := fillSegments_ne_nil hpattern.nonempty hvalues.length
  separate part hmem := by
    rcases mem_fillSegments hmem with hliteral | hvalue
    · exact hpattern.literals part hliteral
    · exact (hvalues.usable part hvalue).2

/-- A value is a part of its filling. -/
theorem mem_fillSegments_of_mem {segments : List Segment} {values : List String}
    (hlength : values.length = (segments.filterMap Segment.name?).length) {value : String}
    (h : value ∈ values) : value ∈ fillSegments segments values := by
  fun_induction fillSegments segments values with
  | case1 text segments values ih => exact List.mem_cons_of_mem _ (ih hlength h)
  | case2 name segments first values ih =>
    rcases List.mem_cons.mp h with rfl | hrest
    · exact List.mem_cons_self
    · exact List.mem_cons_of_mem _ (ih (Nat.succ.inj hlength) hrest)
  | case3 segments values hliteral hcapture =>
    cases segments with
    | nil =>
      rw [List.eq_nil_of_length_eq_zero hlength] at h
      cases h
    | cons segment segments =>
      cases segment with
      | literal text => exact absurd rfl (hliteral text segments)
      | capture name =>
        cases values with
        | nil => cases h
        | cons first values => exact absurd rfl (hcapture name segments first values rfl)

/-- A path matches exactly if it is the pattern with usable values in the places of its captures. -/
theorem match?_eq_some_iff {pattern : RoutePattern} (hpattern : pattern.Accepted) {path : String}
    {captured : List (String × String)} :
    pattern.match? path = some captured ↔
      ∃ values, pattern.Takes values ∧ path = pattern.fill values ∧
        captured = assignAll [] (pattern.names.zip values) := by
  have hsplit : pattern.match? path =
      ((Text.stripStart? "/" path).map (Text.split '/')).bind (matchSegments [] pattern.segments) := by
    rw [match?, Option.bind_map]
    rfl
  rw [hsplit, Option.bind_eq_some_iff]
  simp only [split_stripStart?_eq_some_iff, matchSegments_eq_some_iff]
  constructor
  · rintro ⟨parts, ⟨hparts, rfl⟩, values, hlength, hvalues, rfl, rfl⟩
    refine ⟨values, ⟨hlength, fun value hmem ↦ ⟨hvalues value hmem, ?_⟩⟩, rfl, rfl⟩
    exact hparts.separate value (mem_fillSegments_of_mem hlength hmem)
  · rintro ⟨values, hvalues, rfl, rfl⟩
    exact ⟨_, ⟨parts_fillSegments hpattern hvalues, rfl⟩, values, hvalues.length,
      fun value hmem ↦ (hvalues.usable value hmem).1, rfl, rfl⟩

/-- A name as it is written in a pattern. -/
def braces (name : String) : String := "\x7b" ++ name ++ "\x7d"

/-- The parts of a pattern are a filling of it with its own names. -/
theorem fillSegments_braces {segments : List Segment} {parts : List String}
    (h : List.Forall₂ Segment.SpelledBy segments parts) :
    fillSegments segments ((segments.filterMap Segment.name?).map braces) = parts := by
  induction h with
  | nil => rfl
  | cons hpart _ ih =>
    cases hpart with
    | capture hname => exact congrArg _ ih
    | literal hplain => exact congrArg _ ih

/-- A literal is one of the parts that stand for the segments. -/
theorem mem_of_literal_mem {segments : List Segment} {parts : List String}
    (h : List.Forall₂ Segment.SpelledBy segments parts) {text : String}
    (hmem : .literal text ∈ segments) : text ∈ parts := by
  induction h with
  | nil => cases hmem
  | cons hpart _ ih =>
    rcases List.mem_cons.mp hmem with rfl | hrest
    · cases hpart
      exact List.mem_cons_self
    · exact List.mem_cons_of_mem _ (ih hrest)

theorem accepted_of_parse {text : String} {pattern : RoutePattern} (h : parse text = .ok pattern) :
    pattern.Accepted := by
  obtain ⟨-, parts, hparts, -, hsegments⟩ := parse_eq_ok_iff.mp h
  constructor
  · intro hnil
    rw [hnil] at hsegments
    exact hparts.nonempty (List.forall₂_nil_left_iff.mp hsegments)
  · intro literal hmem
    exact hparts.separate literal (mem_of_literal_mem hsegments hmem)

/-! ### Parameters -/

/-- A path matches, and these are the values of the names. -/
def Gives (pattern : RoutePattern) (path : String) (params : String → Option String) : Prop :=
  ∃ captured, pattern.match? path = some captured ∧ ∀ name, captured.lookup name = params name

/-- The last of the values that a name is given. -/
def lastValue (pattern : RoutePattern) (values : List String) (name : String) : Option String :=
  (pattern.names.zip values).reverse.lookup name

/-- These are values for the names of the pattern, and they put the path together again. -/
structure Reproduces (pattern : RoutePattern) (path : String) (params : String → Option String) :
    Prop where
  named : ∀ name, params name ≠ none ↔ name ∈ pattern.names
  usable : ∀ name value, params name = some value → value ≠ "" ∧ '/' ∉ value.toList
  filled : path = pattern.fill (pattern.names.map fun name ↦ (params name).getD "")

section Accepted

variable {pattern : RoutePattern} {path : String} {params : String → Option String}

theorem gives_iff (hpattern : pattern.Accepted) :
    pattern.Gives path params ↔
      ∃ values, pattern.Takes values ∧ path = pattern.fill values ∧
        ∀ name, params name = pattern.lastValue values name := by
  unfold Gives
  simp only [match?_eq_some_iff hpattern]
  have hlookup (values : List String) (name : String) :
      (assignAll [] (pattern.names.zip values)).lookup name = pattern.lastValue values name := by
    rw [lookup_assignAll, List.lookup_nil, Option.or_none, lastValue]
  constructor
  · rintro ⟨captured, ⟨values, hvalues, hpath, rfl⟩, hparams⟩
    exact ⟨values, hvalues, hpath, fun name ↦ by rw [← hparams, hlookup]⟩
  · rintro ⟨values, hvalues, hpath, hparams⟩
    exact ⟨_, ⟨values, hvalues, hpath, rfl⟩, fun name ↦ by rw [hparams, hlookup]⟩

/-- Where every place of a name has the same value, that is its last value. -/
theorem lastValue_map (value : String → String) (name : String) :
    pattern.lastValue (pattern.names.map value) name =
      if name ∈ pattern.names then some (value name) else none := by
  rw [lastValue, ← List.map_prod_left_eq_zip, ← List.map_reverse]
  split
  · rename_i hmem
    exact List.lookup_graph value (List.mem_reverse.mpr hmem)
  · rename_i hmem
    refine List.lookup_eq_none_iff.mpr fun entry hentry ↦ ?_
    obtain ⟨other, hother, rfl⟩ := List.mem_map.mp hentry
    refine bne_iff_ne.mpr ?_
    rintro rfl
    exact hmem (List.mem_reverse.mp hother)

/-- Parameters from which the path can be put together again are those that the match gives. -/
theorem Reproduces.gives (hpattern : pattern.Accepted) (h : pattern.Reproduces path params) :
    pattern.Gives path params := by
  refine (gives_iff hpattern).mpr ⟨_, ⟨List.length_map _, ?_⟩, h.filled, fun name ↦ ?_⟩
  · intro value hvalue
    obtain ⟨name, hname, rfl⟩ := List.mem_map.mp hvalue
    obtain ⟨value, hvalue⟩ := Option.ne_none_iff_exists'.mp ((h.named name).mpr hname)
    rw [hvalue]
    exact h.usable name value hvalue
  · rw [lastValue_map]
    split
    · rename_i hname
      obtain ⟨value, hvalue⟩ := Option.ne_none_iff_exists'.mp ((h.named name).mpr hname)
      rw [hvalue, Option.getD_some]
    · rename_i hname
      exact not_not.mp fun hne ↦ hname ((h.named name).mp hne)

/-- Without a repeated name, the last value of a name is its only one. -/
theorem lastValue_eq_some_iff (hnames : pattern.names.Nodup) {values : List String}
    (hvalues : pattern.Takes values) {name value : String} :
    pattern.lastValue values name = some value ↔ (name, value) ∈ pattern.names.zip values := by
  have hkeys : ((pattern.names.zip values).reverse.map Prod.fst).Nodup := by
    rw [List.map_reverse, List.nodup_reverse, List.map_fst_zip (Nat.le_of_eq hvalues.length.symm)]
    exact hnames
  rw [lastValue, Rows.lookup_eq_some_iff_mem hkeys, List.mem_reverse]

/-- What a match gives puts the path together again, as long as no name is used twice. -/
theorem Gives.reproduces (hpattern : pattern.Accepted) (hnames : pattern.names.Nodup)
    (h : pattern.Gives path params) : pattern.Reproduces path params := by
  obtain ⟨values, hvalues, hpath, hparams⟩ := (gives_iff hpattern).mp h
  have hsome (name value : String) :
      params name = some value ↔ (name, value) ∈ pattern.names.zip values := by
    rw [hparams, lastValue_eq_some_iff hnames hvalues]
  have hnamed : (pattern.names.zip values).map Prod.fst = pattern.names :=
    List.map_fst_zip (Nat.le_of_eq hvalues.length.symm)
  have hread : pattern.names.map (fun name ↦ (params name).getD "") = values := by
    have hvalued : (pattern.names.zip values).map Prod.snd = values :=
      List.map_snd_zip (Nat.le_of_eq hvalues.length)
    rw [← hvalued]
    conv_lhs => rw [← hnamed]
    rw [List.map_map]
    refine List.map_congr_left fun pair hpair ↦ ?_
    rw [Function.comp_apply, (hsome pair.1 pair.2).mpr hpair, Option.getD_some]
  constructor
  · intro name
    rw [Option.ne_none_iff_exists']
    simp only [hsome]
    constructor
    · rintro ⟨value, hmem⟩
      exact (List.of_mem_zip hmem).1
    · intro hmem
      rw [← hnamed] at hmem
      obtain ⟨⟨_, value⟩, hpair, rfl⟩ := List.mem_map.mp hmem
      exact ⟨value, hpair⟩
  · intro name value hvalue
    exact hvalues.usable value (List.of_mem_zip ((hsome name value).mp hvalue)).2
  · rw [hread, hpath]

end Accepted

/-- What a pattern takes out of the paths that match it. -/
structure Captures (pattern : RoutePattern) : Prop where
  /-- The captures are the parts in braces. -/
  spelled : pattern.text = pattern.fill (pattern.names.map braces)
  /-- A path matches if it is the pattern with usable values in the places of its captures, and
  then each name has the last of its values. -/
  gives_iff : ∀ path params, pattern.Gives path params ↔
    ∃ values, pattern.Takes values ∧ path = pattern.fill values ∧
      ∀ name, params name = pattern.lastValue values name
  /-- Parameters from which the path can be put together again are those that the match gives. -/
  of_reproduces : ∀ path params, pattern.Reproduces path params → pattern.Gives path params
  /-- Without a repeated name there are no others. -/
  reproduces_iff : pattern.names.Nodup →
    ∀ path params, pattern.Gives path params ↔ pattern.Reproduces path params

theorem captures_of_parse {text : String} {pattern : RoutePattern} (h : parse text = .ok pattern) :
    pattern.Captures := by
  have hpattern := accepted_of_parse h
  obtain ⟨rfl, parts, -, htext, hsegments⟩ := parse_eq_ok_iff.mp h
  constructor
  · rw [fill, names, fillSegments_braces hsegments, htext]
  · exact fun path params ↦ RoutePattern.gives_iff hpattern
  · exact fun path params hreproduces ↦ hreproduces.gives hpattern
  · exact fun hnames path params ↦
      ⟨Gives.reproduces hpattern hnames, Reproduces.gives hpattern⟩

/-- Two places of one name, and a path with different texts in them. -/
theorem not_reproduces_repeated :
    ∃ pattern params, parse "/a/\x7bx\x7d/\x7bx\x7d" = .ok pattern ∧
      pattern.Gives "/a/1/2" params ∧ ¬pattern.Reproduces "/a/1/2" params := by
  refine ⟨⟨"/a/\x7bx\x7d/\x7bx\x7d", [.literal "a", .capture "x", .capture "x"]⟩,
    fun name ↦ [("x", "2")].lookup name, by decide, ⟨[("x", "2")], by decide, fun name ↦ rfl⟩, ?_⟩
  intro h
  have hfilled := h.filled
  revert hfilled
  decide

end RoutePattern

/-! ### Patterns in the order of their registration -/

namespace Routes

variable {α : Type}

/-- What a call that registers a pattern answers to a path, if the pattern is accepted. -/
def answer? (path : String) (call : String × α) : Option (α × List (String × String)) :=
  match RoutePattern.parse call.1 with
  | .ok pattern => (pattern.match? path).map fun captured ↦ (call.2, captured)
  | .error _ => none

/-- The routes after patterns were registered one after the other. -/
def after (routes : Routes α) (calls : List (String × α)) : Routes α :=
  (routes.registerAll calls).2

/-- The routes after one pattern was registered, or refused. -/
def offered (routes : Routes α) (call : String × α) : Routes α :=
  match routes.register call.1 call.2 with
  | .ok extended => extended
  | .error _ => routes

theorem after_cons (routes : Routes α) (call : String × α) (calls : List (String × α)) :
    routes.after (call :: calls) = (routes.offered call).after calls := by
  obtain ⟨text, handler⟩ := call
  rw [after, registerAll, offered]
  cases routes.register text handler <;> rfl

/-- A call decides only about the paths that were left open. -/
theorem resolve?_offered (routes : Routes α) (call : String × α) (path : String) :
    (routes.offered call).resolve? path = (routes.resolve? path).or (answer? path call) := by
  unfold offered register answer?
  cases RoutePattern.parse call.1 with
  | error failure => exact (Option.or_none).symm
  | ok pattern =>
    simp only [Except.map, resolve?, List.findSome?_append, List.findSome?_cons,
      List.findSome?_nil]
    cases pattern.match? path <;> rfl

/-- The routes that were there come first, then the calls in their order. -/
theorem resolve?_after (routes : Routes α) (calls : List (String × α)) (path : String) :
    (routes.after calls).resolve? path =
      (routes.resolve? path).or (calls.findSome? (answer? path)) := by
  induction calls generalizing routes with
  | nil => exact (Option.or_none).symm
  | cons call calls ih =>
    rw [after_cons, ih, resolve?_offered, Option.or_assoc, List.findSome?_cons]
    congr 1
    cases answer? path call <;> rfl

theorem answer?_eq_some_iff {path : String} {call : String × α} {handler : α}
    {captured : List (String × String)} :
    answer? path call = some (handler, captured) ↔
      call.2 = handler ∧ ∃ pattern, RoutePattern.parse call.1 = .ok pattern ∧
        pattern.match? path = some captured := by
  unfold answer?
  cases RoutePattern.parse call.1 with
  | error failure => simp
  | ok pattern => simp [and_comm]

theorem answer?_eq_none_iff {path : String} {call : String × α} :
    answer? path call = none ↔
      ∀ pattern, RoutePattern.parse call.1 = .ok pattern → pattern.match? path = none := by
  unfold answer?
  cases RoutePattern.parse call.1 with
  | error failure => simp
  | ok pattern => simp

/-- How paths are resolved after patterns were registered. -/
structure Routing (routes : Routes α) (calls : List (String × α)) : Prop where
  /-- What an accepted pattern takes out of a path. -/
  captures : ∀ text pattern, RoutePattern.parse text = .ok pattern → pattern.Captures
  /-- A path that was left open goes to the first call whose pattern is accepted and matches, with
  the values that this pattern captures. -/
  first : ∀ path handler captured, routes.resolve? path = none →
    ((routes.after calls).resolve? path = some (handler, captured) ↔
      ∃ front text back pattern, calls = front ++ (text, handler) :: back ∧
        RoutePattern.parse text = .ok pattern ∧ pattern.match? path = some captured ∧
        ∀ call ∈ front, ∀ earlier, RoutePattern.parse call.1 = .ok earlier →
          earlier.match? path = none)
  /-- A path that was resolved goes where it went. -/
  kept : ∀ path result, routes.resolve? path = some result →
    (routes.after calls).resolve? path = some result

/-- Whatever is registered, the first pattern that matches decides, and its captures put the path
together again unless a name is repeated. -/
theorem routing (routes : Routes α) (calls : List (String × α)) : Routing routes calls where
  captures text pattern := RoutePattern.captures_of_parse
  first path handler captured hopen := by
    rw [resolve?_after, hopen, Option.none_or, List.findSome?_eq_some_iff]
    simp only [answer?_eq_none_iff]
    constructor
    · rintro ⟨front, ⟨text, other⟩, back, hcalls, hanswer, hfront⟩
      obtain ⟨rfl, pattern, hpattern, hmatch⟩ := answer?_eq_some_iff.mp hanswer
      exact ⟨front, text, back, pattern, hcalls, hpattern, hmatch, hfront⟩
    · rintro ⟨front, text, back, pattern, hcalls, hpattern, hmatch, hfront⟩
      exact ⟨front, (text, handler), back, hcalls,
        answer?_eq_some_iff.mpr ⟨rfl, pattern, hpattern, hmatch⟩, hfront⟩
  kept path result hresolved := by rw [resolve?_after, hresolved, Option.some_or]

end Routes

end StompBroker
