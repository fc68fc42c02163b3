import StompBroker.Proofs.Json.Scalar

/-!
# Records that are written and read

A flat object is one whose members are scalars under names of their own. A reader of records finds
in it the members that it has fields for, in their order, and passes over the others
(`fitMembers_writeMembers`), provided that each field `Admits` its value and no required one is
missing. `Shape.read_record` says so of the whole document.
-/

set_option autoImplicit false

namespace StompBroker.Json

/-- The fields of a record. -/
abbrev Fields := List (String × Presence × Shape)

/-- A shape that takes a scalar document. -/
inductive Shape.Admits : Shape → Json → Prop
  | any (document : Json) : Admits .any document
  | anyOptional (document : Json) : Admits (.optional .any) document
  | text (value : String) : Admits .text (.string value)
  | natural {greatest : Nat} {number : Number} :
    isNatural greatest number = true → Admits (.natural greatest) (.number number)
  | integer {least greatest : Int} {number : Number} :
    isInteger least greatest number = true → Admits (.integer least greatest) (.number number)

theorem readFitting_number {fits : Number → Bool} {isPositive : Bool} {value : Nat} {rest : Bytes}
    (hfits : Fits isPositive value) (hstops : Stops rest)
    (hadmitted : fits (wholeNumber isPositive value) = true) :
    readFitting fits (writeBefore rest (.number (wholeNumber isPositive value))) =
      .ok (.number (wholeNumber isPositive value), rest) := by
  have hnumber := readNumber_toString hfits hstops
  cases isPositive with
  | true =>
    obtain ⟨digit, hdigit, octets, hoctets⟩ := exists_digitOctet value
    obtain ⟨-, -, -, hsign⟩ := digitOctet_ne hdigit
    have hwritten : writeBefore rest (.number (wholeNumber true value)) =
        digitOctet digit :: (octets ++ rest) := by
      rw [wholeNumber, if_pos rfl, writeBefore_natural, hoctets, List.cons_append]
    rw [hoctets, List.cons_append] at hnumber
    rw [hwritten, readFitting, skipSpace_cons (isSpace_digitOctet hdigit)]
    simp only [digit?_digitOctet hdigit, Option.isSome_some, or_true, if_true, if_neg hsign,
      hnumber, hadmitted]
  | false =>
    have hwritten : writeBefore rest (.number (wholeNumber false value)) =
        0x2D :: (Utf8.encode (toString value) ++ rest) := by
      rw [wholeNumber, if_neg Bool.false_ne_true, writeBefore_negative]
    rw [hwritten, readFitting, skipSpace_cons (by decide)]
    simp only [true_or, if_true, hnumber, hadmitted]

/-- No scalar starts like the word for a missing value. -/
theorem exists_cons_ne_of_scalar {document : Json} (h : Scalar document) (rest : Bytes) :
    ∃ octet octets, writeBefore rest document = octet :: octets ∧ octet ≠ 0x6E ∧
      isSpace octet = false := by
  cases h with
  | text value => exact ⟨_, _, writeBefore_string _ _, by decide, by decide⟩
  | @number isPositive value _ =>
    cases isPositive with
    | true =>
      obtain ⟨digit, hdigit, octets, hoctets⟩ := exists_digitOctet value
      refine ⟨digitOctet digit, octets ++ rest, ?_, (digitOctet_ne hdigit).1,
        isSpace_digitOctet hdigit⟩
      rw [wholeNumber, if_pos rfl, writeBefore_natural, hoctets, List.cons_append]
    | false => exact ⟨_, _, writeBefore_negative _ _, by decide, by decide⟩

/-- A scalar is read by every shape that admits it. -/
theorem readShape_scalar {shape : Shape} {document : Json} (hadmits : shape.Admits document)
    (hscalar : Scalar document) {rest : Bytes} (hstops : Stops rest) (fuel depth : Nat) :
    readShape (fuel + 2) depth shape (writeBefore rest document) = .ok (document, rest) := by
  cases hadmits with
  | any =>
    rw [readShape, readValue_scalar hscalar hstops]
    rfl
  | anyOptional =>
    obtain ⟨octet, octets, hwritten, hnull, hspace⟩ := exists_cons_ne_of_scalar hscalar rest
    have hskip : skipSpace (writeBefore rest document) = octet :: octets := by
      rw [hwritten, skipSpace_cons hspace]
    rw [readShape, hskip]
    split
    · rename_i heq
      exact absurd (List.cons.inj heq).1 hnull
    · rw [readShape, readValue_scalar hscalar hstops]
      rfl
  | text value =>
    rw [readShape, writeBefore_string, skipSpace_cons (by decide)]
    simp only [readString_quote]
    rfl
  | natural hgreatest =>
    cases hscalar with
    | number hfits =>
      rw [readShape, readFitting_number hfits hstops hgreatest]
  | integer hbounds =>
    cases hscalar with
    | number hfits =>
      rw [readShape, readFitting_number hfits hstops hbounds]

/-! ### The members of an object -/

/-- The names of the members that a record has fields for. -/
def isField (fields : Fields) (member : String × Json) : Bool :=
  (fields.find? fun field ↦ field.1 == member.1).isSome

/-- A flat object that a record takes: scalars, each admitted by the field of its name. -/
structure Flat (fields : Fields) (members : List (String × Json)) : Prop where
  scalar : ∀ member ∈ members, Scalar member.2
  admitted : ∀ member ∈ members, ∀ field,
    fields.find? (fun field ↦ field.1 == member.1) = some field → field.2.2.Admits member.2
  nodup : (members.map (·.1)).Nodup

theorem Flat.tail {fields : Fields} {member : String × Json} {members : List (String × Json)}
    (h : Flat fields (member :: members)) : Flat fields members where
  scalar other hmem := h.scalar other (List.mem_cons_of_mem _ hmem)
  admitted other hmem := h.admitted other (List.mem_cons_of_mem _ hmem)
  nodup := (List.nodup_cons.mp h.nodup).2

/-- Behind a member comes a comma or the end of the object. -/
theorem stops_writeMembers (after : Bytes) (members : List (String × Json)) :
    Stops (writeMembers after false members) := by
  cases members with
  | nil =>
    rw [writeMembers]
    intro octet hoctet
    exact .inr (.inr (Option.some.inj hoctet).symm)
  | cons member members =>
    rw [writeMembers]
    intro octet hoctet
    exact .inl (Option.some.inj hoctet).symm

theorem nextMember_writeMembers (isFirst : Bool) (after : Bytes) (member : String × Json)
    (members : List (String × Json)) :
    nextMember isFirst (writeMembers after isFirst (member :: members)) =
      .ok (.inl ((Utf8.encode member.1).flatMap escapeOctet ++
        0x22 :: 0x3A :: writeBefore (writeMembers after false members) member.2)) := by
  rw [writeMembers]
  cases isFirst with
  | true =>
    simp only [if_true, List.nil_append, quote_append]
    rw [nextMember, skipSpace_cons (by decide)]
    rfl
  | false =>
    simp only [Bool.false_eq_true, if_false, List.cons_append, List.nil_append, quote_append]
    rw [nextMember, skipSpace_cons (by decide)]
    rfl

theorem nextMember_writeMembers_nil (isFirst : Bool) (after : Bytes) :
    nextMember isFirst (writeMembers after isFirst []) = .ok (.inr after) := by
  rw [writeMembers, nextMember, skipSpace_cons (by decide)]
  rfl

theorem readColon_cons (rest : Bytes) : readColon (0x3A :: rest) = .ok rest := by
  rw [readColon, skipSpace_cons (by decide)]
  rfl

/-- A record finds the members that it has fields for, behind those that it has read. -/
theorem fitMembers_writeMembers {fields : Fields} {members : List (String × Json)}
    (hflat : Flat fields members) {read : List (String × Json)}
    (hfresh : ∀ member ∈ members, ∀ earlier ∈ read, earlier.1 ≠ member.1)
    (hcomplete : isComplete fields ((members.filter (isField fields)).reverse ++ read) = true)
    {fuel : Nat} (hfuel : members.length + 2 ≤ fuel) (depth : Nat) (isFirst : Bool)
    (after : Bytes) :
    fitMembers fuel depth fields isFirst read (writeMembers after isFirst members) =
      .ok (.object (read.reverse ++ members.filter (isField fields)), after) := by
  induction members generalizing read fuel isFirst with
  | nil =>
    obtain ⟨fuel, rfl⟩ := Nat.exists_eq_add_of_le hfuel
    rw [List.filter_nil, List.reverse_nil, List.nil_append] at hcomplete
    rw [List.length_nil, Nat.zero_add, Nat.add_comm, fitMembers, nextMember_writeMembers_nil,
      List.filter_nil, List.append_nil]
    simp only [hcomplete, if_true]
  | cons member members ih =>
    obtain ⟨fuel, rfl⟩ := Nat.exists_eq_add_of_le hfuel
    have hfuel : (member :: members).length + 2 + fuel = (members.length + fuel) + 2 + 1 := by
      rw [List.length_cons]
      omega
    have hstops := stops_writeMembers after members
    have hscalar := hflat.scalar member List.mem_cons_self
    have hlater : ∀ other ∈ members, other.1 ≠ member.1 := fun other hmem heq ↦
      (List.nodup_cons.mp hflat.nodup).1 (List.mem_map.mpr ⟨other, hmem, heq⟩)
    rw [hfuel, fitMembers, nextMember_writeMembers]
    simp only [readString_quote]
    rcases hfound : fields.find? fun field ↦ field.1 == member.1 with _ | ⟨name, presence, shape⟩
    · have hskipped : isField fields member = false := by rw [isField, hfound]; rfl
      rw [List.filter_cons_of_neg (by simp [hskipped])] at hcomplete ⊢
      simp only [hfound, readColon_cons, skipValue_scalar hscalar hstops]
      exact ih hflat.tail (fun other hmem ↦ hfresh other (List.mem_cons_of_mem _ hmem)) hcomplete
        (Nat.add_le_add_right (Nat.le_add_right _ fuel) 2) false
    · have hkept : isField fields member = true := by rw [isField, hfound]; rfl
      have hadmits : shape.Admits member.2 := hflat.admitted member List.mem_cons_self _ hfound
      have hnew : (read.any fun earlier ↦ earlier.1 == member.1) = false := by
        rw [List.any_eq_false]
        intro earlier hmem
        simpa using hfresh member List.mem_cons_self earlier hmem
      rw [List.filter_cons_of_pos hkept] at hcomplete ⊢
      simp only [hfound, hnew, Bool.false_eq_true, if_false, readColon_cons,
        readShape_scalar hadmits hscalar hstops]
      have hread : read.reverse ++ member :: members.filter (isField fields) =
          (member :: read).reverse ++ members.filter (isField fields) := by simp
      rw [hread]
      refine ih hflat.tail (fun other hmem earlier hearlier ↦ ?_) ?_
        (Nat.add_le_add_right (Nat.le_add_right _ fuel) 2) false
      · rcases List.mem_cons.mp hearlier with rfl | hearlier
        · exact (hlater other hmem).symm
        · exact hfresh other (List.mem_cons_of_mem _ hmem) earlier hearlier
      · simpa using hcomplete

theorem length_le_writeBefore {document : Json} (h : Scalar document) (rest : Bytes) :
    rest.length ≤ (writeBefore rest document).length := by
  cases h with
  | text value =>
    rw [writeBefore, List.length_append]
    omega
  | number =>
    rw [writeBefore, List.length_append]
    omega

/-- Every member takes an octet or more. -/
theorem length_le_writeMembers {fields : Fields} {members : List (String × Json)}
    (hflat : Flat fields members) (isFirst : Bool) (after : Bytes) :
    members.length ≤ (writeMembers after isFirst members).length := by
  induction members generalizing isFirst with
  | nil => exact Nat.zero_le _
  | cons member members ih =>
    have hlater := ih hflat.tail false
    have hvalue := length_le_writeBefore (hflat.scalar member List.mem_cons_self)
      (writeMembers after false members)
    rw [writeMembers, List.length_append, List.length_cons, List.length_cons]
    omega

/-- A record takes from a flat object the members that it has fields for. -/
theorem Shape.read_record {fields : Fields} {members : List (String × Json)}
    (hflat : Flat fields members)
    (hcomplete : isComplete fields (members.filter (isField fields)).reverse = true) :
    (Shape.record fields).read (write (.object members)) =
      .ok (.object (members.filter (isField fields))) := by
  have hwritten : write (.object members) = 0x7B :: writeMembers [] true members := by
    rw [write, writeBefore]
  have hlength : members.length + 2 ≤ 4 * (write (.object members)).length + 15 := by
    have hmembers := length_le_writeMembers hflat true []
    rw [hwritten, List.length_cons]
    omega
  have hfresh : ∀ member ∈ members, ∀ earlier ∈ ([] : List (String × Json)),
      earlier.1 ≠ member.1 := by simp
  have hfit := fitMembers_writeMembers hflat hfresh (by simpa using hcomplete) hlength
    (depthLimit - 1) true []
  have hdepth : ¬depthLimit ≤ 1 := by decide
  rw [Shape.read, readShape]
  rw [hwritten, skipSpace_cons (by decide)] at *
  simp only [if_neg hdepth, hfit]
  rfl

end StompBroker.Json
