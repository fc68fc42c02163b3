import StompBroker.Password
import StompBroker.Proofs.Text.Base64
import StompBroker.Proofs.Text.Split

/-!
# Passwords against the hashes that were made of them

A hash has the length that its parameters ask for (`Argon2.length_hash`), whatever is hashed: the
chaining words of the digest stay eight, and a longer digest is put together from halves. So the
text of a hash is short enough to be read, and none of its fields holds a character that ends a
field. `parse?_create` reads it back. What is then checked of a password is that its hash with the
same salt is the same one (`verifyPassword_create`), so the password that the text was made of is
accepted (`verifyPassword_create_self`).
-/

set_option autoImplicit false

namespace StompBroker

/-! ### The length of a digest -/

namespace Blake2

theorem length_littleEndian (octets value : Nat) : (littleEndian octets value).length = octets := by
  rw [littleEndian, List.length_reverse, Sha512.bigEndian, List.length_map, List.length_reverse,
    List.length_range]

theorem length_octets (words : Array UInt64) : (octets words).length = 8 * words.size := by
  rw [octets, List.length_flatMap, ← Array.length_toList]
  induction words.toList with
  | nil => rfl
  | cons word words ih =>
    rw [List.map_cons, List.sum_cons, ih, length_littleEndian, List.length_cons]
    omega

theorem size_compress (chain block : Array UInt64) (count : Nat) (isLast : Bool) :
    (compress chain block count isLast).size = 8 := by
  rw [compress, List.size_toArray, List.length_map, List.length_range]

theorem size_absorb {chain : Array UInt64} (h : chain.size = 8) (fuel count : Nat)
    (message : Bytes) : (absorb fuel chain count message).size = 8 := by
  induction fuel generalizing chain count message with
  | zero => exact h
  | succ fuel ih =>
    rw [absorb]
    split
    · exact size_compress _ _ _ _
    · exact ih (size_compress _ _ _ _) _ _

theorem length_digest {size : Nat} (h : size ≤ 64) (message : Bytes) :
    (digest size message).length = size := by
  have hstart : (Sha512.initialWords.setIfInBounds 0
      (Sha512.initialWords.getD 0 0 ^^^ UInt64.ofNat (0x01010000 + size))).size = 8 :=
    Array.size_setIfInBounds
  rw [digest, List.length_take, length_octets, size_absorb hstart]
  omega

end Blake2

namespace Argon2

theorem length_stretchFrom (size : Nat) (digest : Bytes) :
    (stretchFrom size digest).length = size := by
  fun_induction stretchFrom size digest with
  | case1 size digest hshort => exact Blake2.length_digest hshort digest
  | case2 size digest hlong next ih =>
    rw [List.length_append, ih, List.length_take, Blake2.length_digest (Nat.le_refl 64)]
    omega

theorem length_stretch (size : Nat) (message : Bytes) : (stretch size message).length = size := by
  unfold stretch
  split
  · rename_i hshort
    exact Blake2.length_digest hshort _
  · rw [List.length_append, length_stretchFrom, List.length_take,
      Blake2.length_digest (Nat.le_refl 64)]
    omega

theorem length_hash (params : Params) (password salt : Bytes) :
    (hash params password salt).length = params.tagLength :=
  length_stretch _ _

end Argon2

/-! ### The text of a hash -/

namespace PasswordHash

/-- The parameters of new hashes, as the fields of the text name them. -/
def usualParams : List (String × String) := [("m", "19456"), ("t", "2"), ("p", "1")]

/-- The hash that is made of a password. -/
def made (password : String) (salt : Bytes) : PasswordHash :=
  { algorithm := "argon2id", version := some 19, params := usualParams
    salt := some (Base64.encode Base64.standard salt)
    hash := some (Argon2.hash {} (Utf8.encode password) salt) }

theorem not_mem_encode {separator : Char} (h : ∀ value < 64, Base64.standard.char value ≠ separator)
    (octets : Bytes) : separator ∉ (Base64.encode Base64.standard octets).toList :=
  fun hmem ↦ Base64.all_encode (· ≠ separator) h octets separator hmem rfl

theorem isValue_encode {octets : Bytes} (h : octets.length ≤ 48) :
    isValue (Base64.encode Base64.standard octets) = true := by
  have hlength : (Base64.encode Base64.standard octets).length ≤ 64 := by
    rw [Base64.length_encode]
    omega
  rw [isValue, Bool.and_eq_true, decide_eq_true_eq, List.all_eq_true]
  exact ⟨hlength, Base64.all_encode _ (by decide) octets⟩

theorem create_eq (password : String) (salt : Bytes) :
    create password salt = (String.singleton '$').intercalate
      ["", "argon2id", "v=19", "m=19456,t=2,p=1", Base64.encode Base64.standard salt,
        Base64.encode Base64.standard (Argon2.hash {} (Utf8.encode password) salt)] := by
  have hmemory : toString (19456 : Nat) = "19456" := by decide
  have hpasses : toString (2 : Nat) = "2" := by decide
  have hlanes : toString (1 : Nat) = "1" := by decide
  unfold create
  dsimp only
  generalize Argon2.hash _ _ _ = octets
  rw [hmemory, hpasses, hlanes, ← String.toList_inj]
  simp

theorem split_create (password : String) (salt : Bytes) :
    Text.split '$' (create password salt) =
      ["", "argon2id", "v=19", "m=19456,t=2,p=1", Base64.encode Base64.standard salt,
        Base64.encode Base64.standard (Argon2.hash {} (Utf8.encode password) salt)] := by
  refine Text.split_eq_iff.mpr ⟨List.cons_ne_nil _ _, ?_, create_eq password salt⟩
  have hencoded (octets : Bytes) : '$' ∉ (Base64.encode Base64.standard octets).toList :=
    not_mem_encode (by decide) octets
  simp [hencoded]

theorem readFields_made {password : String} {salt : Bytes} (hleast : 8 ≤ salt.length)
    (hmost : salt.length ≤ 48) :
    readFields { algorithm := "argon2id", version := some 19 }
      ["m=19456,t=2,p=1", Base64.encode Base64.standard salt,
        Base64.encode Base64.standard (Argon2.hash {} (Utf8.encode password) salt)] =
      some (made password salt) := by
  have hlist : "m=19456,t=2,p=1".contains '=' = true := by
    rw [String.contains_char_eq]
    decide
  have hparams : (Text.split ',' "m=19456,t=2,p=1").mapM param? = some usualParams := by decide
  have hlong : 4 ≤ (Base64.encode Base64.standard salt).length := by
    rw [Base64.length_encode]
    omega
  have hsize : (Argon2.hash {} (Utf8.encode password) salt).length = 32 := Argon2.length_hash _ _ _
  have hdecode : (Base64.decode? Base64.standard (Base64.encode Base64.standard
      (Argon2.hash {} (Utf8.encode password) salt))).filter
        (fun octets ↦ 10 ≤ octets.length && octets.length ≤ 64) =
      some (Argon2.hash {} (Utf8.encode password) salt) := by
    rw [Base64.decode?_encode Base64.standard_reads, Option.filter_some, hsize]
    rfl
  unfold readFields
  simp [hlist, hparams, hlong, isValue_encode hmost, hdecode]
  exact ⟨by decide, rfl⟩

theorem parse?_create (password : String) {salt : Bytes} (hleast : 8 ≤ salt.length)
    (hmost : salt.length ≤ 48) : parse? (create password salt) = some (made password salt) := by
  have hname : isName "argon2id" = true := by decide
  have hfield : isVersionField "v=19" = true := by
    rw [isVersionField, String.contains_char_eq]
    decide
  have hversion : (Text.stripStart? "v=" "v=19").filter isValue = some "19" := by decide
  have hnumber : decimal? "19" = some 19 := by decide
  simp [parse?, split_create, hname, hfield, hversion, hnumber, readFields_made hleast hmost]

theorem accepts_made (password other : String) {salt : Bytes} (hleast : 8 ≤ salt.length) :
    (made password salt).accepts other =
      (Argon2.hash {} (Utf8.encode other) salt == Argon2.hash {} (Utf8.encode password) salt) := by
  have hsize : (Argon2.hash {} (Utf8.encode password) salt).length = 32 := Argon2.length_hash _ _ _
  have hparams : (made password salt).argonParams? 32 = some {} := rfl
  have hdecode := Base64.decode?_encode Base64.standard_reads salt
  unfold accepts
  simp only [made] at hparams ⊢
  rw [hsize, hparams, hdecode]
  simp [hleast]

end PasswordHash

open PasswordHash (create)

/-- A password is the one that a text was made of if it has the same hash. -/
theorem verifyPassword_create (password other : String) {salt : Bytes} (hleast : 8 ≤ salt.length)
    (hmost : salt.length ≤ 48) :
    verifyPassword (create password salt) other =
      .ok (Argon2.hash {} (Utf8.encode other) salt ==
        Argon2.hash {} (Utf8.encode password) salt) := by
  rw [verifyPassword, PasswordHash.parse?_create password hleast hmost]
  exact congrArg Except.ok (PasswordHash.accepts_made password other hleast)

theorem verifyPassword_create_self (password : String) {salt : Bytes} (hleast : 8 ≤ salt.length)
    (hmost : salt.length ≤ 48) : verifyPassword (create password salt) password = .ok true := by
  rw [verifyPassword_create password password hleast hmost, beq_self_eq_true]

end StompBroker
