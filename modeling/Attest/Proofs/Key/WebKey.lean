import Attest.Proofs.Base64
import Attest.Proofs.Json.ReadBack
import Attest.Proofs.Key.Admission
import Attest.Proofs.P256

/-!
# JSON web keys read back

A web key is written as an object of texts with distinct names, which reads back as it is.
Its numbers are recovered from their texts: coordinates and scalars in full width, the others
in the fewest octets.
-/

namespace Attest.Key.WebKey

/-! ## Objects of texts -/

/-- Members with nothing but texts. -/
def Textual (members : List (String × Json)) : Prop :=
  ∀ member ∈ members, ∃ text, member.2 = .string text

variable {members : List (String × Json)}

theorem reads_of_textual (textual : Textual members) :
    (Json.object members).Every Json.NumberReadsBack := by
  refine ⟨trivial, Json.everyMember_iff.mpr ?_⟩
  intro member inside
  obtain ⟨text, value⟩ := textual member inside
  rw [value]
  trivial

theorem nestingOfMembers_of_textual (textual : Textual members) :
    Json.nestingOfMembers members = 0 := by
  induction members with
  | nil => rfl
  | cons member rest ih =>
      obtain ⟨text, value⟩ := textual member List.mem_cons_self
      rw [Json.nestingOfMembers, value, ih fun other inside =>
        textual other (List.mem_cons_of_mem member inside)]
      rfl

theorem restMemberChars_eq (members : List (String × Json)) :
    ∃ inside, Json.restMemberChars members = inside ++ ['}'] := by
  induction members with
  | nil => exact ⟨[], rfl⟩
  | cons member rest ih =>
      obtain ⟨name, value⟩ := member
      obtain ⟨inside, ends⟩ := ih
      refine ⟨',' :: (Json.stringChars name ++ ':' :: (Json.chars value ++ inside)), ?_⟩
      simp only [Json.restMemberChars, ends, List.cons_append, List.append_assoc]

/-- The text of an object begins and ends with a brace. -/
theorem chars_object_eq (nonempty : members ≠ []) :
    ∃ inside, Json.chars (.object members) = '{' :: (inside ++ ['}']) := by
  match members, nonempty with
  | (name, value) :: rest, _ =>
      obtain ⟨inside, ends⟩ := restMemberChars_eq rest
      refine ⟨Json.stringChars name ++ ':' :: (Json.chars value ++ inside), ?_⟩
      simp only [Json.chars, ends, List.cons_append, List.append_assoc]

/-- An object of texts with a key type is recovered from its text. -/
theorem object?_write (textual : Textual members) {family : Json}
    (typed : Table.find? "kty" members = some family) :
    object? (Json.write (.object members)) = some members := by
  have has : Table.has "kty" members = true := by
    rw [Table.has, typed]
    rfl
  have nonempty : members ≠ [] := by
    rintro rfl
    cases typed
  have shallow : Json.nesting (.object members) ≤ Json.depthLimit := by
    rw [Json.nesting, nestingOfMembers_of_textual textual]
    decide
  have noBlanks : ∀ c ∈ ([] : List Char), Text.isBlank c = true := fun _ inside =>
    absurd inside List.not_mem_nil
  have read := Json.read_write (reads_of_textual textual) shallow
  obtain ⟨inside, braces⟩ := chars_object_eq nonempty
  rw [Json.read, Json.write, String.toList_ofList, braces] at read
  rw [object?, Json.write, String.toList_ofList, braces,
    Text.trim_append rfl rfl noBlanks]
  simp only [read, has, if_true]

/-! ## Members -/

theorem member_eq_ok {key : Table Json} {name text : String}
    (found : Table.find? name key = some (.string text)) : member key name = .ok text :=
  member_eq_ok_iff.mpr found

theorem octets_eq_ok {key : Table Json} {name : String} {spelled : Octets}
    (found : Table.find? name key = some (octetsMember name spelled).2) :
    octets key name = .ok spelled := by
  refine bind_eq_ok_iff.mpr ⟨_, member_eq_ok found, ?_⟩
  rw [Base64.decode_encode Base64.readable_urlSafe]
  rfl

/-- A number in the fewest octets is recovered from its member. -/
theorem number_eq_ok {key : Table Json} {name : String} {n : Nat}
    (found : Table.find? name key = some (numberMember name n).2) : number key name = .ok n := by
  have spelled : octets key name = .ok (Octets.ofNatNonempty n) := octets_eq_ok found
  refine bind_eq_ok_iff.mpr ⟨_, spelled, ?_⟩
  rw [Octets.toNat_ofNatNonempty]
  rfl

/-- A number in full width is recovered from its member. -/
theorem coordinate?_eq_some {name : String} {spelled : Octets}
    (full : spelled.length = P256.width)
    (found : Table.find? name members = some (octetsMember name spelled).2) :
    coordinate? members name = some (Octets.toNat spelled) := by
  simp only [coordinate?, found, octetsMember, Option.bind_eq_bind, Option.bind_some, Json.string?,
    Base64.decode_encode Base64.readable_urlSafe, Except.toOption, full, if_true]

/-! ## Curve keys -/

theorem point?_eq_some {point : P256.Point}
    (first : Table.find? "x" members = some (octetsMember "x" (P256.octetsOf point.x)).2)
    (second : Table.find? "y" members = some (octetsMember "y" (P256.octetsOf point.y)).2) :
    point? members = some point := by
  simp only [point?, coordinate?_eq_some (P256.length_octetsOf point.x) first,
    coordinate?_eq_some (P256.length_octetsOf point.y) second,
    P256.toNat_octetsOf point.x_lt, P256.toNat_octetsOf point.y_lt, Option.bind_eq_bind,
    Option.bind_some, P256.Point.ofCoordinates?_self]

theorem decodeCurve_publicMembers (point : P256.Point) :
    decodeCurve (publicMembers (.p256 point)) (publicMembers (.p256 point)) =
      .ok (.publicKey (.p256 point)) := by
  have curve : member (publicMembers (.p256 point)) "crv" = .ok "P-256" := member_eq_ok rfl
  have bare : Table.has "d" (publicMembers (.p256 point)) = false := rfl
  have made : curvePublic? (publicMembers (.p256 point)) = some (.p256 point) :=
    curvePublic?_eq_some_iff.mpr ⟨rfl, point, point?_eq_some rfl rfl, rfl⟩
  simp only [decodeCurve, curve, bare, made]
  rfl

theorem decodeCurve_privateMembers (key : P256.PrivateKey) :
    decodeCurve (publicMembers (.p256 key.point) ++ privateMembers (.p256 key))
        (publicMembers (.p256 key.point) ++ privateMembers (.p256 key)) =
      .ok (.privateKey (.p256 key)) := by
  generalize whole : publicMembers (.p256 key.point) ++ privateMembers (.p256 key) = members
  have curve : member members "crv" = .ok "P-256" := member_eq_ok (by rw [← whole]; rfl)
  have full : Table.has "d" members = true := by rw [← whole]; rfl
  have stated : point? members = some key.point :=
    point?_eq_some (by rw [← whole]; rfl) (by rw [← whole]; rfl)
  have scalar : coordinate? members "d" = some key.scalar := by
    rw [← P256.toNat_octetsOf_scalar key]
    exact coordinate?_eq_some (P256.length_octetsOf key.scalar) (by rw [← whole]; rfl)
  have exactly : hasExactly ["kty", "crv", "x", "y", "d"] members = true := by rw [← whole]; rfl
  have made : curvePrivate? members = some (.p256 key) :=
    curvePrivate?_eq_some_iff.mpr
      ⟨exactly, key, stated, ⟨key.scalar, scalar, key.ofScalar?_scalar⟩, rfl⟩
  simp only [decodeCurve, curve, full, made]
  rfl

/-! ## RSA keys -/

theorem decodeRsa_of_public {key : Table Json} {modulus exponent : Nat}
    (modulusRead : number key "n" = .ok modulus) (exponentRead : number key "e" = .ok exponent)
    (bare : (["d", "p", "q"].all fun name => Table.has name key) = false) :
    (decodeRsa key).toOption =
      (Rsa.PublicKey.ofNumbers modulus exponent).toOption.map fun key => .publicKey (.rsa key) := by
  simp only [decodeRsa, modulusRead, exponentRead, bare, bind, Except.bind, Bool.false_eq_true,
    if_false]
  cases Rsa.PublicKey.ofNumbers modulus exponent <;> rfl

theorem decodeRsa_of_private {key : Table Json}
    {modulus exponent privateExponent firstFactor secondFactor : Nat}
    (modulusRead : number key "n" = .ok modulus) (exponentRead : number key "e" = .ok exponent)
    (privateExponentRead : number key "d" = .ok privateExponent)
    (firstFactorRead : number key "p" = .ok firstFactor)
    (secondFactorRead : number key "q" = .ok secondFactor)
    (full : (["d", "p", "q"].all fun name => Table.has name key) = true) :
    (decodeRsa key).toOption =
      (Rsa.PrivateKey.ofNumbers modulus exponent privateExponent firstFactor
        secondFactor).toOption.map fun key => .privateKey (.rsa key) := by
  simp only [decodeRsa, modulusRead, exponentRead, full, bind, Except.bind, if_true,
    privateExponentRead, firstFactorRead, secondFactorRead]
  cases Rsa.PrivateKey.ofNumbers modulus exponent privateExponent firstFactor secondFactor <;> rfl

/-! ## Keys -/

theorem textual_publicMembers (key : PublicKey) : Textual (publicMembers key) := by
  cases key <;> simp [Textual, publicMembers, octetsMember, numberMember]

theorem textual_privateMembers (key : PrivateKey) : Textual (privateMembers key) := by
  cases key <;> simp [Textual, privateMembers, octetsMember, numberMember]

theorem nodup_keys_publicMembers (key : PublicKey) : (Table.keys (publicMembers key)).Nodup := by
  cases key with
  | p256 point =>
      have names : Table.keys (publicMembers (.p256 point)) = ["kty", "crv", "x", "y"] := rfl
      rw [names]
      decide
  | rsa key =>
      have names : Table.keys (publicMembers (.rsa key)) = ["kty", "n", "e"] := rfl
      rw [names]
      decide

theorem nodup_keys_privateMembers (key : PrivateKey) :
    (Table.keys (publicMembers key.publicKey ++ privateMembers key)).Nodup := by
  cases key with
  | p256 key =>
      have names : Table.keys (publicMembers (.p256 key.point) ++ privateMembers (.p256 key)) =
          ["kty", "crv", "x", "y", "d"] := rfl
      rw [PrivateKey.publicKey, names]
      decide
  | rsa key =>
      have names : Table.keys (publicMembers (.rsa key.publicKey) ++ privateMembers (.rsa key)) =
          ["kty", "n", "e", "d", "p", "q"] := rfl
      rw [PrivateKey.publicKey, names]
      decide

theorem decode_curve (textual : Textual members) (distinct : (Table.keys members).Nodup)
    (typed : Table.find? "kty" members = some (.string "EC")) :
    decode (Json.write (.object members)) = decodeCurve members members := by
  simp only [decode, object?_write textual typed, Table.ofEntries_eq_self distinct,
    member_eq_ok typed]
  rfl

theorem decode_rsa (textual : Textual members) (distinct : (Table.keys members).Nodup)
    (typed : Table.find? "kty" members = some (.string "RSA")) :
    decode (Json.write (.object members)) = decodeRsa members := by
  simp only [decode, object?_write textual typed, Table.ofEntries_eq_self distinct,
    member_eq_ok typed]
  rfl

/-- A public key reads as the key that its numbers make. -/
theorem decode_writePublic (key : PublicKey) :
    (decode (writePublic key)).toOption = key.remade?.map .publicKey := by
  have textual := textual_publicMembers key
  have distinct := nodup_keys_publicMembers key
  rw [writePublic]
  cases key with
  | p256 point =>
      rw [decode_curve textual distinct rfl, decodeCurve_publicMembers]
      rfl
  | rsa key =>
      rw [decode_rsa textual distinct rfl,
        decodeRsa_of_public (number_eq_ok rfl) (number_eq_ok rfl) rfl, PublicKey.remade?,
        Option.map_map]
      rfl

/-- A private key reads as the key that its numbers make. -/
theorem decode_writePrivate (key : PrivateKey) :
    (decode (writePrivate key)).toOption = key.remade?.map .privateKey := by
  have textual : Textual (publicMembers key.publicKey ++ privateMembers key) :=
    List.forall_mem_append.mpr
      ⟨textual_publicMembers key.publicKey, textual_privateMembers key⟩
  have distinct := nodup_keys_privateMembers key
  rw [writePrivate]
  cases key with
  | p256 key =>
      rw [decode_curve textual distinct rfl]
      rw [PrivateKey.publicKey, decodeCurve_privateMembers]
      rfl
  | rsa key =>
      rw [decode_rsa textual distinct rfl,
        decodeRsa_of_private (number_eq_ok rfl) (number_eq_ok rfl) (number_eq_ok rfl)
          (number_eq_ok rfl) (number_eq_ok rfl) rfl, PrivateKey.remade?, Option.map_map]
      rfl

end Attest.Key.WebKey
