import Attest.Proofs.Base64.Spelling
import Attest.Proofs.Key.Admission
import Attest.Proofs.Token.Signature

/-!
# Public keys in the hands of a verifier

What a verifier is handed of a decoded public key spells the numbers of the key and can be
spelled in no other way: coordinates keep their leading zeros, and the numbers of an RSA key
have none.  The checks on keys exclude the number zero, for which there is no such spelling.
A key is never refused before the verifier sees it, nor by a verifier that takes base64url,
which is all that the verifier of tokens asks for.
-/

namespace Attest.Token

/-! ## Numbers in base64url -/

/-- The octets of a coordinate with its leading zeros. -/
def FullWidth (octets : Octets) : Prop :=
  octets.length = P256.width

/-- There are octets, and the first is not a zero. -/
def NoLeadingZero (octets : Octets) : Prop :=
  ∃ first rest, octets = first :: rest ∧ first ≠ 0

/-- The text is base64url of octets that spell the number and are of the given form. -/
def SpellsNumber (form : Octets → Prop) (text : String) (n : Nat) : Prop :=
  ∃ octets, Base64.urlSafe.decode text = .ok octets ∧ form octets ∧ Octets.toNat octets = n

variable {text : String} {n : Nat}

theorem spellsNumber_fullWidth_iff (inField : n < P256.prime) :
    SpellsNumber FullWidth text n ↔ text = Base64.urlSafe.encode (P256.octetsOf n) := by
  constructor
  · rintro ⟨octets, decoded, full, rfl⟩
    -- In a known width the octets are determined by their number, leading zeros included.
    have same : P256.octetsOf (Octets.toNat octets) = octets := by
      rw [P256.octetsOf, ← full, Octets.ofNat_toNat]
    rw [same]
    exact (Base64.decode_eq_ok_iff Base64.readable_urlSafe).mp decoded
  · rintro rfl
    exact ⟨P256.octetsOf n, Base64.decode_encode Base64.readable_urlSafe _,
      P256.length_octetsOf n, P256.toNat_octetsOf inField⟩

theorem spellsNumber_noLeadingZero_iff (positive : n ≠ 0) :
    SpellsNumber NoLeadingZero text n ↔
      text = Base64.urlSafe.encode (Octets.ofNatNonempty n) := by
  rw [Octets.ofNatNonempty, if_neg positive]
  constructor
  · rintro ⟨octets, decoded, ⟨first, rest, rfl, leading⟩, rfl⟩
    rw [Octets.ofNatShortest_toNat leading]
    exact (Base64.decode_eq_ok_iff Base64.readable_urlSafe).mp decoded
  · rintro rfl
    exact ⟨Octets.ofNatShortest n, Base64.decode_encode Base64.readable_urlSafe _,
      Octets.exists_ofNatShortest_eq_cons positive, Octets.toNat_ofNatShortest n⟩

/-! ## Components -/

namespace Components

variable {components : Components} {key : PublicKey}

/-- The components spell the numbers of the key: coordinates in full width, and the numbers of
an RSA key without leading zeros. -/
def Spell : Components → PublicKey → Prop
  | .curve x y, .p256 point =>
      SpellsNumber FullWidth x point.x ∧ SpellsNumber FullWidth y point.y
  | .rsa modulus exponent, .rsa key =>
      SpellsNumber NoLeadingZero modulus key.modulus ∧
        SpellsNumber NoLeadingZero exponent key.exponent
  | _, _ => False

/-- An admitted key has the components that spell it. -/
theorem spell_iff (admitted : key.Admitted) :
    components.Spell key ↔ ofPublic? key = some components := by
  cases key with
  | p256 point =>
      rw [ofPublic?_p256]
      cases components with
      | curve x y =>
          simp only [Spell, spellsNumber_fullWidth_iff point.x_lt,
            spellsNumber_fullWidth_iff point.y_lt, Option.some.injEq, curve.injEq, eq_comm]
      | rsa modulus exponent => simp [Spell]
  | rsa key =>
      obtain ⟨modulus, exponent⟩ := Rsa.PublicKey.ne_zero_of_check admitted
      rw [ofPublic?]
      cases components with
      | curve x y => simp [Spell]
      | rsa modulusText exponentText =>
          simp only [Spell, spellsNumber_noLeadingZero_iff modulus,
            spellsNumber_noLeadingZero_iff exponent, Option.some.injEq, rsa.injEq, eq_comm]

theorem exists_ofPublic? (key : PublicKey) : ∃ components, ofPublic? key = some components := by
  cases key with
  | p256 point => exact ⟨_, ofPublic?_p256 point⟩
  | rsa key => exact ⟨_, rfl⟩

/-- Both components are base64url. -/
def Readable : Components → Prop
  | .curve first second | .rsa first second =>
      (∃ octets, Base64.urlSafe.decode first = .ok octets) ∧
        ∃ octets, Base64.urlSafe.decode second = .ok octets

theorem Spell.readable (spell : components.Spell key) : components.Readable := by
  cases components <;> cases key
  case curve.p256 | rsa.rsa =>
    obtain ⟨⟨first, firstRead, -⟩, second, secondRead, -⟩ := spell
    exact ⟨⟨first, firstRead⟩, second, secondRead⟩
  all_goals exact spell.elim

/-- The verifier of tokens takes all base64url, and nothing else. -/
theorem exists_ofComponents_iff :
    (∃ kept, VerifyingKey.ofComponents components = .ok kept) ↔ components.Readable := by
  cases components with
  | curve first second | rsa first second =>
      simp only [VerifyingKey.ofComponents, VerifyingKey.octets_eq_ok_iff, bind_eq_ok_iff]
      constructor
      · rintro ⟨kept, firstOctets, firstRead, secondOctets, secondRead, -⟩
        exact ⟨⟨firstOctets, firstRead⟩, secondOctets, secondRead⟩
      · rintro ⟨⟨firstOctets, firstRead⟩, secondOctets, secondRead⟩
        exact ⟨_, firstOctets, firstRead, secondOctets, secondRead, rfl⟩

/-- What is handed to a verifier of a public key, and what becomes of it. -/
structure HandedOver (key : PublicKey) (components : Components) : Prop where
  /-- The components spell the numbers of the key, and no others do. -/
  spell_iff : ∀ other : Components, other.Spell key ↔ other = components
  /-- Whatever the verifier makes of the components is the result. -/
  handOver_eq : ∀ {Verifier : Type} (make : Components → Except String Verifier),
    handOver make key = (make components).mapError fun cause => refused cause components
  /-- A verifier that takes all base64url takes them. -/
  taken : ∀ {Verifier : Type} (make : Components → Except String Verifier),
    (∀ given : Components, given.Readable → ∃ verifier, make given = .ok verifier) →
      ∃ verifier, make components = .ok verifier ∧ handOver make key = .ok verifier
  /-- The verifier of tokens takes them, and keeps the key. -/
  kept : VerifyingKey.handOver key = .ok (VerifyingKey.ofPublic key) ∧
    (VerifyingKey.ofPublic key).public? = some key

/-- A public key that was decoded from any text is handed over to a verifier as components that
spell exactly its numbers. -/
theorem exists_handedOver_of_decoded {text : String}
    (decoded : Key.Registry.standard.decode text = .ok (.publicKey key)) :
    ∃ components, HandedOver key components := by
  have admitted : key.Admitted := Key.admitted_of_decode decoded
  -- Every point states both coordinates, so no key is refused before the verifier sees it.
  obtain ⟨components, stated⟩ := exists_ofPublic? key
  have spell : components.Spell key := (Components.spell_iff admitted).mpr stated
  have handed : ∀ {Verifier : Type} (make : Components → Except String Verifier),
      handOver make key = (make components).mapError fun cause => refused cause components := by
    intro Verifier make
    rw [handOver, stated]
  refine ⟨components, ?_, handed, ?_,
    ⟨VerifyingKey.handOver_eq key, VerifyingKey.public?_ofPublic key⟩⟩
  · intro other
    rw [Components.spell_iff admitted, stated, Option.some.injEq, eq_comm]
  · intro Verifier make takes
    obtain ⟨verifier, made⟩ := takes components spell.readable
    refine ⟨verifier, made, ?_⟩
    rw [handed make, made]
    rfl

/-- A point with nothing but zeros as the octets of its first coordinate. -/
def pointAtZero : P256.Point where
  x := 0
  y := 0x66485c780e2f83d72433bd5d84a06bb6541c2af31dae871728bf856a174f93f4
  x_lt := by decide
  y_lt := by decide
  onCurve := by decide

/-- The zeros of a coordinate are handed over, and taken. -/
theorem exists_handedOver_of_decoded_sample :
    let text := "\x7b\"kty\":\"EC\",\"crv\":\"P-256\"," ++
      "\"x\":\"AAAAAAAAAAAAAAAAAAAAAAAAAAAAAAAAAAAAAAAAAAA\"," ++
      "\"y\":\"ZkhceA4vg9ckM71dhKBrtlQcKvMdrocXKL-FahdPk_Q\"\x7d"
    let components : Components := .curve "AAAAAAAAAAAAAAAAAAAAAAAAAAAAAAAAAAAAAAAAAAA"
      "ZkhceA4vg9ckM71dhKBrtlQcKvMdrocXKL-FahdPk_Q"
    Key.Registry.standard.decode text = .ok (.publicKey (.p256 pointAtZero)) ∧
      HandedOver (.p256 pointAtZero) components ∧
      ∃ verifier, VerifyingKey.ofComponents components = .ok verifier ∧
        VerifyingKey.handOver (.p256 pointAtZero) = .ok verifier := by
  intro text components
  have decoded : Key.Registry.standard.decode text = .ok (.publicKey (.p256 pointAtZero)) :=
    toOption_eq_some_iff.mp (by decide +kernel)
  have admitted : (PublicKey.p256 pointAtZero).Admitted := Key.admitted_of_decode decoded
  obtain ⟨found, handed⟩ := exists_handedOver_of_decoded decoded
  have spelled : components.Spell (.p256 pointAtZero) :=
    (Components.spell_iff admitted).mpr (by decide +kernel)
  have same : components = found := (handed.spell_iff components).mp spelled
  rw [← same] at handed
  exact ⟨decoded, handed, handed.taken VerifyingKey.ofComponents fun _ readable =>
    exists_ofComponents_iff.mpr readable⟩

end Components

end Attest.Token
