import Attest.Proofs.Key.Body
import Attest.Proofs.Key.Listing
import Attest.Proofs.Key.LocalService

/-!
# Texts of private keys

A text that carries a private key is never taken for a public one, whether or not its numbers make
a key: the armour is labelled so, the envelope begins with a version, or the web key has the
members that make it private.  So nothing that serves public keys serves one from such a text.
-/

namespace Attest.Key

open Der

variable {text : String} {members : List (String × Json)}

/-! ## Public keys of each form -/

theorem WebKey.decode_of_object? {material : KeyMaterial} (object : object? text = some members)
    (decoded : Registry.standard.decode text = .ok material) : decode text = .ok material := by
  refine Registry.decode_of_recognises Registry.webKey_mem ?_ decoded
  change (object? text).isSome = true
  rw [object]
  rfl

/-- The labels of private keys. -/
inductive Armoured.Label.OfPrivateKey : Armoured.Label → Prop where
  | privateKey : OfPrivateKey .privateKey
  | curvePrivateKey : OfPrivateKey .curvePrivateKey
  | rsaPrivateKey : OfPrivateKey .rsaPrivateKey

theorem Armoured.Label.OfPrivateKey.read?_ne {label : Label} (ofPrivateKey : label.OfPrivateKey)
    (octets : Octets) (key : PublicKey) : label.read? octets ≠ some (.publicKey key) := by
  intro read
  cases ofPrivateKey <;> obtain ⟨_, -, same⟩ := Option.map_eq_some_iff.mp read <;> cases same

theorem Armoured.Label.noHyphen (label : Label) : '-' ∉ label.text.toList := by
  cases label <;> decide

/-- An envelope that begins with a version is not one of a public key. -/
theorem readPublicKey?_of_version {octets : Octets} {version : Element} {rest : List Element}
    (whole : readSequence? octets = some (version :: rest)) (versioned : version.tag = integerTag) :
    readPublicKey? octets = none := by
  have noAlgorithm : KeyAlgorithm.ofElement? version = none := by
    rw [KeyAlgorithm.ofElement?, Element.contentOf?, versioned]
    rfl
  rw [readPublicKey?, readPublicEnvelope?, whole]
  rcases rest with _ | ⟨key, _ | ⟨_, _⟩⟩
  · rfl
  · simp only [Option.bind_eq_bind, Option.bind_some, noAlgorithm, Option.bind_none]
  · rfl

/-- A web key lists members up to a brace. -/
theorem WebKey.exists_trimEnd_of_object? (object : object? text = some members) :
    ∃ inside, Text.trimEnd text.toList = inside ++ ['}'] := by
  obtain ⟨parts, ⟨before, after, whole, -, blank⟩, -⟩ := exists_lists_of_object? object
  refine ⟨before ++ ('{' :: Json.joined parts), ?_⟩
  have ends : Text.trimEnd ((before ++ ('{' :: Json.joined parts)) ++ '}' :: after) =
      (before ++ ('{' :: Json.joined parts)) ++ ['}'] := Text.trimEnd_append rfl blank
  rw [whole, Json.objectChars]
  simpa using ends

/-! ## Private texts -/

/-- A text carries a private key: a web key with the private members of its type, armour labelled
so by its beginning or, whatever stands before it, by its end, or base64 of a sequence that begins
with a version as the envelope of a private key does. -/
inductive CarriesPrivateKey (text : String) : Prop where
  | curve {members : List (String × Json)} (object : WebKey.object? text = some members)
      (family : Table.find? "kty" (Table.ofEntries members) = some (.string "EC"))
      (scalar : Table.has "d" (Table.ofEntries members) = true)
  | rsa {members : List (String × Json)} (object : WebKey.object? text = some members)
      (family : Table.find? "kty" (Table.ofEntries members) = some (.string "RSA"))
      (numbers : ∀ name ∈ ["d", "p", "q"], Table.has name (Table.ofEntries members) = true)
  | labelled {label : Armoured.Label} (ofPrivateKey : label.OfPrivateKey)
      (begins : Armoured.label? (Text.trim text.toList) = some label.text)
  | enclosed {label : Armoured.Label} {body : List Char} (ofPrivateKey : label.OfPrivateKey)
      (encloses : Pem.Encloses text.toList label.text.toList body)
  | envelope {octets : Octets} {version : Element} {rest : List Element}
      (base : Unarmoured.octets? text = some octets)
      (whole : readSequence? octets = some (version :: rest))
      (versioned : version.tag = integerTag)

theorem WebKey.curve_decode_ne (object : object? text = some members)
    (family : Table.find? "kty" (Table.ofEntries members) = some (.string "EC"))
    (scalar : Table.has "d" (Table.ofEntries members) = true) (key : PublicKey) :
    decode text ≠ .ok (.publicKey key) := by
  rw [decode_eq_decodeCurve object family]
  intro decoded
  rcases decodeCurve_cases decoded with ⟨-, _, -, same⟩ | ⟨absent, -⟩
  · cases same
  · rw [scalar] at absent
    cases absent

theorem WebKey.rsa_decode_ne (object : object? text = some members)
    (family : Table.find? "kty" (Table.ofEntries members) = some (.string "RSA"))
    (numbers : ∀ name ∈ ["d", "p", "q"], Table.has name (Table.ofEntries members) = true)
    (key : PublicKey) : decode text ≠ .ok (.publicKey key) := by
  rw [decode_eq_decodeRsa object family]
  intro decoded
  obtain ⟨_, _, -, -, ⟨-, _, _, _, _, -, -, -, -, same⟩ | ⟨absent, -⟩⟩ := decodeRsa_cases decoded
  · cases same
  · rw [List.all_eq_true.mpr numbers] at absent
    cases absent

theorem Unarmoured.decode_ne_of_version {octets : Octets} {version : Element}
    {rest : List Element} (base : octets? text = some octets)
    (whole : readSequence? octets = some (version :: rest)) (versioned : version.tag = integerTag)
    (key : PublicKey) : decode text ≠ .ok (.publicKey key) := by
  intro decoded
  obtain ⟨found, same, read⟩ := decode_eq_ok_iff.mp decoded
  rw [base, Option.some.injEq] at same
  rw [← same, readEnvelope?, readPublicKey?_of_version whole versioned] at read
  split at read
  · cases read
  · cases read

/-- Armour with the label of a private key at its end is never read as a public key, by whatever
form. -/
theorem enclosed_decode_ne {label : Armoured.Label} {body : List Char}
    (ofPrivateKey : label.OfPrivateKey)
    (encloses : Pem.Encloses text.toList label.text.toList body) (key : PublicKey) :
    Registry.standard.decode text ≠ .ok (.publicKey key) := by
  intro decoded
  obtain ⟨form, member, decoded⟩ := (Registry.decode_eq_ok_iff fun _ => Iff.rfl).mp decoded
  obtain ⟨before, ends⟩ := encloses.trimEnd_eq
  rcases Registry.mem_standard_forms.mp member with rfl | rfl | rfl
  · obtain ⟨other, octets, -, inside, read⟩ := Armoured.exists_label_of_decode decoded
    obtain ⟨_, enclosesOther, -⟩ := Pem.exists_encloses_of_read? other.ascii inside
    have same := encloses.label_unique enclosesOther label.noHyphen other.noHyphen
    obtain rfl := Armoured.Label.text_injective (String.toList_injective same)
    exact ofPrivateKey.read?_ne octets key read
  · obtain ⟨members, object, -⟩ := WebKey.decode_cases decoded
    obtain ⟨inside, brace⟩ := WebKey.exists_trimEnd_of_object? object
    have hyphen : Pem.endLine label.text.toList =
        (Pem.endChars ++ (label.text.toList ++ Pem.dashChars.tail)) ++ ['-'] := by
      simp [Pem.endLine, Pem.dashChars]
    rw [brace, hyphen, ← List.append_assoc] at ends
    cases List.append_inj_right' ends rfl
  · have recognised := Unarmoured.recognises_of_decode decoded
    obtain ⟨before, after, whole, -⟩ := encloses.lines
    have hyphen : '-' ∈ text.toList := by
      rw [whole]
      simp [Pem.beginLine, Pem.beginChars]
    simp only [Unarmoured.recognises, Bool.and_eq_true, List.all_eq_true] at recognised
    cases recognised.2 '-' (Text.mem_squeeze hyphen rfl)

/-- A text that carries a private key is never decoded to a public one. -/
theorem CarriesPrivateKey.decode_ne (carries : CarriesPrivateKey text) (key : PublicKey) :
    Registry.standard.decode text ≠ .ok (.publicKey key) := by
  intro decoded
  cases carries with
  | curve object family scalar =>
      exact WebKey.curve_decode_ne object family scalar key
        (WebKey.decode_of_object? object decoded)
  | rsa object family numbers =>
      exact WebKey.rsa_decode_ne object family numbers key (WebKey.decode_of_object? object decoded)
  | labelled ofPrivateKey begins =>
      obtain ⟨other, octets, named, -, read⟩ := Armoured.exists_label_of_decode
        (Registry.decode_of_recognises Registry.armoured_mem
          (Armoured.recognises_of_label? begins) decoded)
      rw [begins, Option.some.injEq] at named
      obtain rfl := Armoured.Label.text_injective named
      exact ofPrivateKey.read?_ne octets key read
  | enclosed ofPrivateKey encloses => exact enclosed_decode_ne ofPrivateKey encloses key decoded
  | envelope base whole versioned =>
      have recognised : Unarmoured.recognises text = true := by
        apply Unarmoured.recognises_of_octets (toOption_eq_some_iff.mp base)
        rintro rfl
        cases whole
      exact Unarmoured.decode_ne_of_version base whole versioned key
        (Registry.decode_of_recognises Registry.unarmoured_mem recognised decoded)

/-! ## Services of public keys -/

/-- No public key comes from a text: neither by decoding it, nor by a resolver over a source that
has it, nor from a service that looks it up in its vault or to which it is added. -/
structure NeverPublic (text : String) : Prop where
  decoding : ∀ key, Registry.standard.decode text ≠ .ok (.publicKey key)
  resolving : ∀ (source : Source) (id : String), source id = .ok text →
    ∃ failure, PublicResolver.ofSource source Registry.standard id = .error failure
  lookup : ∀ (service : LocalService) (id : String), service.registry = Registry.standard →
    Table.find? id service.cache = none → service.vault.secret? id = some text →
      service.resolver id = .error (.resolution (PublicResolver.unresolved id))
  adding : ∀ (service : LocalService) (id : String), service.registry = Registry.standard →
    ∃ failure, service.add id text = .error failure

theorem neverPublic_of_decode_ne
    (decoding : ∀ key, Registry.standard.decode text ≠ .ok (.publicKey key)) :
    NeverPublic text := by
  have refused : ∃ failure, Registry.standard.decodePublic text = .error failure := by
    cases decoded : Registry.standard.decodePublic text with
    | error failure => exact ⟨failure, rfl⟩
    | ok key => exact absurd (Registry.decodePublic_eq_ok_iff.mp decoded) (decoding key)
  obtain ⟨failure, refused⟩ := refused
  refine ⟨decoding, ?_, ?_, ?_⟩
  · intro source id found
    rw [PublicResolver.ofSource, found]
    change ∃ failure, (Registry.standard.decodePublic text).mapError _ = .error failure
    rw [refused]
    exact ⟨_, rfl⟩
  · intro service id registry uncached held
    rw [LocalService.resolver, LocalService.resolve_of_uncached uncached]
    refine LocalService.inVault_of_ne_ok fun key found => ?_
    obtain ⟨other, otherHeld, decoded⟩ := LocalService.inVault_eq_ok_iff.mp found
    rw [held, Option.some.injEq] at otherHeld
    rw [← otherHeld, registry] at decoded
    exact decoding key decoded
  · intro service id registry
    rw [LocalService.add_eq, registry, refused]
    exact ⟨_, rfl⟩

/-- An RSA key without all its private numbers is the public key of its modulus and exponent. -/
theorem decode_of_partial_rsa {modulus exponent : Nat} {key : Rsa.PublicKey}
    (object : WebKey.object? text = some members)
    (family : Table.find? "kty" (Table.ofEntries members) = some (.string "RSA"))
    (missing : ∃ name ∈ ["d", "p", "q"], Table.has name (Table.ofEntries members) = false)
    (modulusRead : WebKey.number (Table.ofEntries members) "n" = .ok modulus)
    (exponentRead : WebKey.number (Table.ofEntries members) "e" = .ok exponent)
    (made : Rsa.PublicKey.ofNumbers modulus exponent = .ok key) :
    Registry.standard.decode text = .ok (.publicKey (.rsa key)) := by
  have bare : ¬(["d", "p", "q"].all fun name =>
      Table.has name (Table.ofEntries members)) = true := by
    obtain ⟨name, member, absent⟩ := missing
    intro full
    rw [List.all_eq_true.mp full name member] at absent
    cases absent
  refine (Registry.decode_eq_ok_iff fun _ => Iff.rfl).mpr ⟨WebKey.form, Registry.webKey_mem, ?_⟩
  change WebKey.decode text = _
  rw [WebKey.decode_eq_decodeRsa object family, WebKey.decodeRsa]
  refine bind_eq_ok_iff.mpr ⟨modulus, modulusRead, bind_eq_ok_iff.mpr ⟨exponent, exponentRead, ?_⟩⟩
  rw [if_neg bare, made]
  rfl

/-- A text that carries a private key is never served as a public key.  An RSA key that has not
all of its private numbers carries none: it is read as the public key that it states. -/
theorem private_text_never_public :
    (∀ {text : String}, CarriesPrivateKey text → NeverPublic text) ∧
    ∀ {text : String} {members : List (String × Json)} {modulus exponent : Nat}
      {key : Rsa.PublicKey}, WebKey.object? text = some members →
      Table.find? "kty" (Table.ofEntries members) = some (.string "RSA") →
      (∃ name ∈ ["d", "p", "q"], Table.has name (Table.ofEntries members) = false) →
      WebKey.number (Table.ofEntries members) "n" = .ok modulus →
      WebKey.number (Table.ofEntries members) "e" = .ok exponent →
      Rsa.PublicKey.ofNumbers modulus exponent = .ok key →
      Registry.standard.decode text = .ok (.publicKey (.rsa key)) :=
  ⟨fun carries => neverPublic_of_decode_ne carries.decode_ne, decode_of_partial_rsa⟩

/-- A private RSA key, and the same without its second factor. -/
theorem private_text_never_public_sample :
    let text := "\x7b\"kty\":\"RSA\",\"n\":\"Nw\",\"e\":\"Aw\",\"d\":\"Bw\"," ++
      "\"p\":\"Cw\",\"q\":\"BQ\"\x7d"
    let without := "\x7b\"kty\":\"RSA\",\"n\":\"Nw\",\"e\":\"Aw\",\"d\":\"Bw\"," ++
      "\"p\":\"Cw\"\x7d"
    (CarriesPrivateKey text ∧ NeverPublic text) ∧
      Registry.standard.decode without = .ok (.publicKey (.rsa ⟨55, 3⟩)) := by
  intro text without
  let numbers := [WebKey.textMember "kty" "RSA", WebKey.textMember "n" "Nw",
    WebKey.textMember "e" "Aw", WebKey.textMember "d" "Bw", WebKey.textMember "p" "Cw"]
  have lists : WebKey.Lists text (numbers ++ [WebKey.textMember "q" "BQ"]) :=
    ⟨[], [], by decide +kernel, List.forall_mem_nil _, List.forall_mem_nil _⟩
  have listsWithout : WebKey.Lists without numbers :=
    ⟨[], [], by decide +kernel, List.forall_mem_nil _, List.forall_mem_nil _⟩
  have carries : CarriesPrivateKey text :=
    .rsa (WebKey.object?_of_lists lists rfl) rfl (by decide)
  obtain ⟨never, halved⟩ := private_text_never_public
  refine ⟨⟨carries, never carries⟩, ?_⟩
  have modulus : WebKey.number (Table.ofEntries (numbers.map Json.MemberText.member)) "n" =
      .ok 55 := toOption_eq_some_iff.mp (by decide +kernel)
  have exponent : WebKey.number (Table.ofEntries (numbers.map Json.MemberText.member)) "e" =
      .ok 3 := toOption_eq_some_iff.mp (by decide +kernel)
  exact halved (WebKey.object?_of_lists listsWithout rfl) rfl ⟨"q", by decide, rfl⟩ modulus exponent
    (toOption_eq_some_iff.mp (by decide +kernel))

/-- An RSA key with its private exponent but not its factors is decoded to a public key. -/
theorem rsa_key_without_factors_public :
    let text := "\x7b\"kty\":\"RSA\",\"n\":\"Nw\",\"e\":\"Aw\",\"d\":\"Bw\"\x7d"
    ∃ members, WebKey.object? text = some members ∧
      Table.find? "kty" members = some (.string "RSA") ∧ Table.has "d" members = true ∧
      Registry.standard.decode text = .ok (.publicKey (.rsa ⟨55, 3⟩)) := by
  intro text
  have lists : WebKey.Lists text [WebKey.textMember "kty" "RSA", WebKey.textMember "n" "Nw",
      WebKey.textMember "e" "Aw", WebKey.textMember "d" "Bw"] :=
    ⟨[], [], by decide +kernel, List.forall_mem_nil _, List.forall_mem_nil _⟩
  exact ⟨_, WebKey.object?_of_lists lists rfl, rfl, rfl,
    toOption_eq_some_iff.mp (by decide +kernel)⟩

end Attest.Key
