import Attest.Proofs.Base64.Spelling
import Attest.Proofs.Token.Validation

/-!
# One text for every token

The segments of an accepted token are the base64url spellings of the octets in them, so the token
is recovered from these octets: there is no padding, no symbol of another alphabet, no bit set
beyond the last octet and no further segment that could be added or changed without changing the
octets.  What remembers tokens by their text therefore remembers them by their contents.
-/

namespace Attest.Token

/-- The octets in the three segments of a token. -/
structure Contents where
  header : Octets
  payload : Octets
  signature : Octets
  deriving DecidableEq, Repr

namespace Contents

variable {contents : Contents} {text : String}

/-- The token with these octets in its segments. -/
def compact (contents : Contents) : Compact where
  header := Base64.urlSafe.encode contents.header
  payload := Base64.urlSafe.encode contents.payload
  signature := Base64.urlSafe.encode contents.signature

/-- The octets in the segments of a text. -/
def ofText? (text : String) : Option Contents := do
  let token ← Compact.ofText? text
  let header ← (Base64.urlSafe.decode token.header).toOption
  let payload ← (Base64.urlSafe.decode token.payload).toOption
  let signature ← (Base64.urlSafe.decode token.signature).toOption
  return ⟨header, payload, signature⟩

theorem dotless_compact (contents : Contents) : contents.compact.Dotless where
  header := Base64.dot_notMem_encode contents.header
  payload := Base64.dot_notMem_encode contents.payload
  signature := Base64.dot_notMem_encode contents.signature

theorem toOption_decode_eq_some_iff {segment : String} {octets : Octets} :
    (Base64.urlSafe.decode segment).toOption = some octets ↔
      segment = Base64.urlSafe.encode octets := by
  rw [toOption_eq_some_iff, Base64.decode_eq_ok_iff Base64.readable_urlSafe]

/-- A text has octets in its segments exactly when it is the text of their spellings. -/
theorem ofText?_eq_some_iff : ofText? text = some contents ↔ text = contents.compact.text := by
  constructor
  · intro read
    simp only [ofText?, Option.bind_eq_bind, Option.bind_eq_some_iff,
      toOption_decode_eq_some_iff] at read
    obtain ⟨token, segments, header, headerSpelled, payload, payloadSpelled, signature,
      signatureSpelled, same⟩ := read
    cases same
    rw [← Compact.text_of_ofText? segments, Compact.text, headerSpelled, payloadSpelled,
      signatureSpelled]
    rfl
  · rintro rfl
    rw [ofText?, Compact.ofText?_text contents.dotless_compact]
    simp only [compact, Option.bind_eq_bind, Option.bind_some,
      Base64.decode_encode Base64.readable_urlSafe, Except.toOption]
    rfl

theorem count_dot_encode (octets : Octets) :
    (Base64.urlSafe.encode octets).toList.count '.' = 0 :=
  List.count_eq_zero_of_not_mem (Base64.dot_notMem_encode octets)

end Contents

/-- The octets in the segments of a token determine its text. -/
structure Canonical (token : String) (contents : Contents) : Prop where
  read : Contents.ofText? token = some contents
  /-- The octets encoded again and joined by dots are the token. -/
  text : Base64.urlSafe.encode contents.header ++ "." ++ Base64.urlSafe.encode contents.payload ++
    "." ++ Base64.urlSafe.encode contents.signature = token
  /-- No other text has these octets in its segments. -/
  unique : ∀ other, Contents.ofText? other = some contents → other = token
  segments : token.toList.count '.' = 2
  /-- Between the dots there is nothing but base64url, and no padding. -/
  plain : ∀ c ∈ token.toList, c = '.' ∨ Base64.IsUrlSafe c

/-- A text with octets in its segments is determined by them. -/
theorem Contents.canonical_of_ofText? {contents : Contents} {token : String}
    (read : ofText? token = some contents) : Canonical token contents := by
  have text := ofText?_eq_some_iff.mp read
  refine ⟨read, text.symm, ?unique, ?segments, ?plain⟩
  case unique =>
    intro other otherRead
    rw [text, ← ofText?_eq_some_iff]
    exact otherRead
  case segments =>
    rw [text, Compact.toList_text]
    simp only [compact, List.count_append, List.count_cons_self, count_dot_encode]
  case plain =>
    intro c member
    rw [text, Compact.toList_text] at member
    simp only [compact, List.mem_append, List.mem_cons] at member
    rcases member with inHeader | dot | inPayload | dot | inSignature
    · exact Or.inr (Base64.isUrlSafe_of_mem_encode c inHeader)
    · exact Or.inl dot
    · exact Or.inr (Base64.isUrlSafe_of_mem_encode c inPayload)
    · exact Or.inl dot
    · exact Or.inr (Base64.isUrlSafe_of_mem_encode c inSignature)

namespace Validator

variable {validator : Validator} {resolver : Key.PublicResolver} {rules : List Rule}
  {circumstances : Circumstances} {token : String} {claims : Claims}

theorem exists_octets_of_document? {segment : String} {document : Json}
    (read : Compact.document? segment = some document) :
    ∃ octets, (Base64.urlSafe.decode segment).toOption = some octets := by
  rw [Compact.document?] at read
  obtain ⟨octets, decoded, -⟩ := Option.bind_eq_some_iff.mp read
  exact ⟨octets, decoded⟩

/-- The first and the third phase have decoded all three segments of an accepted token. -/
theorem exists_contents_of_accepted
    (accepted : validator.validate resolver rules circumstances token = .ok claims) :
    ∃ contents, Contents.ofText? token = some contents := by
  obtain ⟨authenticated, -⟩ := validate_eq_ok_iff.mp accepted
  obtain ⟨decoded, key, decodes, -, verified, -⟩ := authenticate_eq_ok_iff.mp authenticated
  obtain ⟨segments, headerRead, payloadRead⟩ := decode?_eq_some_iff.mp decodes
  obtain ⟨⟨signature, signed⟩, -⟩ := verifies_iff.mp verified
  obtain ⟨headerDocument, headerFound, -⟩ := Option.bind_eq_some_iff.mp headerRead
  obtain ⟨payloadDocument, payloadFound, -⟩ := Option.bind_eq_some_iff.mp payloadRead
  obtain ⟨header, headerOctets⟩ := exists_octets_of_document? headerFound
  obtain ⟨payload, payloadOctets⟩ := exists_octets_of_document? payloadFound
  have signatureOctets := signed.signature?
  rw [Compact.signature?] at signatureOctets
  refine ⟨⟨header, payload, signature⟩, ?_⟩
  simp only [Contents.ofText?, segments, headerOctets, payloadOctets, signatureOctets,
    Option.bind_eq_bind, Option.bind_some]
  rfl

/-- The text of an accepted token is the spelling of the octets in its segments, and no other
text has these octets. -/
theorem canonical_of_accepted
    (accepted : validator.validate resolver rules circumstances token = .ok claims) :
    ∃ contents, Canonical token contents := by
  obtain ⟨contents, read⟩ := exists_contents_of_accepted accepted
  exact ⟨contents, Contents.canonical_of_ofText? read⟩

/-- The signature that is found in the text of a token is the one that was attached. -/
theorem canonical_of_accepted_sample :
    ∃ contents, Canonical (Sample.token Sample.payload Sample.signature).text contents ∧
      contents.signature = Sample.signature := by
  have verified := Sample.scheme_verifies
    (Compact.unsigned Sample.header Sample.payload).signedOctets Sample.signature
  have accepted : Sample.validator.validate Sample.resolver [] ⟨Instant.epoch, []⟩ _ = .ok _ :=
    validate_eq_ok_iff.mpr ⟨authenticate_sample verified, List.forall_mem_nil _⟩
  obtain ⟨contents, canonical⟩ := canonical_of_accepted accepted
  have written : Contents.ofText? (Sample.token Sample.payload Sample.signature).text =
      some ⟨Octets.ofText (Json.write (.object Sample.header.members)),
        Octets.ofText (Json.write (.object Sample.payload)), Sample.signature⟩ :=
    Contents.ofText?_eq_some_iff.mpr rfl
  refine ⟨contents, canonical, ?_⟩
  rw [canonical.read] at written
  cases written
  rfl

/-- A bit beyond the last octet, padding and a further segment are refused. -/
example : (Contents.ofText? "e30.e30.AA").isSome = true ∧ Contents.ofText? "e30.e30.AB" = none ∧
    Contents.ofText? "e30.e30.AA==" = none ∧ Contents.ofText? "e30.e30.AA." = none := by
  decide

end Validator

end Attest.Token
