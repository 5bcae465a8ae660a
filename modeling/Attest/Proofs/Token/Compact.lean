import Attest.Proofs.Base64
import Attest.Proofs.Json.ReadBack
import Attest.Token.Compact

/-!
# Tokens read back

A token whose segments have no dot is recovered from its text, and a base64url segment
has none.  What a token is made of, its documents and its signature, is recovered from
the segments, and a header that only names an algorithm, a type and a key from its
members.
-/

namespace Attest

/-- A character of base64url: a letter, a digit, a hyphen or an underscore. -/
def Base64.IsUrlSafe (c : Char) : Prop :=
  c.isAlphanum = true ∨ c = '-' ∨ c = '_'

theorem Base64.isUrlSafe_of_mem_encode {octets : Octets} :
    ∀ c ∈ (urlSafe.encode octets).toList, IsUrlSafe c := by
  have symbol : ∀ group < 64, (urlSafe.symbol group).isAlphanum = true ∨
      urlSafe.symbol group = '-' ∨ urlSafe.symbol group = '_' := by decide
  intro c member
  rw [encode, String.toList_ofList, symbols_eq] at member
  rcases List.mem_append.mp member with inGroups | filler
  · obtain ⟨group, small, rfl⟩ := List.mem_map.mp inGroups
    exact symbol group (groups_lt octets group small)
  · simp [padding, urlSafe] at filler

/-- There is no dot in base64url. -/
theorem Base64.dot_notMem_encode (octets : Octets) : '.' ∉ (urlSafe.encode octets).toList := by
  intro member
  have plain := isUrlSafe_of_mem_encode '.' member
  revert plain
  rw [IsUrlSafe]
  decide

namespace Token

/-! ## Headers -/

/-- The header with an algorithm, a type and a key, and nothing else. -/
def Header.naming (algorithm : Algorithm) (typ kid : Option String) : Header :=
  { algorithm, typ, kid }

theorem Header.members_naming (algorithm : Algorithm) (typ kid : Option String) :
    (Header.naming algorithm typ kid).members =
      textMember "typ" typ ++ ("alg", .string algorithm.name) :: textMember "kid" kid := by
  simp [Header.members, Header.naming, textMember, listMember]

theorem Header.nodup_members_naming (algorithm : Algorithm) (typ kid : Option String) :
    (Table.keys (Header.naming algorithm typ kid).members).Nodup := by
  rw [members_naming]
  cases typ <;> cases kid <;> simp [textMember, Table.keys]

/-- The members of such a header read as the header. -/
theorem Header.ofMembers?_members_naming (algorithm : Algorithm) (typ kid : Option String) :
    ofMembers? (Header.naming algorithm typ kid).members =
      some (Header.naming algorithm typ kid) := by
  have distinct := Header.nodup_members_naming algorithm typ kid
  rw [members_naming] at distinct ⊢
  have once : Table.onceEach knownNames _ = true := Table.onceEach_of_nodup distinct
  have noExtras : Table.ofEntries ([] : List (String × String)) = [] := rfl
  cases typ <;> cases kid <;>
    simp_all [ofMembers?, textMember, Table.find?, knownNames, optionalText, optionalTexts,
      optionalKey, algorithmOf?, naming]

namespace Compact

/-! ## Segments -/

/-- No segment has a dot in it. -/
structure Dotless (token : Compact) : Prop where
  header : '.' ∉ token.header.toList
  payload : '.' ∉ token.payload.toList
  signature : '.' ∉ token.signature.toList

theorem toList_text (token : Compact) :
    token.text.toList = token.header.toList ++
      '.' :: (token.payload.toList ++ '.' :: token.signature.toList) := by
  simp [text]

/-- A token without dots in its segments is recovered from its text. -/
theorem ofText?_text {token : Compact} (dotless : token.Dotless) :
    ofText? token.text = some token := by
  have split : token.text.toList.splitOn '.' =
      [token.header.toList, token.payload.toList, token.signature.toList] := by
    rw [toList_text, List.splitOn_append_cons_self_of_not_mem dotless.header,
      List.splitOn_append_cons_self_of_not_mem dotless.payload,
      List.splitOn_eq_singleton dotless.signature]
  simp only [ofText?, split, String.ofList_toList]

/-- A text that splits into segments is the text of these segments. -/
theorem text_of_ofText? {text : String} {token : Compact} (h : ofText? text = some token) :
    token.text = text := by
  rw [ofText?] at h
  split at h
  · next header payload signature split =>
      have joined : ['.'].intercalate (text.toList.splitOn '.') = text.toList :=
        List.intercalate_splitOn '.'
      rw [split] at joined
      cases h
      apply String.toList_inj.mp
      rw [toList_text, ← joined]
      simp [List.intercalate]
  · cases h

/-- The segments of a split text do not contain the separator. -/
theorem notMem_of_mem_splitOn {separator : Char} {chars : List Char} :
    ∀ segment ∈ chars.splitOn separator, separator ∉ segment := by
  induction chars with
  | nil => simp
  | cons c rest ih =>
      rw [List.splitOn_cons_eq_if_modifyHead]
      split
      · intro segment member
        rcases List.mem_cons.mp member with rfl | later
        · exact List.not_mem_nil
        · exact ih segment later
      · next other =>
          obtain ⟨head, tail, split⟩ :=
            List.exists_cons_of_ne_nil (List.splitOn_ne_nil separator rest)
          rw [split] at ih ⊢
          intro segment member
          rcases List.mem_cons.mp member with rfl | later
          · intro inHead
            rcases List.mem_cons.mp inHead with rfl | inRest
            · simp at other
            · exact ih head List.mem_cons_self inRest
          · exact ih segment (List.mem_cons_of_mem _ later)

/-- A text splits into segments exactly when it is the text of these segments and none of
them has a dot in it. -/
theorem ofText?_eq_some_iff {text : String} {token : Compact} :
    ofText? text = some token ↔ token.Dotless ∧ token.text = text := by
  constructor
  · intro segments
    refine ⟨?_, text_of_ofText? segments⟩
    have dotless : ∀ segment ∈ text.toList.splitOn '.', '.' ∉ segment := notMem_of_mem_splitOn
    rw [ofText?] at segments
    split at segments
    · next split =>
        cases segments
        rw [split] at dotless
        simp only [List.forall_mem_cons] at dotless
        constructor
        · simpa using dotless.1
        · simpa using dotless.2.1
        · simpa using dotless.2.2.1
    · cases segments
  · rintro ⟨dotless, rfl⟩
    exact ofText?_text dotless

/-! ## Contents -/

/-- The document of a segment is the document that was written. -/
theorem document?_segment {document : Json} (reads : document.Every Json.NumberReadsBack)
    (shallow : document.nesting ≤ Json.depthLimit) : document? (segment document) = some document := by
  rw [document?, segment, Base64.decode_encode Base64.readable_urlSafe]
  simp only [Except.toOption, Option.bind_eq_bind, Option.bind_some, Octets.toText?_ofText]
  exact Json.read_write reads shallow

theorem header?_of_naming {token : Compact} {algorithm : Algorithm} {typ kid : Option String}
    (written : token.header = segment (.object (Header.naming algorithm typ kid).members)) :
    token.header? = some (Header.naming algorithm typ kid) := by
  have reads : (Json.object (Header.naming algorithm typ kid).members).Every
      Json.NumberReadsBack := by
    rw [Header.members_naming]
    cases typ <;> cases kid <;>
      simp [Header.textMember, Json.Every, Json.EveryMember, Json.NumberReadsBack]
  have shallow : (Json.object (Header.naming algorithm typ kid).members).nesting ≤
      Json.depthLimit := by
    rw [Header.members_naming]
    cases typ <;> cases kid <;>
      simp [Header.textMember, Json.nesting, Json.nestingOfMembers, Json.depthLimit]
  rw [header?, written, document?_segment reads shallow, Option.bind_some, Header.ofJson?,
    Header.ofMembers?_members_naming]

theorem payload?_of_members {token : Compact} {members : List (String × Json)}
    (reads : (Json.object members).Every Json.NumberReadsBack)
    (shallow : (Json.object members).nesting ≤ Json.depthLimit)
    (written : token.payload = segment (.object members)) : token.payload? = some members := by
  rw [payload?, written, document?_segment reads shallow]
  rfl

/-- The signature of a signed token is the signature that was attached. -/
theorem signature?_withSignature (token : Compact) (signature : Octets) :
    (token.withSignature signature).signature? = some signature := by
  rw [signature?, withSignature, Base64.decode_encode Base64.readable_urlSafe]
  rfl

/-- A signed token has no dots in its segments. -/
theorem dotless_withSignature (header : Header) (claims : List (String × Json))
    (signature : Octets) : ((unsigned header claims).withSignature signature).Dotless where
  header := Base64.dot_notMem_encode _
  payload := Base64.dot_notMem_encode _
  signature := Base64.dot_notMem_encode signature

end Compact

end Token

end Attest
