import Attest.Proofs.Json.Extent
import Attest.Proofs.Key.Admission

/-!
# Members of a web key in any order

A web key lists its members.  A key whose names are distinct stays the same key in any order of
its members.  With a further member of an unknown name an RSA key or a symmetric key still stays
the same, but a curve key is refused: it has exactly the members of its kind.
-/

namespace Attest.Key.WebKey

open Json (MemberText OuterMember)

variable {text listing : String} {parts others : List OuterMember}
  {members : List (String × Json)} {material : KeyMaterial}

/-! ## Texts that list members -/

/-- The text is an object of the given texts of members, with blanks around it. -/
def Lists (text : String) (parts : List OuterMember) : Prop :=
  ∃ before after, text.toList = before ++ (Json.objectChars parts ++ after) ∧
    (∀ c ∈ before, Text.isBlank c = true) ∧ ∀ c ∈ after, Text.isBlank c = true

theorem trim_of_lists (lists : Lists text parts) :
    Text.trim text.toList = Json.objectChars parts := by
  obtain ⟨before, after, whole, blankBefore, blankAfter⟩ := lists
  rw [whole, Text.trim_blank_append blankBefore, Json.objectChars, List.cons_append,
    List.append_assoc]
  exact Text.trim_append rfl rfl blankAfter

/-- The members are listed without blanks around them. -/
theorem lists_objectChars (parts : List OuterMember) :
    Lists (String.ofList (Json.objectChars parts)) parts := by
  refine ⟨[], [], ?_, List.forall_mem_nil _, List.forall_mem_nil _⟩
  rw [String.toList_ofList, List.nil_append, List.append_nil]

theorem object?_eq_of_lists (lists : Lists text parts) :
    object? text = if Table.has "kty" (parts.map MemberText.member) then
      some (parts.map MemberText.member) else none := by
  rw [object?, trim_of_lists lists]
  by_cases nonempty : parts = []
  · subst nonempty
    rfl
  · have read := Json.readChars_objectChars nonempty
    rw [Json.objectChars] at read ⊢
    simp only [read]

/-- A text that lists members with a key type is an object of these members. -/
theorem object?_of_lists (lists : Lists text parts)
    (typed : Table.has "kty" (parts.map MemberText.member) = true) :
    object? text = some (parts.map MemberText.member) := by
  rw [object?_eq_of_lists lists, if_pos typed]

theorem members_of_lists (lists : Lists text parts) (object : object? text = some members) :
    parts.map MemberText.member = members ∧ Table.has "kty" members = true := by
  rw [object?_eq_of_lists lists] at object
  split at object
  · next typed =>
      cases object
      exact ⟨rfl, typed⟩
  · cases object

theorem isBlank_of_isSpace {c : Char} (space : Json.isSpace c = true) :
    Text.isBlank c = true := by
  simp only [Json.isSpace, Bool.or_eq_true, beq_iff_eq] at space
  rcases space with ((rfl | rfl) | rfl) | rfl <;> decide

/-- Every web key lists its members. -/
theorem exists_lists_of_object? (object : object? text = some members) :
    ∃ parts, Lists text parts ∧ parts.map MemberText.member = members := by
  rw [object?] at object
  split at object
  · next rest trimmed =>
      split at object
      · next found read =>
          split at object
          · next typed =>
              cases object
              have nonempty : members ≠ [] := by
                rintro rfl
                cases typed
              obtain ⟨parts, blanks, blank, same, whole⟩ :=
                Json.exists_parts_of_readChars read nonempty
              obtain ⟨before, after, spelled, blankBefore, blankAfter⟩ :=
                Text.exists_eq_append_trim_append text.toList
              refine ⟨parts, ⟨before, blanks ++ after, ?_, blankBefore, ?_⟩, same⟩
              · rw [spelled, trimmed, whole]
                simp only [List.append_assoc]
              · exact List.forall_mem_append.mpr
                  ⟨fun c member => isBlank_of_isSpace (blank c member), blankAfter⟩
          · cases object
      · cases object
  · cases object

/-! ## What decoding looks at -/

theorem decode_eq_decodeCurve (object : object? text = some members)
    (family : Table.find? "kty" (Table.ofEntries members) = some (.string "EC")) :
    decode text = decodeCurve members (Table.ofEntries members) := by
  rw [decode, object]
  simp only [member_eq_ok_iff.mpr family]
  rfl

theorem decode_eq_decodeRsa (object : object? text = some members)
    (family : Table.find? "kty" (Table.ofEntries members) = some (.string "RSA")) :
    decode text = decodeRsa (Table.ofEntries members) := by
  rw [decode, object]
  simp only [member_eq_ok_iff.mpr family]
  rfl

/-- The names of the members that keys of some type are made of. -/
def knownNames : List String :=
  ["kty", "crv", "x", "y", "d", "n", "e", "p", "q", "k"]

/-- The same values under the known names. -/
def Agree (members others : List (String × Json)) : Prop :=
  ∀ name ∈ knownNames, Table.find? name members = Table.find? name others

section Agree

variable {key other : List (String × Json)} {name : String}

theorem Agree.member (agree : Agree key other) (known : name ∈ knownNames) :
    WebKey.member key name = WebKey.member other name := by
  rw [WebKey.member, WebKey.member, agree name known]

theorem Agree.octets (agree : Agree key other) (known : name ∈ knownNames) :
    WebKey.octets key name = WebKey.octets other name := by
  rw [WebKey.octets, WebKey.octets, agree.member known]

theorem Agree.number (agree : Agree key other) (known : name ∈ knownNames) :
    WebKey.number key name = WebKey.number other name := by
  rw [WebKey.number, WebKey.number, agree.octets known]

theorem Agree.has (agree : Agree key other) (known : name ∈ knownNames) :
    Table.has name key = Table.has name other := by
  rw [Table.has, Table.has, agree name known]

theorem Agree.coordinate? (agree : Agree key other) (known : name ∈ knownNames) :
    WebKey.coordinate? key name = WebKey.coordinate? other name := by
  rw [WebKey.coordinate?, WebKey.coordinate?, agree name known]

theorem Agree.point? (agree : Agree key other) : WebKey.point? key = WebKey.point? other := by
  rw [WebKey.point?, WebKey.point?, agree.coordinate? (by decide), agree.coordinate? (by decide)]

theorem Agree.decodeRsa (agree : Agree key other) :
    WebKey.decodeRsa key = WebKey.decodeRsa other := by
  have factors : (["d", "p", "q"].all fun name => Table.has name key) =
      ["d", "p", "q"].all fun name => Table.has name other := by
    simp only [List.all_cons, agree.has (show "d" ∈ knownNames by decide),
      agree.has (show "p" ∈ knownNames by decide), agree.has (show "q" ∈ knownNames by decide)]
    rfl
  rw [WebKey.decodeRsa, WebKey.decodeRsa, factors, agree.number (by decide),
    agree.number (by decide), agree.number (by decide), agree.number (by decide),
    agree.number (by decide)]

theorem Agree.decodeSymmetric (agree : Agree key other) :
    WebKey.decodeSymmetric key = WebKey.decodeSymmetric other := by
  rw [WebKey.decodeSymmetric, WebKey.decodeSymmetric, agree.octets (by decide)]

theorem Agree.decodeCurve (agree : Agree key other)
    (exactly : ∀ names, hasExactly names key = hasExactly names other) :
    WebKey.decodeCurve key key = WebKey.decodeCurve other other := by
  have curvePublic : curvePublic? key = curvePublic? other := by
    rw [curvePublic?, curvePublic?, exactly, agree.point?]
  have curvePrivate : curvePrivate? key = curvePrivate? other := by
    rw [curvePrivate?, curvePrivate?, exactly, agree.point?, agree.coordinate? (by decide)]
  rw [WebKey.decodeCurve, WebKey.decodeCurve, curvePublic, curvePrivate,
    agree.member (by decide), agree.has (by decide)]

/-- Keys that agree are decoded alike, unless they are curve keys. -/
theorem Agree.decode {first second : String} (agree : Agree members key)
    (object : object? first = some members) (otherObject : object? second = some key)
    (distinct : (Table.keys members).Nodup) (otherDistinct : (Table.keys key).Nodup)
    (curve : Table.find? "kty" members = some (.string "EC") →
      WebKey.decodeCurve members members = WebKey.decodeCurve key key) :
    WebKey.decode first = WebKey.decode second := by
  rw [WebKey.decode, WebKey.decode, object, otherObject]
  simp only [Table.ofEntries_eq_self distinct, Table.ofEntries_eq_self otherDistinct,
    ← agree.member (show "kty" ∈ knownNames by decide), ← agree.decodeRsa,
    ← agree.decodeSymmetric]
  cases typed : WebKey.member members "kty" with
  | error failure => rfl
  | ok family =>
      simp only [bind, Except.bind]
      split
      · exact curve (member_eq_ok_iff.mp typed)
      all_goals rfl

end Agree

/-! ## Other orders and further members -/

theorem hasExactly_of_perm {others : List (String × Json)}
    (distinct : (Table.keys members).Nodup) (rearranged : others.Perm members)
    (names : List String) : hasExactly names others = hasExactly names members := by
  have otherDistinct := (Table.keys_perm rearranged).nodup_iff.mpr distinct
  have found : ∀ name, Table.has name others = Table.has name members := fun name => by
    rw [Table.has, Table.has, Table.find?_of_perm name distinct rearranged]
  rw [hasExactly, hasExactly, Table.keysDistinct_iff.mpr distinct,
    Table.keysDistinct_iff.mpr otherDistinct, rearranged.all_eq]
  simp only [found]

/-- Members in another order are the same key. -/
theorem decode_of_perm {others : List (String × Json)} (object : object? text = some members)
    (listed : object? listing = some others) (distinct : (Table.keys members).Nodup)
    (rearranged : others.Perm members) : decode listing = decode text := by
  have otherDistinct := (Table.keys_perm rearranged).nodup_iff.mpr distinct
  have agree : Agree others members := fun name _ => Table.find?_of_perm name distinct rearranged
  exact agree.decode listed object otherDistinct distinct fun _ =>
    agree.decodeCurve (hasExactly_of_perm distinct rearranged)

theorem agree_cons {extra : String × Json} (members : List (String × Json))
    (unknown : extra.1 ∉ knownNames) :
    Agree (extra :: members) members := by
  intro name known
  have other : extra.1 ≠ name := by
    rintro rfl
    exact unknown known
  exact if_neg other

/-- A further member does not change a key that is no curve key. -/
theorem decode_of_further_member {extra : String × Json} (object : object? text = some members)
    (listed : object? listing = some (extra :: members)) (distinct : (Table.keys members).Nodup)
    (fresh : extra.1 ∉ Table.keys members) (unknown : extra.1 ∉ knownNames)
    (family : Table.find? "kty" members ≠ some (.string "EC")) :
    decode listing = decode text := by
  have agree := agree_cons members unknown
  have otherDistinct : (Table.keys (extra :: members)).Nodup :=
    List.nodup_cons.mpr ⟨fresh, distinct⟩
  refine agree.decode listed object otherDistinct distinct fun typed => ?_
  rw [agree "kty" (by decide)] at typed
  exact absurd typed family

/-- The message about a curve key that is refused for its members. -/
def curveRefusal (members : List (String × Json)) : String :=
  if Table.has "d" members then "Invalid EC private JWK: crypto error"
  else "Invalid EC public JWK: crypto error"

/-- A curve key with a further member is refused. -/
theorem decode_of_further_curve_member {extra : String × Json}
    (listed : object? listing = some (extra :: members)) (distinct : (Table.keys members).Nodup)
    (fresh : extra.1 ∉ Table.keys members) (unknown : extra.1 ∉ knownNames)
    (family : Table.find? "kty" members = some (.string "EC"))
    (curve : Table.find? "crv" members = some (.string "P-256")) :
    decode listing = .error (.parse (curveRefusal members)) := by
  have agree := agree_cons members unknown
  have otherDistinct : (Table.keys (extra :: members)).Nodup :=
    List.nodup_cons.mpr ⟨fresh, distinct⟩
  have refused : ∀ names, (∀ name ∈ names, name ∈ knownNames) →
      hasExactly names (extra :: members) = false := by
    intro names known
    have missing : names.contains extra.1 = false := by
      rw [List.contains_eq_mem, decide_eq_false_iff_not]
      exact fun member => unknown (known _ member)
    rw [hasExactly, List.all_cons, missing, Bool.false_and, Bool.and_false, Bool.false_and]
  have typed : Table.find? "kty" (Table.ofEntries (extra :: members)) = some (.string "EC") := by
    rw [Table.ofEntries_eq_self otherDistinct, agree "kty" (by decide), family]
  have named : member (extra :: members) "crv" = .ok "P-256" := by
    rw [agree.member (by decide), member_eq_ok_iff.mpr curve]
  rw [decode_eq_decodeCurve listed typed, Table.ofEntries_eq_self otherDistinct]
  rw [decodeCurve, named, curvePrivate?, curvePublic?, refused _ (by decide),
    refused _ (by decide), agree.has (by decide), curveRefusal]
  cases Table.has "d" members <;> rfl

/-- A decoded curve key is one of the curve P-256. -/
theorem curve_of_decode (decoded : decode text = .ok material)
    (object : object? text = some members) (distinct : (Table.keys members).Nodup)
    (family : Table.find? "kty" members = some (.string "EC")) :
    Table.find? "crv" members = some (.string "P-256") := by
  rw [← Table.ofEntries_eq_self distinct] at family
  rw [decode_eq_decodeCurve object family] at decoded
  obtain ⟨curve, named, decoded⟩ := bind_eq_ok_iff.mp decoded
  rw [member_eq_ok_iff, Table.ofEntries_eq_self distinct] at named
  by_cases same : curve = "P-256"
  · rw [named, same]
  · rw [if_pos same] at decoded
    cases decoded

/-- Every accepted web key with distinct names lists texts of members.  In whatever order these
are listed, it is the same key.  With one further member of an unknown name among them, at
whatever place, it is the same key if it is no curve key, and is refused if it is one. -/
theorem decode_of_rearranged (decoded : decode text = .ok material)
    (object : object? text = some members) (distinct : (Table.keys members).Nodup) :
    (∃ parts, Lists text parts) ∧ ∀ {parts : List OuterMember}, Lists text parts →
      (∀ {others listing}, others.Perm parts → Lists listing others →
        decode listing = .ok material) ∧
      ∀ {extra : OuterMember} {others listing}, extra.name ∉ Table.keys members →
        extra.name ∉ knownNames → others.Perm (extra :: parts) → Lists listing others →
          (Table.find? "kty" members ≠ some (.string "EC") → decode listing = .ok material) ∧
          (Table.find? "kty" members = some (.string "EC") →
            decode listing = .error (.parse (curveRefusal members))) := by
  refine ⟨(exists_lists_of_object? object).imp fun _ lists => lists.1, ?_⟩
  intro parts lists
  obtain ⟨rfl, typed⟩ := members_of_lists lists object
  refine ⟨?order, ?extended⟩
  case order =>
    intro others listing rearranged listsOthers
    have perm := rearranged.map MemberText.member
    rw [← decoded]
    refine decode_of_perm object (object?_of_lists listsOthers ?_) distinct perm
    rw [Table.has, Table.find?_of_perm "kty" distinct perm]
    exact typed
  case extended =>
    intro extra others listing fresh unknown rearranged listsOthers
    have agree : Agree (extra.member :: parts.map MemberText.member)
        (parts.map MemberText.member) := agree_cons _ unknown
    have first : object? (String.ofList (Json.objectChars (extra :: parts))) =
        some (extra.member :: parts.map MemberText.member) := by
      refine object?_of_lists (lists_objectChars _) ?_
      rw [List.map_cons, agree.has (by decide)]
      exact typed
    have otherDistinct : (Table.keys (extra.member :: parts.map MemberText.member)).Nodup :=
      List.nodup_cons.mpr ⟨fresh, distinct⟩
    have perm := rearranged.map MemberText.member
    have listed : object? listing = some (others.map MemberText.member) := by
      refine object?_of_lists listsOthers ?_
      rw [Table.has, Table.find?_of_perm "kty" otherDistinct perm, agree "kty" (by decide)]
      exact typed
    rw [decode_of_perm first listed otherDistinct perm]
    refine ⟨fun family => ?_, fun family => ?_⟩
    · rw [decode_of_further_member object first distinct fresh unknown family, decoded]
    · exact decode_of_further_curve_member first distinct fresh unknown family
        (curve_of_decode decoded object distinct family)

/-- The member with a text under a name. -/
def textMember (name value : String) : OuterMember :=
  .written name (.string value) trivial (Nat.zero_le _)

/-- A small RSA key with its members in another order and a key ID among them. -/
theorem decode_of_rearranged_sample :
    let text := "\x7b\"kty\":\"RSA\",\"n\":\"Nw\",\"e\":\"Aw\"\x7d"
    let swapped := " \x7b\"e\":\"Aw\",\"n\":\"Nw\",\"kty\":\"RSA\"\x7d\n"
    let extended := "\x7b\"n\":\"Nw\",\"kid\":\"1\",\"kty\":\"RSA\",\"e\":\"Aw\"\x7d"
    let key : KeyMaterial := .publicKey (.rsa ⟨55, 3⟩)
    decode text = .ok key ∧ decode swapped = .ok key ∧ decode extended = .ok key := by
  intro text swapped extended key
  let kty := textMember "kty" "RSA"
  let n := textMember "n" "Nw"
  let e := textMember "e" "Aw"
  let kid := textMember "kid" "1"
  have decoded : decode text = .ok key := toOption_eq_some_iff.mp (by decide +kernel)
  have lists : Lists text [kty, n, e] :=
    ⟨[], [], by decide +kernel, List.forall_mem_nil _, List.forall_mem_nil _⟩
  have listsSwapped : Lists swapped [e, n, kty] :=
    ⟨[' '], ['\n'], by decide +kernel, List.forall_mem_singleton.mpr rfl,
      List.forall_mem_singleton.mpr rfl⟩
  have listsExtended : Lists extended [n, kid, kty, e] :=
    ⟨[], [], by decide +kernel, List.forall_mem_nil _, List.forall_mem_nil _⟩
  have object : object? text = some ([kty, n, e].map MemberText.member) :=
    object?_of_lists lists rfl
  obtain ⟨order, further⟩ := (decode_of_rearranged decoded object (by decide)).2 lists
  have rearranged : [n, kid, kty, e].Perm (kid :: [kty, n, e]) :=
    (List.Perm.swap kid n [kty, e]).trans ((List.Perm.swap kty n [e]).cons kid)
  have fresh : kid.name ∉ Table.keys ([kty, n, e].map MemberText.member) := by decide
  have unknown : kid.name ∉ knownNames := by decide
  exact ⟨decoded, order (List.reverse_perm [kty, n, e]) listsSwapped,
    (further fresh unknown rearranged listsExtended).1 fun same =>
      absurd (Json.string.inj (Option.some.inj same)) (by decide)⟩

/-- The generator of the curve is accepted as a curve key, and refused with a key ID. -/
theorem further_member_of_curve_key_refused :
    let parts := [textMember "kty" "EC", textMember "crv" "P-256",
      textMember "x" "axfR8uEsQkf4vOblY6RA8ncDfYEt6zOg9KE5RdiYwpY",
      textMember "y" "T-NC4v4af5uO5-tKfA-eFivOM1drMV7Oy7ZAaDe_UfU"]
    let text := "\x7b\"kty\":\"EC\",\"crv\":\"P-256\"," ++
      "\"x\":\"axfR8uEsQkf4vOblY6RA8ncDfYEt6zOg9KE5RdiYwpY\"," ++
      "\"y\":\"T-NC4v4af5uO5-tKfA-eFivOM1drMV7Oy7ZAaDe_UfU\"\x7d"
    let extended := "\x7b\"kty\":\"EC\",\"crv\":\"P-256\"," ++
      "\"x\":\"axfR8uEsQkf4vOblY6RA8ncDfYEt6zOg9KE5RdiYwpY\"," ++
      "\"y\":\"T-NC4v4af5uO5-tKfA-eFivOM1drMV7Oy7ZAaDe_UfU\",\"kid\":\"1\"\x7d"
    Lists text parts ∧ Lists extended (parts ++ [textMember "kid" "1"]) ∧
      decode text = .ok (.publicKey (.p256 P256.generator)) ∧
      decode extended = .error (.parse "Invalid EC public JWK: crypto error") := by
  intro parts text extended
  refine ⟨⟨[], [], by decide +kernel, List.forall_mem_nil _, List.forall_mem_nil _⟩,
    ⟨[], [], by decide +kernel, List.forall_mem_nil _, List.forall_mem_nil _⟩, ?_, ?_⟩
  · exact toOption_eq_some_iff.mp (by decide +kernel)
  · decide +kernel

end Attest.Key.WebKey
