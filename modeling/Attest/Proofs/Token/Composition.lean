import Attest.Proofs.Token.Lifetime
import Mathlib.Data.List.Induction

/-!
# Claims that are set one after the other

Decorators set claims one after the other.  A claim has the value that it was given last, at the
place where it was set first, so the claims of a token are determined by what was set, and in which
order.  An issuer sets its own claims last: the caller may claim what it likes, the times, the
audience and the identifier are those of the issuer.
-/

namespace Attest

/-! ## Tables that are set several times -/

namespace Table

variable {α : Type} {settings : List (List (String × α))} {table : Table α}

/-- A table that was set several times, each time with a list of entries. -/
structure Composed (settings : List (List (String × α))) (table : Table α) : Prop where
  /-- Each key stands where it was first set, and no key that was not set is there. -/
  keys_eq : keys table = (settings.flatMap keys).eraseDups
  /-- No key is there twice. -/
  nodup : (keys table).Nodup
  /-- A key has the value of the last list that sets it. -/
  mem_iff : ∀ key value, (key, value) ∈ table ↔
    ∃ earlier setting later, settings = earlier ++ setting :: later ∧
      find? key setting.reverse = some value ∧ ∀ other ∈ later, key ∉ keys other

/-- One more entry goes to the end, unless its key is there already. -/
theorem keys_ofEntries (entries : List (String × α)) :
    keys (ofEntries entries) = (keys entries).eraseDups := by
  induction entries using List.reverseRecOn with
  | nil => rfl
  | append_singleton entries entry ih =>
      obtain ⟨key, value⟩ := entry
      rw [ofEntries, insertAll_append, ← ofEntries, insertAll_cons, insertAll_nil, keys_insert, ih,
        keys_append, List.eraseDups_append]
      by_cases known : key ∈ keys entries
      · simp [known, List.removeAll]
      · simp [known, List.removeAll, List.eraseDups_cons]

theorem keys_flatten (settings : List (List (String × α))) :
    keys settings.flatten = settings.flatMap keys := by
  rw [keys, List.map_flatten, List.flatMap_def]
  rfl

/-- Looking from the end finds the last list with the key. -/
theorem find?_reverse_flatten (key : String) (settings : List (List (String × α))) :
    find? key settings.flatten.reverse =
      settings.reverse.findSome? fun setting => find? key setting.reverse := by
  induction settings with
  | nil => rfl
  | cons setting rest ih =>
      rw [List.flatten_cons, List.reverse_append, find?_append, ih, List.reverse_cons,
        List.findSome?_append, List.findSome?_singleton]

theorem find?_reverse_eq_none_iff {key : String} {entries : List (String × α)} :
    find? key entries.reverse = none ↔ key ∉ keys entries := by
  rw [find?_eq_none_iff, keys, List.map_reverse, List.mem_reverse]
  rfl

/-- Entries that are written list after list make a composed table. -/
theorem composed_ofEntries (settings : List (List (String × α))) :
    Composed settings (ofEntries settings.flatten) where
  keys_eq := by rw [keys_ofEntries, keys_flatten]
  nodup := nodup_keys_ofEntries _
  mem_iff key value := by
    rw [← find?_eq_some_iff_mem (nodup_keys_ofEntries _), find?_ofEntries, find?_reverse_flatten,
      List.findSome?_eq_some_iff]
    simp only [find?_reverse_eq_none_iff]
    constructor
    · rintro ⟨later, setting, earlier, split, found, unset⟩
      refine ⟨earlier.reverse, setting, later.reverse, ?_, found, ?_⟩
      · rw [← List.reverse_reverse settings, split]
        simp
      · simpa using unset
    · rintro ⟨earlier, setting, later, rfl, found, unset⟩
      refine ⟨later.reverse, setting, earlier.reverse, by simp, found, ?_⟩
      simpa using unset

end Table

namespace Token

variable {scheme : SignatureScheme} {key : PrivateKey} {token : Compact}

/-! ## Decorators -/

/-- A decorator with what it is made of. -/
inductive Decorator where
  | claims (members : List (String × Json))
  | standard (issued expires : Instant) (audience identifier : String)
  | keyId (identifier : String)

namespace Decorator

/-- What the decorator does to a draft. -/
def decoration : Decorator → Decoration
  | .claims members => Decoration.claims members
  | .standard issued expires audience identifier =>
      Decoration.standard issued expires audience identifier
  | .keyId identifier => Decoration.keyId identifier

/-- The claims that it sets. -/
def members : Decorator → List (String × Json)
  | .claims members => members
  | .standard issued expires audience identifier =>
      Decoration.standardMembers issued expires audience identifier
  | .keyId _ => []

theorem claims_decoration (decorator : Decorator) (draft : Draft) :
    (decorator.decoration draft).claims = Table.insertAll draft.claims decorator.members := by
  cases decorator with
  | claims members => rfl
  | standard issued expires audience identifier => rfl
  | keyId identifier => rfl

end Decorator

/-- Decorators set their claims one after the other. -/
theorem Draft.claims_decorated (key : PrivateKey) (decorators : List Decorator) :
    (Draft.decorated key (decorators.map Decorator.decoration)).claims =
      Table.ofEntries (decorators.map Decorator.members).flatten := by
  -- The run may start from any draft, so that the induction can go on from the next.
  suffices ∀ draft : Draft, ((decorators.map Decorator.decoration).foldl
      (fun draft decoration => decoration draft) draft).claims =
        Table.insertAll draft.claims (decorators.map Decorator.members).flatten from
    this (Draft.start key)
  induction decorators with
  | nil => exact fun draft => rfl
  | cons decorator rest ih =>
      intro draft
      rw [List.map_cons, List.foldl_cons, ih, decorator.claims_decoration, List.map_cons,
        List.flatten_cons, Table.insertAll_append]

/-- The payload of a generated token states the claims of its draft. -/
theorem payload_of_generate_eq_ok {decorations : List Decoration}
    (generated : generate scheme key decorations = .ok token) :
    token.payload = Compact.segment (.object (Draft.decorated key decorations).claims) := by
  obtain ⟨signature, rfl, -⟩ :=
    Draft.exists_signature_of_sign_eq_ok (sign_of_generate_eq_ok generated)
  rfl

/-- The header of a token that is generated with it names the key. -/
theorem header?_of_generate_eq_ok {decorations : List Decoration} {draft : Draft}
    {algorithm : Algorithm} {typ kid : Option String}
    (generated : generate scheme key decorations = .ok token)
    (decorated : Draft.decorated key decorations = draft)
    (plain : draft.header = .naming algorithm typ kid) :
    token.header? = some (.naming algorithm typ kid) := by
  obtain ⟨signature, rfl, -⟩ :=
    Draft.exists_signature_of_sign_eq_ok (sign_of_generate_eq_ok generated)
  rw [decorated, plain]
  exact Compact.header?_of_naming rfl

/-! ## Issued tokens -/

namespace Issuer

variable {issuer : Issuer} {supplies : Supplies} {claims : List (String × Json)}
  {audience : String}

/-- What an issued token states: a payload with claims of the caller and of the issuer, and a
header. -/
structure States (supplies : Supplies) (expires : Instant) (keyId : String)
    (claims : List (String × Json)) (audience : String) (members : Table Json)
    (token : Compact) : Prop where
  payload : token.payload = Compact.segment (.object members)
  /-- The issuer sets its claims after those of the caller. -/
  composed : Table.Composed
    [claims, Decoration.standardMembers supplies.now expires audience (Uuid.text supplies.random)]
    members
  issuedAt : Table.find? "iat" members = some (.int supplies.now.seconds)
  expiresAt : Table.find? "exp" members = some (.int expires.seconds)
  audience : Table.find? "aud" members = some (.string audience)
  identifier : Table.find? "jti" members = some (.string (Uuid.text supplies.random))
  /-- All other claims are those of the caller, the last where a name is repeated. -/
  others : ∀ name, name ∉ ["iat", "exp", "aud", "jti"] →
    Table.find? name members = Table.find? name claims.reverse
  header : ∃ header, token.header? = some header ∧ header.kid = some keyId

theorem issuedMembers_eq (issued expires : Instant) (random : Octets)
    (claims : List (String × Json)) (audience : String) :
    issuedMembers issued expires random claims audience =
      Table.ofEntries [claims,
        Decoration.standardMembers issued expires audience (Uuid.text random)].flatten := by
  rw [List.flatten_cons, List.flatten_singleton, Table.ofEntries, Table.insertAll_append]
  rfl

/-- Only the four standard claims are set by the issuer. -/
theorem find?_issuedMembers_of_notMem {issued expires : Instant} {random : Octets} {name : String}
    (other : name ∉ ["iat", "exp", "aud", "jti"]) :
    Table.find? name (issuedMembers issued expires random claims audience) =
      Table.find? name claims.reverse := by
  have unset : Table.find? name (Decoration.standardMembers issued expires audience
      (Uuid.text random)).reverse = none :=
    Table.find?_reverse_eq_none_iff.mpr other
  rw [issuedMembers, Table.find?_insertAll, unset, Option.none_or, Table.find?_ofEntries]

/-- What is issued is what the caller claims, replaced by what the issuer does. -/
theorem exists_states_of_issue_eq_ok (issued : issuer.issue supplies claims audience = .ok token) :
    ∃ expires keyId members, supplies.now.add? issuer.lifetime = some expires ∧
      supplies.keyId = some keyId ∧
      States supplies expires keyId claims audience members token := by
  obtain ⟨key, keyId, expires, -, named, later, generated⟩ := generate_of_issue_eq_ok issued
  have decorated := decorated_decorations key supplies.now expires supplies.random keyId claims
    audience
  have stated := payload_of_generate_eq_ok generated
  rw [decorated] at stated
  refine ⟨expires, keyId, issuedMembers supplies.now expires supplies.random claims audience,
    later, named, ?_⟩
  constructor
  case payload => exact stated
  case composed =>
    rw [issuedMembers_eq]
    exact Table.composed_ofEntries _
  case others => exact fun name => find?_issuedMembers_of_notMem
  case header => exact ⟨_, header?_of_generate_eq_ok generated decorated rfl, rfl⟩
  -- The standard claims are written last, so they are found before those of the caller.
  all_goals
    rw [issuedMembers, Table.find?_insertAll]
    rfl

end Issuer

/-! ## Generated and issued tokens -/

/-- The payload of every generated token is composed of the claims that its decorators set, and no
claim of a caller replaces one of the issuer. -/
theorem payload_composed (scheme : SignatureScheme) (token : Compact) :
    (∀ key (decorators : List Decorator),
      generate scheme key (decorators.map Decorator.decoration) = .ok token →
        ∃ members, token.payload = Compact.segment (.object members) ∧
          Table.Composed (decorators.map Decorator.members) members) ∧
    (∀ lifetime supplies claims audience,
      Issuer.issue ⟨lifetime, scheme⟩ supplies claims audience = .ok token →
        ∃ expires keyId members, supplies.now.add? lifetime = some expires ∧
          supplies.keyId = some keyId ∧
          Issuer.States supplies expires keyId claims audience members token) := by
  constructor
  · intro key decorators generated
    have stated := payload_of_generate_eq_ok generated
    rw [Draft.claims_decorated] at stated
    exact ⟨_, stated, Table.composed_ofEntries _⟩
  · intro lifetime supplies claims audience issued
    exact Issuer.exists_states_of_issue_eq_ok issued

/-- A claim that is set again keeps its place, and an issuer replaces what a caller claims about
its times. -/
theorem payload_composed_sample :
    let decorators : List Decorator := [.claims [("iss", .string "a"), ("aud", .string "caller")],
      .keyId "k", .claims [("sub", .null), ("aud", .string "decorated")]]
    let claims := [("exp", Json.null), ("sub", .string "alice"), ("iat", .string "never")]
    (∃ scheme token members,
      generate scheme (.p256 Sample.key) (decorators.map Decorator.decoration) = .ok token ∧
        token.payload = Compact.segment (.object members) ∧
        Table.keys members = ["iss", "aud", "sub"] ∧ ("aud", .string "decorated") ∈ members) ∧
    (∃ scheme token members,
      Issuer.issue ⟨Duration.fiveMinutes, scheme⟩ Sample.supplies claims "bob" = .ok token ∧
        token.payload = Compact.segment (.object members) ∧
        Table.keys members = ["exp", "sub", "iat", "aud", "jti"] ∧
        Table.find? "exp" members = some (.int 300) ∧
        Table.find? "sub" members = some (.string "alice")) := by
  intro decorators claims
  constructor
  · let draft := Draft.decorated (.p256 Sample.key) (decorators.map Decorator.decoration)
    have generated : generate (Sample.schemeOf draft []) (.p256 Sample.key)
        (decorators.map Decorator.decoration) = .ok _ :=
      (generate_p256 _ _ _).trans (Sample.sign_eq_ok rfl [])
    obtain ⟨members, stated, composed⟩ := (payload_composed _ _).1 _ decorators generated
    refine ⟨_, _, members, generated, stated, ?_, ?_⟩
    · rw [composed.keys_eq]
      decide
    · rw [composed.mem_iff]
      exact ⟨[_, _], _, [], rfl, rfl, by simp⟩
  · have later : Instant.epoch.add? Duration.fiveMinutes =
        some ⟨300 * nanosPerSecond, by decide⟩ :=
      Instant.ofNanoseconds?_eq_some_iff.mpr rfl
    let draft := Draft.decorated (.p256 Sample.key) (Issuer.decorations Instant.epoch
      ⟨300 * nanosPerSecond, by decide⟩ Sample.supplies.random "k" claims "bob")
    have issued : Issuer.issue ⟨Duration.fiveMinutes, Sample.schemeOf draft []⟩ Sample.supplies
        claims "bob" = .ok _ :=
      (Issuer.issue_of_supplied rfl rfl later claims "bob").trans
        ((generate_p256 _ _ _).trans (Sample.sign_eq_ok rfl []))
    obtain ⟨expires, keyId, members, later', -, states⟩ := (payload_composed _ _).2 _ _ _ _ issued
    cases later.symm.trans later'
    refine ⟨_, _, members, issued, states.payload, ?_, states.expiresAt, ?_⟩
    · rw [states.composed.keys_eq]
      decide
    · exact states.others "sub" (by decide)

end Token

end Attest
