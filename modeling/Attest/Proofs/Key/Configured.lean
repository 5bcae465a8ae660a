import Attest.Config.File
import Attest.Proofs.Config
import Attest.Proofs.Key.Resolver
import Attest.Proofs.Key.WebKey

/-!
# Keys in a configuration

The texts of keys may stand in a document under their identifiers.  Read as a configuration it gives
for every identifier what the plain table of them gives exactly when the identifiers are flat; then
each key is found, and stands in where a source fails.  An identifier with a character that no path
has, such as the number sign of a key in a document of a decentralised identifier, is found in no
configuration.
-/

namespace Attest.Key

open Config (textLayer Flat)

variable {entries : Table String} {id text : String}

/-! ## Documents of texts -/

theorem textual_textLayer (entries : List (String × String)) :
    WebKey.Textual (textLayer entries) := by
  intro member inside
  obtain ⟨entry, -, rfl⟩ := List.mem_map.mp inside
  exact ⟨entry.2, rfl⟩

theorem keys_textLayer (entries : List (String × String)) :
    Table.keys (textLayer entries) = Table.keys entries := by
  rw [Table.keys, textLayer, List.map_map]
  rfl

/-- Texts under distinct keys can be written as a document. -/
theorem parse_write_textLayer (distinct : (Table.keys entries).Nodup) :
    Json.parse (Json.write (.object (textLayer entries))) = some (.object (textLayer entries)) := by
  have textual := textual_textLayer entries
  have shallow : Json.nesting (.object (textLayer entries)) ≤ Json.depthLimit := by
    rw [Json.nesting, WebKey.nestingOfMembers_of_textual textual]
    decide
  have wellFormed : (Json.object (textLayer entries)).WellFormed := by
    refine Json.wellFormed_object_iff.mpr ⟨(keys_textLayer entries).symm ▸ distinct, ?_⟩
    intro member inside
    obtain ⟨text, value⟩ := textual member inside
    rw [value]
    trivial
  rw [Json.parse, Json.read_write (WebKey.reads_of_textual textual) shallow, Option.map_some,
    Json.settle_of_wellFormed wellFormed]

theorem ofJsonText?_of_parse {document : String} {members : List (String × Json)}
    (parsed : Json.parse document = some (.object members)) :
    Config.ofJsonText? document = some (Config.empty.overlay members) := by
  rw [Config.ofJsonText?, Config.Format.parse?, parsed]
  rfl

/-! ## Keys by their identifiers -/

/-- How a configuration treats the texts of keys that were written to it. -/
structure Serves (entries : Table String) (config : Config) : Prop where
  /-- It gives for every identifier what the table gives exactly when the identifiers are flat. -/
  agrees_iff : (∀ id, config.text? id = Table.find? id entries) ↔ Flat (Table.keys entries)
  /-- Then every key is found by its identifier. -/
  found : Flat (Table.keys entries) → ∀ id text, (id, text) ∈ entries →
    Source.ofConfiguration config.text? id = .ok text
  /-- And it is taken for a private key whose source fails. -/
  replaced : Flat (Table.keys entries) → ∀ id text, (id, text) ∈ entries →
    ∀ source registry failure, source id = .error failure →
      PrivateResolver.ofSource source config.text? registry id =
        PrivateResolver.answer (registry.decode text)
  /-- An identifier with a character of no path is not found, whatever was written under it. -/
  lost : ∀ id, (∃ c ∈ id.toList, Config.Path.isPathChar c = false) →
    Source.ofConfiguration config.text? id = .error (Source.notInConfiguration id) ∧
      ∀ source registry failure, source id = .error failure →
        PrivateResolver.ofSource source config.text? registry id =
          .error (PrivateResolver.notFound id)

theorem serves_overlay (distinct : (Table.keys entries).Nodup) :
    Serves entries (Config.empty.overlay (textLayer entries)) := by
  have given : Flat (Table.keys entries) → ∀ id text, (id, text) ∈ entries →
      (Config.empty.overlay (textLayer entries)).text? id = some text :=
    fun flat id text inside => Config.text?_overlay_of_mem flat distinct inside Config.empty
  constructor
  case agrees_iff => exact Config.agrees_iff_flat distinct
  case found =>
    intro flat id text inside
    rw [Source.ofConfiguration, given flat id text inside]
  case replaced =>
    intro flat id text inside source registry failure fails
    exact PrivateResolver.ofSource_of_supplies (.configuration fails (given flat id text inside))
  case lost =>
    rintro id ⟨c, inside, other⟩
    have nothing : (Config.empty.overlay (textLayer entries)).text? id = none :=
      Config.text?_eq_none _ inside other
    refine ⟨?_, ?_⟩
    · rw [Source.ofConfiguration, nothing]
    · intro source registry failure fails
      exact PrivateResolver.ofSource_of_nothing fails nothing

/-- A table of texts can be written as a document, and every document of it is a configuration that
agrees with the table on all identifiers exactly when these are flat. -/
theorem serves_of_document {entries : Table String} (distinct : (Table.keys entries).Nodup) :
    (∃ document, Json.parse document = some (.object (textLayer entries))) ∧
      ∀ document, Json.parse document = some (.object (textLayer entries)) →
        ∃ config, Config.ofJsonText? document = some config ∧ Serves entries config := by
  refine ⟨⟨_, parse_write_textLayer distinct⟩, ?_⟩
  intro document parsed
  exact ⟨_, ofJsonText?_of_parse parsed, serves_overlay distinct⟩

theorem serves_of_document_sample :
    (Table.keys [("signing-key", "first"), ("sts.alias", "second")]).Nodup ∧
      ∃ config, Config.ofJsonText? "\x7b\"signing-key\":\"first\",\"sts.alias\":\"second\"\x7d" =
          some config ∧
        config.text? "sts" = none ∧
        Source.ofConfiguration config.text? "sts.alias" = .ok "second" := by
  have distinct : (Table.keys [("signing-key", "first"), ("sts.alias", "second")]).Nodup := by
    decide
  have flat : Flat (Table.keys [("signing-key", "first"), ("sts.alias", "second")]) := by
    decide
  have written :
      Json.write (.object (textLayer [("signing-key", "first"), ("sts.alias", "second")])) =
        "\x7b\"signing-key\":\"first\",\"sts.alias\":\"second\"\x7d" := by
    decide +kernel
  have parsed := parse_write_textLayer distinct
  rw [written] at parsed
  obtain ⟨config, made, serves⟩ := (serves_of_document distinct).2 _ parsed
  refine ⟨distinct, config, made, ?_, serves.found flat _ _ (by decide)⟩
  rw [serves.agrees_iff.mpr flat]
  rfl

/-- The key of a document of a decentralised identifier is not found where it stands. -/
theorem lost_under_number_sign :
    Table.find? "did:web:demo.example#key-1" [("did:web:demo.example#key-1", "pem")] =
        some "pem" ∧
      ∃ config, Config.ofJsonText? "\x7b\"did:web:demo.example#key-1\":\"pem\"\x7d" = some config ∧
        config.text? "did:web:demo.example#key-1" = none ∧
        Source.ofConfiguration config.text? "did:web:demo.example#key-1" =
          .error (.resolution "No config entry for key 'did:web:demo.example#key-1'") := by
  have written : Json.write (.object (textLayer [("did:web:demo.example#key-1", "pem")])) =
      "\x7b\"did:web:demo.example#key-1\":\"pem\"\x7d" := by
    decide +kernel
  have distinct : (Table.keys [("did:web:demo.example#key-1", "pem")]).Nodup := by decide
  have parsed := parse_write_textLayer distinct
  rw [written] at parsed
  have sign : '#' ∈ "did:web:demo.example#key-1".toList := by decide
  have nothing := fun config => Config.text?_eq_none config sign rfl
  refine ⟨rfl, _, ofJsonText?_of_parse parsed, nothing _, ?_⟩
  rw [Source.ofConfiguration, nothing]
  decide

end Attest.Key
