import Attest.Failure
import Attest.Json.Outline
import Attest.Json.Record
import Attest.Json.Writer

/-!
# Documents of decentralised identifiers

A document lists the methods by which its subject can be verified.  A method is
named either by its whole address or by the fragment alone, and carries a key as a
JSON web key, as armoured text, or not at all.  An address is an identifier and a
fragment, joined by the first hash sign.  The lookup is written for a resolver that acts,
in whatever monad; a resolver that does nothing but return is the case of no effects.
-/

namespace Attest.Did

/-- A method by which a subject can be verified. -/
structure Method where
  /-- The whole address, or a hash sign and the fragment. -/
  id : String
  /-- The type of the method. -/
  type : String := ""
  /-- Who controls the method. -/
  controller : String := ""
  /-- The key as a JSON web key. -/
  webKey : Option Json := none
  /-- The key as armoured text. -/
  armoured : Option String := none
  deriving Repr, Inhabited

/-- What a document says about the keys of its subject. -/
structure Document where
  /-- The subject. -/
  id : String
  methods : List Method := []
  deriving Repr, Inhabited

/-! ## Reading and writing -/

namespace Method

/-- The members of a method in JSON. -/
def fields : List String :=
  ["id", "type", "controller", "publicKeyJwk", "publicKeyPem"]

/-- Read a method. -/
def ofJson? (document : Json) : Option Method := do
  let members ← Json.Record.members? fields document
  return {
    id := ← Json.Record.required "id" Json.string? members
    type := ← Json.Record.withDefault "" "type" Json.string? members
    controller := ← Json.Record.withDefault "" "controller" Json.string? members
    webKey := ← Json.Record.optional "publicKeyJwk" (fun key => some key.settle) members
    armoured := ← Json.Record.optional "publicKeyPem" Json.string? members }

/-- What is wanted of the text of a method. -/
def outline : Json.Outline := .ofFields fields

/-- Read a method from a text. -/
def ofText? (text : String) : Option Method :=
  (Json.readOutlined outline text).bind ofJson?

/-- Write a method. -/
def toJson (method : Method) : Json :=
  .object ([("id", .string method.id), ("type", .string method.type),
      ("controller", .string method.controller)] ++
    Json.Record.present "publicKeyJwk" (fun key => key) method.webKey ++
    Json.Record.present "publicKeyPem" Json.string method.armoured)

end Method

namespace Document

/-- The members of a document in JSON. -/
def fields : List String :=
  ["id", "verificationMethod"]

/-- Read a document. -/
def ofJson? (document : Json) : Option Document := do
  let members ← Json.Record.members? fields document
  return {
    id := ← Json.Record.required "id" Json.string? members
    methods := ← Json.Record.withDefault [] "verificationMethod"
      (Json.Record.listOf Method.ofJson?) members }

/-- What is wanted of the text of a document. -/
def outline : Json.Outline :=
  .record [("id", .whole), ("verificationMethod", .list Method.outline)]

/-- Read a document from a text. -/
def ofText? (text : String) : Option Document :=
  (Json.readOutlined outline text).bind ofJson?

/-- Write a document. -/
def toJson (document : Document) : Json :=
  .object [("id", .string document.id),
    ("verificationMethod", .array (document.methods.map Method.toJson))]

end Document

/-! ## Keys at addresses -/

/-- A way from an identifier to its document. -/
abbrev Resolver := String → Outcome Document

/-- The identifier and the fragment of an address. -/
def split? (address : String) : Option (String × String) :=
  let chars := address.toList
  match chars.dropWhile fun c => c != '#' with
  | _ :: fragment =>
      some (String.ofList (chars.takeWhile fun c => c != '#'), String.ofList fragment)
  | [] => none

/-- Whether a method is named by an address or by its fragment. -/
def Method.answersTo (method : Method) (address fragment : String) : Bool :=
  method.id == address || method.id == "#" ++ fragment

/-- The first method that an address or its fragment names. -/
def Document.method? (document : Document) (address fragment : String) : Option Method :=
  document.methods.find? fun method => method.answersTo address fragment

/-- The text of the key that a method carries. -/
def Method.key? (method : Method) : Option String :=
  match method.webKey with
  | some key => some (Json.write key)
  | none => method.armoured

/-- The failure of an address without fragment. -/
def withoutFragment (address : String) : Failure :=
  .resolution ("DID URL '" ++ address ++ "' has no fragment")

/-- The failure of a document without the method. -/
def withoutMethod (identifier address : String) : Failure :=
  .resolution
    ("DID document '" ++ identifier ++ "' has no verification method '" ++ address ++ "'")

/-- The failure of a method without a key. -/
def withoutKey (address : String) : Failure :=
  .resolution ("Verification method '" ++ address ++ "' has no public key")

/-- The failure of an identifier without document. -/
def unknown (identifier : String) : Failure :=
  .resolution ("Unknown DID '" ++ identifier ++ "'")

/-- The resolver that knows the given documents, the first of a subject counting. -/
def Resolver.ofDocuments (documents : List Document) : Resolver := fun identifier =>
  match documents.find? fun document => document.id == identifier with
  | some document => .ok document
  | none => .error (unknown identifier)

/-- The text of the key that a document has at an address. -/
def Document.keyAt (document : Document) (identifier address fragment : String) :
    Outcome String :=
  match document.method? address fragment with
  | none => .error (withoutMethod identifier address)
  | some method =>
      match method.key? with
      | none => .error (withoutKey address)
      | some key => .ok key

/-- The text of the key at an address, with a resolver that acts. -/
def keyAtM {m : Type → Type} [Monad m] (resolver : String → m (Outcome Document))
    (address : String) : m (Outcome String) :=
  match split? address with
  | none => return .error (withoutFragment address)
  | some (identifier, fragment) => do
      let answer ← resolver identifier
      return answer.bind fun document => document.keyAt identifier address fragment

/-- The text of the key at an address. -/
def keyAt (resolver : Resolver) (address : String) : Outcome String :=
  (keyAtM (m := Id) (fun identifier => pure (resolver identifier)) address).run

end Attest.Did
