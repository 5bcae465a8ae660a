import Attest.Did
import Attest.Proofs.Outcome
import Mathlib.Data.List.Forall2
import Mathlib.Data.List.TakeWhile
import Mathlib.Logic.Function.Basic

/-!
# The method at an address

An address is cut at its first hash sign, and the document of what stands before it is asked for
what stands after it.  The first method counts whose identifier is the whole address or a hash sign
and the fragment.  These are two spellings of one name: no identifier of another subject and no
other fragment is taken for it, and which of the two a document uses makes no difference.
-/

namespace Attest.Did

variable {identifier fragment address other : String} {document : Document} {method : Method}
  {resolver : Resolver}

/-! ## Addresses -/

/-- The address of a fragment in the document of an identifier. -/
def addressOf (identifier fragment : String) : String :=
  identifier ++ "#" ++ fragment

theorem toList_addressOf (identifier fragment : String) :
    (addressOf identifier fragment).toList = identifier.toList ++ '#' :: fragment.toList := by
  simp [addressOf]

/-- An address without identifier is the fragment alone. -/
theorem addressOf_empty (fragment : String) : addressOf "" fragment = "#" ++ fragment := by
  rw [addressOf, String.empty_append]

/-- An address is cut at its first hash sign. -/
theorem split?_addressOf (plain : '#' ∉ identifier.toList) (fragment : String) :
    split? (addressOf identifier fragment) = some (identifier, fragment) := by
  have before : ∀ c ∈ identifier.toList, (c != '#') = true := fun c inside =>
    bne_iff_ne.mpr fun same => plain (same ▸ inside)
  have taken : (addressOf identifier fragment).toList.takeWhile (fun c => c != '#') =
      identifier.toList := by
    rw [toList_addressOf, List.takeWhile_append_of_pos before]
    simp
  have left : (addressOf identifier fragment).toList.dropWhile (fun c => c != '#') =
      '#' :: fragment.toList := by
    rw [toList_addressOf, List.dropWhile_append_of_pos before]
    simp
  simp only [split?, left, taken, String.ofList_toList]

theorem split?_eq_none_iff : split? address = none ↔ '#' ∉ address.toList := by
  have cut : split? address = none ↔
      address.toList.dropWhile (fun c => c != '#') = [] := by
    rw [split?]
    split <;> simp [*]
  rw [cut, List.dropWhile_eq_nil_iff]
  constructor
  · intro all sign
    exact absurd (all '#' sign) (by decide)
  · intro plain c inside
    exact bne_iff_ne.mpr fun same => plain (same ▸ inside)

/-- What is cut has no hash sign in its identifier, and is an address again. -/
theorem split?_eq_some_iff :
    split? address = some (identifier, fragment) ↔
      '#' ∉ identifier.toList ∧ address = addressOf identifier fragment := by
  constructor
  · intro cut
    have whole := List.takeWhile_append_dropWhile (p := fun c => c != '#') (l := address.toList)
    rw [split?] at cut
    split at cut
    · next sign rest left =>
        have isSign : sign = '#' := by
          have head := List.head?_dropWhile_not (fun c => c != '#') address.toList
          simpa [left] using head
        cases cut
        refine ⟨?_, String.toList_inj.mp ?_⟩
        · rw [String.toList_ofList]
          intro inside
          exact absurd (List.mem_takeWhile_imp inside) (by decide)
        · rw [toList_addressOf, String.toList_ofList, String.toList_ofList, ← isSign, ← left, isSign,
            whole]
    · cases cut
  · rintro ⟨plain, rfl⟩
    exact split?_addressOf plain fragment

theorem addressOf_inj (plain : '#' ∉ identifier.toList) (otherPlain : '#' ∉ other.toList)
    {otherFragment : String} :
    addressOf identifier fragment = addressOf other otherFragment ↔
      identifier = other ∧ fragment = otherFragment := by
  constructor
  · intro same
    have cut := split?_addressOf plain fragment
    rw [same, split?_addressOf otherPlain] at cut
    cases cut
    exact ⟨rfl, rfl⟩
  · rintro ⟨rfl, rfl⟩
    rfl

/-! ## Names of methods -/

namespace Method

/-- The identifier of a method is the whole address, or a hash sign and the fragment. -/
def Named (method : Method) (identifier fragment : String) : Prop :=
  method.id = addressOf identifier fragment ∨ method.id = "#" ++ fragment

theorem answersTo_iff :
    method.answersTo (addressOf identifier fragment) fragment = true ↔
      method.Named identifier fragment := by
  rw [answersTo, Bool.or_eq_true, beq_iff_eq, beq_iff_eq, Named]

/-- A whole address names nothing but its own fragment of its own subject. -/
theorem named_iff_of_absolute (plain : '#' ∉ identifier.toList) (otherPlain : '#' ∉ other.toList)
    (someone : other ≠ "") {otherFragment : String}
    (absolute : method.id = addressOf other otherFragment) :
    method.Named identifier fragment ↔ other = identifier ∧ otherFragment = fragment := by
  have relative : method.id ≠ "#" ++ fragment := by
    rw [absolute, ← addressOf_empty]
    exact fun same => someone ((addressOf_inj otherPlain (by decide)).mp same).1
  rw [Named, or_iff_left relative, absolute, addressOf_inj otherPlain plain]

/-- A fragment alone names nothing but this fragment. -/
theorem named_iff_of_relative (plain : '#' ∉ identifier.toList) {otherFragment : String}
    (relative : method.id = "#" ++ otherFragment) :
    method.Named identifier fragment ↔ otherFragment = fragment := by
  rw [Named, relative, ← addressOf_empty, ← addressOf_empty, addressOf_inj (by decide) plain,
    addressOf_inj (by decide) (by decide), eq_self, true_and]
  exact or_iff_right_of_imp And.right

theorem named_iff_of_id_eq_addressOf (plain : '#' ∉ identifier.toList) {otherFragment : String}
    (absolute : method.id = addressOf identifier otherFragment) :
    method.Named identifier fragment ↔ otherFragment = fragment := by
  rcases eq_or_ne identifier "" with rfl | someone
  · exact named_iff_of_relative plain (absolute.trans (addressOf_empty otherFragment))
  · rw [named_iff_of_absolute plain plain someone absolute, eq_self, true_and]

/-- A method and the same method with the other spelling of its name, or with the same one. -/
inductive Respelt (identifier : String) (method : Method) : Method → Prop
  | same : Respelt identifier method method
  | shortened {fragment : String} (absolute : method.id = addressOf identifier fragment) :
      Respelt identifier method { method with id := "#" ++ fragment }
  | lengthened {fragment : String} (relative : method.id = "#" ++ fragment) :
      Respelt identifier method { method with id := addressOf identifier fragment }

variable {respelt : Method}

theorem Respelt.key?_eq (spelling : Respelt identifier method respelt) :
    respelt.key? = method.key? := by
  cases spelling <;> rfl

theorem Respelt.named_iff (plain : '#' ∉ identifier.toList)
    (spelling : Respelt identifier method respelt) :
    respelt.Named identifier fragment ↔ method.Named identifier fragment := by
  cases spelling with
  | same => exact Iff.rfl
  | shortened absolute =>
      rw [named_iff_of_relative plain rfl, named_iff_of_id_eq_addressOf plain absolute]
  | lengthened relative =>
      rw [named_iff_of_id_eq_addressOf plain rfl, named_iff_of_relative plain relative]

end Method

/-! ## Keys of a document -/

namespace Document

/-- A method is the first of a document that has a name. -/
structure First (document : Document) (identifier fragment : String)
    (method : Method) : Prop where
  split : ∃ before after, document.methods = before ++ method :: after ∧
    ∀ earlier ∈ before, ¬earlier.Named identifier fragment
  named : method.Named identifier fragment

/-- What a document says at a fragment, one case for each thing that it can say.  Nothing but the
first method with the name has a say. -/
inductive Yields (document : Document) (identifier fragment : String) : Outcome String → Prop
  | webKey {method : Method} {key : Json} (first : document.First identifier fragment method)
      (carries : method.webKey = some key) :
      Yields document identifier fragment (.ok (Json.write key))
  | armoured {method : Method} {text : String} (first : document.First identifier fragment method)
      (without : method.webKey = none) (carries : method.armoured = some text) :
      Yields document identifier fragment (.ok text)
  | keyless {method : Method} (first : document.First identifier fragment method)
      (without : method.webKey = none) (bare : method.armoured = none) :
      Yields document identifier fragment (.error (.resolution
        ("Verification method '" ++ addressOf identifier fragment ++ "' has no public key")))
  | missing (nothing : ∀ method ∈ document.methods, ¬method.Named identifier fragment) :
      Yields document identifier fragment (.error (.resolution
        ("DID document '" ++ identifier ++ "' has no verification method '" ++
          addressOf identifier fragment ++ "'")))

theorem method?_eq_some_iff :
    document.method? (addressOf identifier fragment) fragment = some method ↔
      document.First identifier fragment method := by
  rw [method?, List.find?_eq_some_iff_append, Method.answersTo_iff]
  simp only [Bool.not_eq_true', ← Bool.not_eq_true, Method.answersTo_iff]
  exact ⟨fun ⟨named, split⟩ => ⟨split, named⟩, fun first => ⟨first.named, first.split⟩⟩

theorem method?_eq_none_iff :
    document.method? (addressOf identifier fragment) fragment = none ↔
      ∀ method ∈ document.methods, ¬method.Named identifier fragment := by
  simp only [method?, List.find?_eq_none, Method.answersTo_iff]

theorem yields_keyAt (document : Document) (identifier fragment : String) :
    document.Yields identifier fragment
      (document.keyAt identifier (addressOf identifier fragment) fragment) := by
  cases found : document.method? (addressOf identifier fragment) fragment with
  | none =>
      simp only [keyAt, found]
      exact .missing (method?_eq_none_iff.mp found)
  | some method =>
      have first := method?_eq_some_iff.mp found
      simp only [keyAt, found, Method.key?]
      cases carried : method.webKey with
      | some key => exact .webKey first carried
      | none =>
          cases armoured : method.armoured with
          | some text => exact .armoured first carried armoured
          | none => exact .keyless first carried armoured

theorem keyAt_eq_iff {outcome : Outcome String} :
    document.keyAt identifier (addressOf identifier fragment) fragment = outcome ↔
      document.Yields identifier fragment outcome := by
  constructor
  · rintro rfl
    exact yields_keyAt document identifier fragment
  · rintro (⟨first, carries⟩ | ⟨first, without, carries⟩ | ⟨first, without, bare⟩ | nothing)
    · simp only [keyAt, method?_eq_some_iff.mpr first, Method.key?, carries]
    · simp only [keyAt, method?_eq_some_iff.mpr first, Method.key?, without, carries]
    · simp only [keyAt, method?_eq_some_iff.mpr first, Method.key?, without, bare]
      rfl
    · simp only [keyAt, method?_eq_none_iff.mpr nothing]
      rfl

/-- Of the selected method only the key matters. -/
theorem keyAt_congr {other : Document} {address : String}
    (same : (other.method? address fragment).map Method.key? =
      (document.method? address fragment).map Method.key?) :
    other.keyAt identifier address fragment = document.keyAt identifier address fragment := by
  rw [keyAt, keyAt]
  cases found : document.method? address fragment with
  | none =>
      rw [found, Option.map_none, Option.map_eq_none_iff] at same
      rw [same]
  | some method =>
      rw [found, Option.map_some, Option.map_eq_some_iff] at same
      obtain ⟨selected, chosen, sameKey⟩ := same
      simp only [chosen, sameKey]

theorem map_key?_find?_of_respelt (plain : '#' ∉ identifier.toList) (fragment : String)
    {methods respelt : List Method}
    (spelling : List.Forall₂ (Method.Respelt identifier) methods respelt) :
    (respelt.find? fun method =>
        method.answersTo (addressOf identifier fragment) fragment).map Method.key? =
      (methods.find? fun method =>
        method.answersTo (addressOf identifier fragment) fragment).map Method.key? := by
  induction spelling with
  | nil => rfl
  | @cons method other methods respelt spelling _ ih =>
      have together : other.answersTo (addressOf identifier fragment) fragment =
          method.answersTo (addressOf identifier fragment) fragment := by
        rw [Bool.eq_iff_iff, Method.answersTo_iff, Method.answersTo_iff]
        exact spelling.named_iff plain
      rw [List.find?_cons, List.find?_cons, together]
      split
      · rw [Option.map_some, Option.map_some, spelling.key?_eq]
      · exact ih

/-- The key that is found does not depend on how methods are spelt. -/
theorem keyAt_of_respelt (plain : '#' ∉ identifier.toList) {methods : List Method}
    (spelling : List.Forall₂ (Method.Respelt identifier) document.methods methods)
    (fragment : String) :
    Document.keyAt { document with methods } identifier (addressOf identifier fragment) fragment =
      document.keyAt identifier (addressOf identifier fragment) fragment :=
  keyAt_congr (map_key?_find?_of_respelt plain fragment spelling)

end Document

/-! ## Keys at addresses -/

/-- Where resolving does nothing but return, so does the lookup. -/
theorem keyAtM_pure {m : Type → Type} [Monad m] [LawfulMonad m] (resolver : Resolver)
    (address : String) :
    keyAtM (m := m) (fun identifier => pure (resolver identifier)) address =
      pure (keyAt resolver address) := by
  rw [keyAt, keyAtM, keyAtM]
  cases split? address with
  | none => rfl
  | some parts => simp only [pure_bind, Id.run_pure]

/-- The key at an address is that at the fragment of the document. -/
theorem keyAt_addressOf (plain : '#' ∉ identifier.toList) (resolver : Resolver)
    (fragment : String) :
    keyAt resolver (addressOf identifier fragment) =
      (resolver identifier).bind fun document =>
        document.keyAt identifier (addressOf identifier fragment) fragment := by
  simp only [keyAt, keyAtM, split?_addressOf plain, pure_bind, Id.run_pure]

theorem keyAt_of_plain (plain : '#' ∉ address.toList) (resolver : Resolver) :
    keyAt resolver address = .error (withoutFragment address) := by
  simp only [keyAt, keyAtM, split?_eq_none_iff.mpr plain, Id.run_pure]

/-- Another document for one identifier, with the same methods up to spelling, changes nothing. -/
theorem keyAt_update_of_respelt (plain : '#' ∉ identifier.toList)
    (returned : resolver identifier = .ok document) {methods : List Method}
    (spelling : List.Forall₂ (Method.Respelt identifier) document.methods methods)
    (address : String) :
    keyAt (Function.update resolver identifier (.ok { document with methods })) address =
      keyAt resolver address := by
  cases cut : split? address with
  | none =>
      have unsplit := split?_eq_none_iff.mp cut
      rw [keyAt_of_plain unsplit, keyAt_of_plain unsplit]
  | some parts =>
      obtain ⟨asked, fragment⟩ := parts
      obtain ⟨askedPlain, rfl⟩ := split?_eq_some_iff.mp cut
      rw [keyAt_addressOf askedPlain, keyAt_addressOf askedPlain]
      rcases eq_or_ne asked identifier with rfl | different
      · rw [Function.update_self, returned]
        exact Document.keyAt_of_respelt plain spelling fragment
      · rw [Function.update_of_ne different]

/-! ## Selecting a method -/

/-- How the document of an identifier is asked for keys. -/
structure Selects (resolver : Resolver) (identifier : String) (document : Document) : Prop where
  /-- The first method with the name decides, by the key that it carries. -/
  keyAt_iff : ∀ fragment outcome, keyAt resolver (addressOf identifier fragment) = outcome ↔
    document.Yields identifier fragment outcome
  /-- A whole address is no name for another subject nor for another fragment. -/
  absolute : ∀ method : Method, ∀ other otherFragment, other ≠ "" → '#' ∉ other.toList →
    method.id = addressOf other otherFragment → ∀ fragment,
      (method.Named identifier fragment ↔ other = identifier ∧ otherFragment = fragment)
  /-- Nor is a fragment alone a name for another fragment. -/
  relative : ∀ method : Method, ∀ otherFragment, method.id = "#" ++ otherFragment → ∀ fragment,
    (method.Named identifier fragment ↔ otherFragment = fragment)
  /-- Whatever methods are spelt in the other way, the key at no address changes. -/
  respelt : ∀ methods, List.Forall₂ (Method.Respelt identifier) document.methods methods →
    ∀ address, keyAt (Function.update resolver identifier (.ok { document with methods })) address =
      keyAt resolver address

/-- The first method with the name is selected, however the names of methods are spelt, and an
address without a fragment fails before any document is asked for. -/
theorem selects_of_returned (plain : '#' ∉ identifier.toList)
    (returned : resolver identifier = .ok document) :
    Selects resolver identifier document ∧
      ∀ (m : Type → Type) [Monad m] [LawfulMonad m],
        (∀ address, keyAtM (m := m) (fun asked => pure (resolver asked)) address =
          pure (keyAt resolver address)) ∧
        ∀ address : String, '#' ∉ address.toList → ∀ acting : String → m (Outcome Document),
          keyAtM acting address =
            pure (.error (.resolution ("DID URL '" ++ address ++ "' has no fragment"))) := by
  refine ⟨?_, fun m _ _ => ⟨keyAtM_pure resolver, fun address unsplit acting => ?_⟩⟩
  · constructor
    case keyAt_iff =>
      intro fragment outcome
      rw [keyAt_addressOf plain, returned]
      exact Document.keyAt_eq_iff
    case absolute =>
      intro method other otherFragment someone otherPlain absolute fragment
      exact Method.named_iff_of_absolute plain otherPlain someone absolute
    case relative =>
      intro method otherFragment relative fragment
      exact Method.named_iff_of_relative plain relative
    case respelt =>
      intro methods spelling address
      exact keyAt_update_of_respelt plain returned spelling address
  · rw [keyAtM, split?_eq_none_iff.mpr unsplit]
    rfl

namespace Sample

/-- A method that is named by its fragment, and one after it with the same name in full. -/
def methods : List Method :=
  [{ id := "#" ++ "a#b", armoured := some "first" },
    { id := addressOf "did:x" "a#b", armoured := some "second" }]

/-- The same methods, each named in the other way. -/
def respelt : List Method :=
  [{ id := addressOf "did:x" "a#b", armoured := some "first" },
    { id := "#" ++ "a#b", armoured := some "second" }]

def written : Document := { id := "did:x", methods }

def knowing : Resolver := .ofDocuments [written]

theorem spelling_methods : List.Forall₂ (Method.Respelt "did:x") methods respelt :=
  .cons (.lengthened rfl) (.cons (.shortened rfl) .nil)

end Sample

/-- Of two methods with one name the first is selected, whichever of them is named in full. -/
theorem selects_of_returned_sample :
    '#' ∉ "did:x".toList ∧ Sample.knowing "did:x" = .ok Sample.written ∧
      keyAt Sample.knowing "did:x#a#b" = .ok "first" ∧
      keyAt (Function.update Sample.knowing "did:x"
        (.ok { Sample.written with methods := Sample.respelt })) "did:x#a#b" = .ok "first" := by
  have plain : '#' ∉ "did:x".toList := by decide
  have returned : Sample.knowing "did:x" = .ok Sample.written := rfl
  have selects := (selects_of_returned plain returned).1
  have first : Sample.written.First "did:x" "a#b" { id := "#" ++ "a#b", armoured := some "first" } :=
    ⟨⟨[], _, rfl, by simp⟩, .inr rfl⟩
  have found : keyAt Sample.knowing "did:x#a#b" = .ok "first" :=
    (selects.keyAt_iff "a#b" _).mpr (.armoured first rfl rfl)
  exact ⟨plain, returned, found, (selects.respelt _ Sample.spelling_methods _).trans found⟩

end Attest.Did
