import Attest.Key.Resolver
import Attest.Proofs.Key.TextForm
import Attest.Proofs.Outcome

/-!
# Where private keys come from

A registry answers with what the first of its forms makes that makes anything of a text.  A
resolver for private keys takes the text of its source, and that of its configuration exactly when
the source fails.  Once it has a text, nothing else has a say: neither what the configuration holds
beside a text of the source, nor why a source has failed.
-/

namespace Attest.Key

/-! ## What a registry answers -/

/-- A form recognises a text and makes key material of it. -/
def TextForm.Makes (form : TextForm) (text : String) (material : KeyMaterial) : Prop :=
  form.recognises text = true ∧ form.decode text = .ok material

namespace Registry

variable {registry : Registry} {text : String} {material : KeyMaterial}

/-- The first form of a registry that makes anything of a text makes the material. -/
def FirstMakes (registry : Registry) (text : String) (material : KeyMaterial) : Prop :=
  ∃ before form after, registry.forms = before ++ form :: after ∧
    (∀ earlier ∈ before, ∀ other, ¬earlier.Makes text other) ∧ form.Makes text material

theorem attempt?_eq_none_iff {form : TextForm} :
    attempt? text form = none ↔ ∀ material, ¬form.Makes text material := by
  rw [Option.eq_none_iff_forall_ne_some]
  exact forall_congr' fun material => not_congr attempt?_eq_some_iff

theorem decode_eq_ok_iff_firstMakes :
    registry.decode text = .ok material ↔ registry.FirstMakes text material := by
  have first : registry.decode text = .ok material ↔
      registry.forms.findSome? (attempt? text) = some material := by
    rw [decode]
    split <;> simp [*]
  rw [first, List.findSome?_eq_some_iff]
  constructor
  · rintro ⟨before, form, after, forms, attempted, declined⟩
    refine ⟨before, form, after, forms, ?_, attempt?_eq_some_iff.mp attempted⟩
    intro earlier member
    exact attempt?_eq_none_iff.mp (declined earlier member)
  · rintro ⟨before, form, after, forms, declined, makes⟩
    refine ⟨before, form, after, forms, attempt?_eq_some_iff.mpr makes, ?_⟩
    intro earlier member
    exact attempt?_eq_none_iff.mpr (declined earlier member)

/-- A text is not decoded when no form makes anything of it; the failure is always the same. -/
theorem decode_eq_error_iff {failure : Failure} :
    registry.decode text = .error failure ↔
      failure = undecodable ∧ ∀ form ∈ registry.forms, ∀ material, ¬form.Makes text material := by
  have unread : registry.forms.findSome? (attempt? text) = none ↔
      ∀ form ∈ registry.forms, ∀ material, ¬form.Makes text material := by
    rw [List.findSome?_eq_none_iff]
    exact forall₂_congr fun _ _ => attempt?_eq_none_iff
  rw [← unread, decode]
  split <;> simp [*, eq_comm]

theorem decodePublic_eq_ok_iff {key : PublicKey} :
    registry.decodePublic text = .ok key ↔ registry.decode text = .ok (.publicKey key) := by
  rw [decodePublic]
  cases decoded : registry.decode text with
  | error failure => simp [bind, Except.bind]
  | ok material => cases material <;> simp [bind, Except.bind, KeyMaterial.public?]

theorem decodePublic_eq_error_iff {failure : Failure} :
    registry.decodePublic text = .error failure ↔
      registry.decode text = .error failure ∨
        ∃ material, registry.decode text = .ok material ∧ (∀ key, material ≠ .publicKey key) ∧
          failure = notPublic := by
  rw [decodePublic]
  cases decoded : registry.decode text with
  | error failure => simp [bind, Except.bind]
  | ok material => cases material <;> simp [bind, Except.bind, KeyMaterial.public?, eq_comm]

end Registry

namespace PrivateResolver

variable {source : Source} {configuration : Configuration} {registry : Registry}
  {id text : String} {key : PrivateKey}

/-- The answer about a private key, by what its text is decoded to. -/
def answer : Outcome KeyMaterial → Outcome PrivateKey
  | .ok (.privateKey key) => .ok key
  | .ok (.publicKey _) | .ok (.symmetric _) =>
      .error (.typeMismatch "The specified resource did not contain private key material.")
  | .error failure => .error failure

theorem answer_eq_ok_iff {decoded : Outcome KeyMaterial} :
    answer decoded = .ok key ↔ decoded = .ok (.privateKey key) := by
  rcases decoded with failure | material
  · simp [answer]
  · cases material <;> simp [answer]

theorem decodePrivate_eq_answer (registry : Registry) (text : String) :
    registry.decodePrivate text = answer (registry.decode text) := by
  rw [Registry.decodePrivate]
  cases registry.decode text with
  | error failure => rfl
  | ok material => cases material <;> rfl

/-! ## The text of a key -/

/-- The text that a resolver takes for a key: that of its source, or that of its configuration
when the source fails. -/
inductive Supplies (source : Source) (configuration : Configuration) (id : String) :
    String → Prop
  | source {text : String} (found : source id = .ok text) : Supplies source configuration id text
  | configuration {failure : Failure} {text : String} (fails : source id = .error failure)
      (found : configuration id = some text) : Supplies source configuration id text

theorem textOf_eq_ok_iff :
    textOf source configuration id = .ok text ↔ Supplies source configuration id text := by
  rw [textOf]
  constructor
  · intro found
    split at found
    · next sourced =>
        cases found
        exact .source sourced
    · next failure fails =>
        split at found
        · next configured =>
            cases found
            exact .configuration fails configured
        · cases found
  · rintro (found | ⟨fails, found⟩)
    · rw [found]
    · rw [fails]
      simp only [found]

theorem ofSource_of_supplies (supplies : Supplies source configuration id text) :
    ofSource source configuration registry id = answer (registry.decode text) := by
  rw [ofSource, textOf_eq_ok_iff.mpr supplies, ← decodePrivate_eq_answer]
  rfl

theorem ofSource_of_nothing {failure : Failure} (fails : source id = .error failure)
    (nothing : configuration id = none) :
    ofSource source configuration registry id = .error (notFound id) := by
  rw [ofSource, textOf, fails]
  simp only [nothing]
  rfl

/-- A key is resolved when the text that is taken for it is decoded to it. -/
theorem ofSource_eq_ok_iff :
    ofSource source configuration registry id = .ok key ↔
      ∃ text, Supplies source configuration id text ∧
        registry.decode text = .ok (.privateKey key) := by
  constructor
  · intro resolved
    rw [ofSource] at resolved
    rcases bind_eq_ok_iff.mp resolved with ⟨text, taken, decoded⟩
    rw [decodePrivate_eq_answer] at decoded
    exact ⟨text, textOf_eq_ok_iff.mp taken, answer_eq_ok_iff.mp decoded⟩
  · rintro ⟨text, supplies, decoded⟩
    rw [ofSource_of_supplies supplies]
    exact answer_eq_ok_iff.mpr decoded

/-- Without a text there is another failure than with one, whatever the text is: so a
configuration that is asked can be told from one that is not. -/
theorem answer_ne_notFound (text : String) :
    answer (registry.decode text) ≠ .error (notFound id) := by
  intro same
  cases decoded : registry.decode text with
  | error failure =>
      have undecodable : registry.decode text = .error Registry.undecodable :=
        Registry.decode_eq_undecodable fun material => by simp [decoded]
      rw [undecodable] at same
      cases same
  | ok material =>
      rw [decoded] at same
      cases material <;> cases same

/-! ## Source and configuration -/

/-- How a resolver for private keys treats its source and its configuration. -/
structure FallsBack (source : Source) (registry : Registry) (id : String) : Prop where
  /-- Which configuration it is makes a difference exactly when the source fails. -/
  consulted_iff :
    (∃ configuration other, ofSource source configuration registry id ≠
      ofSource source other registry id) ↔ ∃ failure, source id = .error failure
  /-- A text of the source decides by what it is decoded to. -/
  found : ∀ text, source id = .ok text → ∀ configuration,
    ofSource source configuration registry id = answer (registry.decode text)
  /-- When the source fails, a text of the configuration decides in the same way. -/
  replaced : ∀ failure, source id = .error failure → ∀ configuration text,
    configuration id = some text →
      ofSource source configuration registry id = answer (registry.decode text)
  missing : ∀ failure, source id = .error failure → ∀ configuration,
    configuration id = none → ofSource source configuration registry id =
      .error (.resolution ("Private key with ID '" ++ id ++ "' not found in Config"))
  /-- Two sources that both fail cannot be told apart. -/
  failure_unseen : ∀ (other : Source) (failure otherFailure : Failure),
    source id = .error failure → other id = .error otherFailure → ∀ configuration,
      ofSource source configuration registry id = ofSource other configuration registry id
  /-- A key comes from private material only: it is what the first form of the registry makes
  that makes anything of the text that was taken. -/
  ok_iff : ∀ configuration key, ofSource source configuration registry id = .ok key ↔
    ∃ text, Supplies source configuration id text ∧
      registry.FirstMakes text (.privateKey key)

/-- A resolver for private keys falls back to its configuration if and only if its source fails,
and one text alone decides. -/
theorem fallsBack_ofSource (source : Source) (registry : Registry) (id : String) :
    FallsBack source registry id := by
  have found : ∀ text, source id = .ok text → ∀ configuration,
      ofSource source configuration registry id = answer (registry.decode text) :=
    fun text sourced configuration => ofSource_of_supplies (.source sourced)
  constructor
  case found => exact found
  case consulted_iff =>
    constructor
    · rintro ⟨configuration, other, different⟩
      cases sourced : source id with
      | ok text => exact absurd ((found text sourced _).trans (found text sourced _).symm) different
      | error failure => exact ⟨failure, rfl⟩
    · rintro ⟨failure, fails⟩
      -- Any text at all will do, even one that no form makes anything of.
      let empty : Configuration := fun _ => some ""
      let nothing : Configuration := fun _ => none
      have replaced : ofSource source empty registry id = answer (registry.decode "") :=
        ofSource_of_supplies (.configuration fails rfl)
      have missing : ofSource source nothing registry id = .error (notFound id) :=
        ofSource_of_nothing fails rfl
      refine ⟨empty, nothing, ?_⟩
      rw [replaced, missing]
      exact answer_ne_notFound ""
  case replaced =>
    intro failure fails configuration text configured
    exact ofSource_of_supplies (.configuration fails configured)
  case missing =>
    intro failure fails configuration nothing
    exact ofSource_of_nothing fails nothing
  case failure_unseen =>
    intro other failure otherFailure fails otherFails configuration
    rw [ofSource, ofSource, textOf, textOf, fails, otherFails]
  case ok_iff =>
    intro configuration key
    rw [ofSource_eq_ok_iff]
    exact exists_congr fun text => and_congr_right fun _ => Registry.decode_eq_ok_iff_firstMakes

end PrivateResolver

end Attest.Key
