import Attest.Proofs.Key.Resolver

/-!
# The order in which forms are tried

A form declines a text, fails on it or makes key material of it.  A registry answers with the
material of the first form that makes any, in the order in which its forms were registered.  A
form that declines or fails leaves no trace, wherever it stands, and a text that is decoded stays
decoded, whatever is registered later.
-/

namespace Attest.Key

/-- A form makes nothing of a text. -/
inductive TextForm.Misses (form : TextForm) (text : String) : Prop
  | declines (unrecognised : form.recognises text = false) : Misses form text
  | fails {failure : Failure} (recognised : form.recognises text = true)
      (refused : form.decode text = .error failure) : Misses form text

theorem TextForm.misses_iff {form : TextForm} {text : String} :
    form.Misses text ↔ ∀ material, ¬form.Makes text material := by
  constructor
  · rintro (unrecognised | ⟨recognised, refused⟩) material ⟨recognised', made⟩
    · rw [unrecognised] at recognised'
      cases recognised'
    · rw [refused] at made
      cases made
  · intro nothing
    cases recognised : form.recognises text with
    | false => exact .declines recognised
    | true =>
        cases decoded : form.decode text with
        | error failure => exact .fails recognised decoded
        | ok material => exact absurd ⟨recognised, decoded⟩ (nothing material)

namespace Registry

variable {registry : Registry} {form : TextForm} {before after : List TextForm}
  {text : String} {material : KeyMaterial}

/-- The registry after forms were registered one after the other. -/
def registerAll (registry : Registry) (forms : List TextForm) : Registry :=
  forms.foldl register registry

/-- Forms are tried in the order in which they are registered. -/
theorem registerAll_eq (registry : Registry) (forms : List TextForm) :
    registry.registerAll forms = ⟨registry.forms ++ forms⟩ := by
  induction forms generalizing registry with
  | nil => rw [List.append_nil]; rfl
  | cons form rest ih =>
      have later : registry.registerAll (form :: rest) =
          ⟨(registry.register form).forms ++ rest⟩ := ih (registry.register form)
      rw [later, register, List.append_assoc, List.singleton_append]

theorem registerAll_empty (forms : List TextForm) : empty.registerAll forms = ⟨forms⟩ :=
  registerAll_eq empty forms

/-! ## Forms that make nothing of a text -/

/-- A registry answers as it does without a form that makes nothing of the text. -/
theorem decode_of_misses (missed : form.Misses text) :
    Registry.decode ⟨before ++ form :: after⟩ text = Registry.decode ⟨before ++ after⟩ text := by
  have nothing : attempt? text form = none :=
    attempt?_eq_none_iff.mpr (TextForm.misses_iff.mp missed)
  rw [decode, decode, List.findSome?_append, List.findSome?_append, List.findSome?_cons, nothing]

/-! ## Forms that are registered later -/

theorem decode_register (decoded : registry.decode text = .ok material) (form : TextForm) :
    (registry.register form).decode text = .ok material := by
  obtain ⟨before, first, after, tried, missed, makes⟩ := decode_eq_ok_iff_firstMakes.mp decoded
  refine decode_eq_ok_iff_firstMakes.mpr ⟨before, first, after ++ [form], ?_, missed, makes⟩
  rw [register, tried, List.append_assoc, List.cons_append]

theorem decode_registerAll (decoded : registry.decode text = .ok material)
    (forms : List TextForm) : (registry.registerAll forms).decode text = .ok material := by
  induction forms generalizing registry with
  | nil => exact decoded
  | cons form rest ih => exact ih (decode_register decoded form)

/-! ## The order -/

/-- Forms that are registered one after the other are tried on a text in this order, and the first
success decides. -/
structure TriesInOrder (registered : List TextForm) (text : String) : Prop where
  ok_iff : ∀ material, (empty.registerAll registered).decode text = .ok material ↔
    ∃ before form after, registered = before ++ form :: after ∧
      (∀ earlier ∈ before, earlier.Misses text) ∧ form.Makes text material
  error_iff : ∀ failure, (empty.registerAll registered).decode text = .error failure ↔
    failure = .parse "No parser could decode the supplied key material" ∧
      ∀ form ∈ registered, form.Misses text
  /-- A text that is decoded is decoded to the same material ever after. -/
  extended : ∀ material, (empty.registerAll registered).decode text = .ok material →
    ∀ further, ((empty.registerAll registered).registerAll further).decode text = .ok material
  /-- One more form that makes nothing of the text changes nothing, wherever it is put. -/
  inserted : ∀ before after form, registered = before ++ after → form.Misses text →
    (empty.registerAll (before ++ form :: after)).decode text =
      (empty.registerAll registered).decode text
  /-- Nor does it matter whether such a form is left out. -/
  removed : ∀ before form after, registered = before ++ form :: after → form.Misses text →
    (empty.registerAll (before ++ after)).decode text =
      (empty.registerAll registered).decode text

theorem triesInOrder_registerAll (registered : List TextForm) (text : String) :
    TriesInOrder registered text := by
  have misses : ∀ forms : List TextForm, (∀ form ∈ forms, form.Misses text) ↔
      ∀ form ∈ forms, ∀ material, ¬form.Makes text material :=
    fun forms => forall₂_congr fun _ _ => TextForm.misses_iff
  have without : ∀ before form after, form.Misses text →
      (empty.registerAll (before ++ form :: after)).decode text =
        (empty.registerAll (before ++ after)).decode text := by
    intro before form after missed
    rw [registerAll_empty, registerAll_empty, decode_of_misses missed]
  constructor
  case ok_iff =>
    intro material
    simp only [decode_eq_ok_iff_firstMakes, FirstMakes, registerAll_empty, misses]
  case error_iff =>
    intro failure
    rw [decode_eq_error_iff, registerAll_empty, misses]
    rfl
  case extended =>
    intro material decoded further
    exact decode_registerAll decoded further
  case inserted =>
    rintro before after form rfl missed
    exact without before form after missed
  case removed =>
    rintro before form after rfl missed
    exact (without before form after missed).symm

end Registry

end Attest.Key
