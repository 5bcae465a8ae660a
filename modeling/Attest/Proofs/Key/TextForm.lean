import Attest.Key.Standard
import Attest.Proofs.Base64.Spelling
import Attest.Proofs.Text.Blank
import Mathlib.Data.List.Pairwise
import Mathlib.Tactic.Tauto

/-!
# Which form a text has

The first visible character tells the standard forms apart: armour starts with a hyphen, a
JSON web key with a brace, and plain base64 has only symbols.  So at most one form
recognises a text.  Each form recognises whatever it can decode; hence the order in which
the forms are tried does not matter, and neither does asking first whether a form
recognises the text.
-/

namespace Attest.Key

theorem Registry.mem_standard_forms {form : TextForm} :
    form ∈ standard.forms ↔
      form = Armoured.form (fun _ => "") ∨ form = WebKey.form ∨ form = Unarmoured.form := by
  simp only [standard, worded, List.mem_cons, List.not_mem_nil, or_false]

/-! ## Recognised texts -/

theorem Armoured.trimStart_of_recognises {text : String} (recognised : recognises text = true) :
    ∃ rest, Text.trimStart text.toList = '-' :: rest := by
  rw [recognises, List.isPrefixOf_iff_prefix] at recognised
  obtain ⟨rest, lead⟩ := recognised
  exact ⟨_, lead.symm⟩

theorem WebKey.trim_of_object?_ne_none {text : String} (isObject : (object? text).isSome = true) :
    ∃ rest, Text.trim text.toList = '{' :: rest := by
  rw [object?] at isObject
  split at isObject
  · next rest trimmed => exact ⟨rest, trimmed⟩
  · cases isObject

theorem WebKey.trimStart_of_recognises {text : String} (recognised : recognises text = true) :
    ∃ rest, Text.trimStart text.toList = '{' :: rest := by
  obtain ⟨rest, trimmed⟩ := trim_of_object?_ne_none recognised
  obtain ⟨tail, whole⟩ := Text.trim_prefix text.toList
  rw [trimmed] at whole
  exact ⟨rest ++ tail, whole.symm⟩

/-- What stands first in a text of plain base64 is a symbol. -/
theorem Unarmoured.isSymbol_of_recognises {text : String} (recognised : recognises text = true)
    {c : Char} {rest : List Char} (trimmed : Text.trimStart text.toList = c :: rest) :
    isSymbol c = true := by
  obtain ⟨visible, member⟩ := Text.visible_of_trimStart_eq_cons trimmed
  simp only [recognises, Bool.and_eq_true, List.all_eq_true] at recognised
  exact recognised.2 c (Text.mem_squeeze member visible)

/-- No two of the standard forms recognise the same text. -/
theorem pairwise_recognises (text : String) :
    Registry.standard.forms.Pairwise fun form other =>
      ¬(form.recognises text = true ∧ other.recognises text = true) := by
  have armouredWebKey : ¬(Armoured.recognises text = true ∧ WebKey.recognises text = true) := by
    rintro ⟨armoured, webKey⟩
    obtain ⟨rest, hyphen⟩ := Armoured.trimStart_of_recognises armoured
    obtain ⟨more, brace⟩ := WebKey.trimStart_of_recognises webKey
    rw [hyphen] at brace
    cases brace
  have armouredUnarmoured :
      ¬(Armoured.recognises text = true ∧ Unarmoured.recognises text = true) := by
    rintro ⟨armoured, unarmoured⟩
    obtain ⟨rest, hyphen⟩ := Armoured.trimStart_of_recognises armoured
    cases Unarmoured.isSymbol_of_recognises unarmoured hyphen
  have webKeyUnarmoured :
      ¬(WebKey.recognises text = true ∧ Unarmoured.recognises text = true) := by
    rintro ⟨webKey, unarmoured⟩
    obtain ⟨rest, brace⟩ := WebKey.trimStart_of_recognises webKey
    cases Unarmoured.isSymbol_of_recognises unarmoured brace
  rw [Registry.standard, Registry.worded, List.pairwise_cons, List.pairwise_cons]
  refine ⟨?_, ?_, List.pairwise_singleton _ _⟩
  · intro other member
    rcases List.mem_pair.mp member with rfl | rfl
    · exact armouredWebKey
    · exact armouredUnarmoured
  · intro other member
    rcases List.mem_singleton.mp member with rfl
    exact webKeyUnarmoured

theorem eq_of_recognises {text : String} {form other : TextForm}
    (member : form ∈ Registry.standard.forms) (recognised : form.recognises text = true)
    (otherMember : other ∈ Registry.standard.forms)
    (otherRecognised : other.recognises text = true) : form = other := by
  have symmetric : Std.Symm fun form other : TextForm =>
      ¬(form.recognises text = true ∧ other.recognises text = true) :=
    ⟨fun _ _ exclusive both => exclusive both.symm⟩
  by_contra different
  exact (pairwise_recognises text).forall member otherMember different
    ⟨recognised, otherRecognised⟩

/-! ## Decoded texts -/

/-- A text with a label starts like armour. -/
theorem Armoured.recognises_of_label? {text name : String}
    (labelled : label? (Text.trim text.toList) = some name) : recognises text = true := by
  simp only [label?, Option.bind_eq_bind, Option.bind_eq_some_iff] at labelled
  rcases labelled with ⟨rest, leading, -⟩
  have start : lead <+: Text.trim text.toList :=
    ⟨rest, List.append_eq_of_isPrefixOf?_eq_some leading⟩
  rw [recognises, List.isPrefixOf_iff_prefix]
  exact start.trans (Text.trim_prefix text.toList)

/-- The label of an armoured text and the body under it. -/
def Armoured.content? (text : String) : Option (Label × Octets) := do
  let trimmed := Text.trim text.toList
  let label ← Label.ofText? (← label? trimmed)
  let body ← Pem.read? label.text (Octets.ofText (String.ofList trimmed))
  return (label, body)

/-- Decoding armour is reading the body as its label announces. -/
theorem Armoured.toOption_decode (unread text : String) :
    (decode unread text).toOption =
      (content? text).bind fun content => content.1.read? content.2 := by
  simp only [decode, content?, Option.bind_eq_bind]
  cases label? (Text.trim text.toList) with
  | none => rfl
  | some name =>
      cases named : Label.ofText? name with
      | none => simp [named, Except.toOption]
      | some label =>
          simp only [named, Option.bind_some, Option.bind_assoc, Option.pure_def]
          cases (Pem.read? label.text (Octets.ofText (String.ofList
            (Text.trim text.toList)))).bind label.read? <;> rfl

theorem Armoured.decode_eq_ok_iff {unread text : String} {material : KeyMaterial} :
    decode unread text = .ok material ↔
      ∃ label body, content? text = some (label, body) ∧ label.read? body = some material := by
  rw [← toOption_eq_some_iff, toOption_decode, Option.bind_eq_some_iff, Prod.exists]

theorem Armoured.recognises_of_content? {text : String} {content : Label × Octets}
    (found : content? text = some content) : recognises text = true := by
  simp only [content?, Option.bind_eq_bind, Option.bind_eq_some_iff] at found
  obtain ⟨name, labelled, -⟩ := found
  exact recognises_of_label? labelled

theorem Armoured.recognises_of_decode {unread text : String} {material : KeyMaterial}
    (decoded : decode unread text = .ok material) : recognises text = true := by
  obtain ⟨label, body, found, -⟩ := decode_eq_ok_iff.mp decoded
  exact recognises_of_content? found

theorem WebKey.recognises_of_decode {text : String} {material : KeyMaterial}
    (decoded : decode text = .ok material) : recognises text = true := by
  rw [decode] at decoded
  cases object : object? text with
  | none =>
      rw [object] at decoded
      cases decoded
  | some members =>
      rw [recognises, object]
      rfl

/-- A text with octets in it consists of full groups of symbols. -/
theorem Unarmoured.recognises_of_octets {text : String} {octets : Octets}
    (base : Base64.standard.decode (String.ofList (Text.squeeze text.toList)) = .ok octets)
    (nonempty : octets ≠ []) : recognises text = true := by
  have spelled : Text.squeeze text.toList = Base64.standard.symbols octets :=
    String.ofList_injective ((Base64.decode_eq_ok_iff Base64.readable_standard).mp base)
  have symbol : ∀ group < 64, isSymbol (Base64.standard.symbol group) = true := by decide
  have symbols : ∀ c ∈ Base64.standard.symbols octets, isSymbol c = true :=
    Base64.forall_mem_symbols (p := fun c => isSymbol c = true) symbol rfl octets
  simp only [recognises, spelled, Bool.and_eq_true, Bool.not_eq_true', List.isEmpty_eq_false_iff,
    beq_iff_eq, List.all_eq_true]
  exact ⟨⟨Base64.symbols_ne_nil nonempty, Base64.length_symbols_mod_four rfl octets⟩, symbols⟩

/-- The octets of a text in plain base64. -/
def Unarmoured.octets? (text : String) : Option Octets :=
  (Base64.standard.decode (String.ofList (Text.squeeze text.toList))).toOption

/-- Decoding plain base64 is reading the envelope in its octets. -/
theorem Unarmoured.toOption_decode (text : String) :
    (decode text).toOption = (octets? text).bind readEnvelope? := by
  rw [decode, octets?]
  cases Base64.standard.decode (String.ofList (Text.squeeze text.toList)) with
  | error fault => rfl
  | ok octets =>
      change _ = readEnvelope? octets
      cases read : readEnvelope? octets <;> simp only [read] <;> rfl

theorem Unarmoured.decode_eq_ok_iff {text : String} {material : KeyMaterial} :
    decode text = .ok material ↔
      ∃ octets, octets? text = some octets ∧ readEnvelope? octets = some material := by
  rw [← toOption_eq_some_iff, toOption_decode, Option.bind_eq_some_iff]

theorem Unarmoured.recognises_of_decode {text : String} {material : KeyMaterial}
    (decoded : decode text = .ok material) : recognises text = true := by
  obtain ⟨octets, base, read⟩ := decode_eq_ok_iff.mp decoded
  apply recognises_of_octets (toOption_eq_some_iff.mp base)
  rintro rfl
  cases read

/-- Every standard form recognises what it can decode. -/
theorem recognises_of_decode {text : String} {form : TextForm} {material : KeyMaterial}
    (member : form ∈ Registry.standard.forms) (decoded : form.decode text = .ok material) :
    form.recognises text = true := by
  rcases Registry.mem_standard_forms.mp member with rfl | rfl | rfl
  · exact Armoured.recognises_of_decode decoded
  · exact WebKey.recognises_of_decode decoded
  · exact Unarmoured.recognises_of_decode decoded

/-! ## Trying forms -/

theorem Registry.attempt?_eq_some_iff {text : String} {form : TextForm}
    {material : KeyMaterial} :
    attempt? text form = some material ↔
      form.recognises text = true ∧ form.decode text = .ok material := by
  rw [attempt?]
  split
  · next recognised =>
      cases form.decode text <;> simp [recognised, Except.toOption]
  · next declined => simp [declined]

/-- A registry of the standard forms, in any order and with repetitions, decodes a text when
one of the forms does. -/
theorem Registry.decode_eq_ok_iff {registry : Registry}
    (forms : ∀ form, form ∈ registry.forms ↔ form ∈ standard.forms) {text : String}
    {material : KeyMaterial} :
    registry.decode text = .ok material ↔
      ∃ form ∈ standard.forms, form.decode text = .ok material := by
  constructor
  · intro decoded
    rw [decode] at decoded
    split at decoded
    · next found first =>
        cases decoded
        obtain ⟨form, member, attempted⟩ := List.exists_of_findSome?_eq_some first
        exact ⟨form, (forms form).mp member, (attempt?_eq_some_iff.mp attempted).2⟩
    · cases decoded
  · rintro ⟨form, member, decoded⟩
    have attempted : attempt? text form = some material :=
      attempt?_eq_some_iff.mpr ⟨recognises_of_decode member decoded, decoded⟩
    rw [decode]
    cases first : registry.forms.findSome? (attempt? text) with
    | none =>
        rw [List.findSome?_eq_none_iff] at first
        rw [first form ((forms form).mpr member)] at attempted
        cases attempted
    | some found =>
        obtain ⟨other, otherMember, otherAttempted⟩ := List.exists_of_findSome?_eq_some first
        have same : form = other := eq_of_recognises member (attempt?_eq_some_iff.mp attempted).1
          ((forms other).mp otherMember) (attempt?_eq_some_iff.mp otherAttempted).1
        rw [same, otherAttempted] at attempted
        cases attempted
        rfl

theorem Registry.decode_eq_undecodable {registry : Registry} {text : String}
    (refused : ∀ material, registry.decode text ≠ .ok material) :
    registry.decode text = .error undecodable := by
  rw [decode]
  split
  · next material first =>
      have decoded : registry.decode text = .ok material := by simp only [decode, first]
      exact absurd decoded (refused material)
  · rfl

/-- What a text is decoded to is what the form that recognises it makes of it. -/
theorem Registry.decode_of_recognises {text : String} {form : TextForm} {material : KeyMaterial}
    (member : form ∈ standard.forms) (recognised : form.recognises text = true)
    (decoded : standard.decode text = .ok material) : form.decode text = .ok material := by
  obtain ⟨other, otherMember, found⟩ := (decode_eq_ok_iff fun _ => Iff.rfl).mp decoded
  rw [eq_of_recognises member recognised otherMember (recognises_of_decode otherMember found)]
  exact found

/-- What a registry answers when this is what its forms make of a text. -/
def Registry.answer : Option KeyMaterial → Outcome KeyMaterial
  | some material => .ok material
  | none => .error undecodable

/-- A text is decoded as the form that recognises it decodes it. -/
theorem Registry.standard_decode_eq {text : String} {form : TextForm}
    (member : form ∈ standard.forms) (recognised : form.recognises text = true) :
    standard.decode text = answer (form.decode text).toOption := by
  cases decoded : form.decode text with
  | ok material => exact (decode_eq_ok_iff fun _ => Iff.rfl).mpr ⟨form, member, decoded⟩
  | error failure =>
      apply decode_eq_undecodable
      intro material accepted
      cases decoded.symm.trans (decode_of_recognises member recognised accepted)

theorem Registry.armoured_mem : Armoured.form (fun _ => "") ∈ standard.forms :=
  mem_standard_forms.mpr (.inl rfl)

theorem Registry.webKey_mem : WebKey.form ∈ standard.forms :=
  mem_standard_forms.mpr (.inr (.inl rfl))

theorem Registry.unarmoured_mem : Unarmoured.form ∈ standard.forms :=
  mem_standard_forms.mpr (.inr (.inr rfl))

theorem Registry.decode_armoured {text : String} (recognised : Armoured.recognises text = true)
    (unread : String) : standard.decode text = answer (Armoured.decode unread text).toOption := by
  rw [Armoured.toOption_decode, ← Armoured.toOption_decode ""]
  exact standard_decode_eq armoured_mem recognised

theorem Registry.decode_webKey {text : String} (recognised : WebKey.recognises text = true) :
    standard.decode text = answer (WebKey.decode text).toOption :=
  standard_decode_eq webKey_mem recognised

theorem Registry.decode_unarmoured {text : String}
    (recognised : Unarmoured.recognises text = true) :
    standard.decode text = answer (Unarmoured.decode text).toOption :=
  standard_decode_eq unarmoured_mem recognised

/-- Registries with the same texts decoded alike decode alike. -/
theorem Registry.decode_congr {registry other : Registry} {text : String}
    (same : ∀ material, registry.decode text = .ok material ↔ other.decode text = .ok material) :
    registry.decode text = other.decode text := by
  cases decoded : other.decode text with
  | ok material => exact (same material).mpr decoded
  | error failure =>
      have refused : ∀ material, other.decode text ≠ .ok material := by simp [decoded]
      rw [← decoded, decode_eq_undecodable refused]
      exact decode_eq_undecodable fun material accepted =>
        refused material ((same material).mp accepted)

/-- What is said about armour that is not read never leaves a registry. -/
theorem Registry.decode_worded (unread : String → String) (text : String) :
    (worded unread).decode text = standard.decode text := by
  have armoured : attempt? text (Armoured.form unread) =
      attempt? text (Armoured.form fun _ => "") := by
    simp only [attempt?, Armoured.form, Armoured.toOption_decode]
  simp only [standard, decode, worded, List.findSome?_cons, armoured]

/-- Trying the standard forms is unambiguous and leaves nothing out: no two recognise the
same text, each recognises what it decodes, and so every registry of these three gives what
any of them decodes, whatever their order and however often they are repeated. -/
theorem standard_forms_in_any_order (text : String) :
    (Registry.standard.forms.Pairwise fun form other =>
      ¬(form.recognises text = true ∧ other.recognises text = true)) ∧
    (∀ form ∈ Registry.standard.forms, ∀ material, form.decode text = .ok material →
      form.recognises text = true) ∧
    ∀ registry : Registry, (∀ form, form ∈ registry.forms ↔ form ∈ Registry.standard.forms) →
      registry.decode text = Registry.standard.decode text ∧
      ∀ material, registry.decode text = .ok material ↔
        ∃ form ∈ Registry.standard.forms, form.decode text = .ok material := by
  refine ⟨pairwise_recognises text, fun form member material => recognises_of_decode member,
    fun registry forms => ⟨?_, fun material => Registry.decode_eq_ok_iff forms⟩⟩
  apply Registry.decode_congr
  intro material
  rw [Registry.decode_eq_ok_iff forms, Registry.decode_eq_ok_iff fun _ => Iff.rfl]

/-- Plain base64 is tried first and last here, and a small key in it is decoded all the same. -/
theorem standard_forms_in_any_order_sample :
    let registry : Registry :=
      ⟨[Unarmoured.form, WebKey.form, Armoured.form fun _ => "", Armoured.form fun _ => "",
        Unarmoured.form]⟩
    let text := "MDECAQAwDQYJKoZIhvcNAQEBBQAEHTAbAgEAAgE3AgEDAgEHAgELAgEFAgEHAgEDAgEJ"
    let material : KeyMaterial := .privateKey (.rsa ⟨⟨55, 3⟩, 7, 11, 5⟩)
    (∀ form, form ∈ registry.forms ↔ form ∈ Registry.standard.forms) ∧
      registry.decode text = .ok material ∧ registry.decode text = Registry.standard.decode text := by
  intro registry text material
  have forms : ∀ form, form ∈ registry.forms ↔ form ∈ Registry.standard.forms := by
    intro form
    rw [Registry.mem_standard_forms]
    simp only [registry, List.mem_cons, List.not_mem_nil, or_false]
    tauto
  have decoded : Unarmoured.decode text = .ok material :=
    toOption_eq_some_iff.mp (by decide +kernel)
  obtain ⟨alike, accepted_iff⟩ := (standard_forms_in_any_order text).2.2 registry forms
  exact ⟨forms, (accepted_iff material).mpr ⟨_, Registry.unarmoured_mem, decoded⟩, alike⟩

end Attest.Key
