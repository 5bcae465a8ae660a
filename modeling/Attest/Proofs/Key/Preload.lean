import Attest.Proofs.Key.LocalService

/-!
# Preloading keys

A preload adds the keys of its entries one after the other, up to the first entry that yields no
public key.  It leaves what adding the keys before that entry leaves and answers with the failure
of that entry.  It sees nothing of the vault, of the entries that follow, and of files that it
does not come to.  Adding a key changes nothing when it fails.
-/

namespace Attest.Key.LocalService

variable {files : Files} {service left : LocalService} {registry : Registry}
  {entry : PublicKeyEntry} {entries : List PublicKeyEntry} {id text : String} {failure : Failure}

/-! ## Entries -/

/-- The text of an entry: its own, or that of its file when it has none of its own. -/
inductive Supplies (files : Files) (entry : PublicKeyEntry) : String → Prop
  | value {text : String} (own : entry.value = some text) : Supplies files entry text
  | file {path text : String} (without : entry.value = none) (named : entry.path = some path)
      (read : files.text path = .ok text) : Supplies files entry text

/-- The request that adds the key of an entry, where its text is a public key. -/
inductive Adds (registry : Registry) (files : Files) (entry : PublicKeyEntry) : Request → Prop
  | key {text : String} {key : PublicKey} (supplies : Supplies files entry text)
      (decoded : registry.decode text = .ok (.publicKey key)) :
      Adds registry files entry (.add entry.id text)

/-- Why an entry yields no key. -/
inductive Fails (registry : Registry) (files : Files) (entry : PublicKeyEntry) : Failure → Prop
  | neither (without : entry.value = none) (unnamed : entry.path = none) :
      Fails registry files entry
        (.resolution ("Public key '" ++ entry.id ++ "' has neither a value nor a path"))
  | unread {path : String} {fault : Files.Fault} (without : entry.value = none)
      (named : entry.path = some path) (unreadable : files.text path = .error fault) :
      Fails registry files entry (.resolution ("Failed to read public key '" ++ entry.id ++
        "' from '" ++ path ++ "': " ++ fault.message))
  | undecoded {text : String} (supplies : Supplies files entry text)
      (undecodable : ∀ material, registry.decode text ≠ .ok material) :
      Fails registry files entry (.parse "No parser could decode the supplied key material")
  | otherKind {text : String} {material : KeyMaterial} (supplies : Supplies files entry text)
      (decoded : registry.decode text = .ok material)
      (other : ∀ key, material ≠ .publicKey key) :
      Fails registry files entry
        (.typeMismatch "The specified resource did not contain public key material.")

theorem textOf_eq_ok_iff : textOf files entry = .ok text ↔ Supplies files entry text := by
  rw [textOf]
  constructor
  · intro taken
    split at taken
    · next own =>
        cases taken
        exact .value own
    · next path without named =>
        cases read : files.text path with
        | error fault =>
            rw [read] at taken
            cases taken
        | ok content =>
            rw [read] at taken
            cases taken
            exact .file without named read
    · cases taken
  · rintro (own | ⟨without, named, read⟩)
    · simp only [own]
    · simp only [without, named, read]
      rfl

/-- Files count only where an entry has no text of its own, and only at its path. -/
theorem textOf_congr {other : Files}
    (same : entry.value = none → ∀ path, entry.path = some path →
      other.text path = files.text path) :
    textOf other entry = textOf files entry := by
  cases own : entry.value with
  | some text => simp only [textOf, own]
  | none =>
      cases named : entry.path with
      | none => simp only [textOf, own, named]
      | some path => simp only [textOf, own, named, same own path named]

/-! ## Adding a key -/

theorem add_eq_ok_iff :
    service.add id text = .ok left ↔
      ∃ key, service.registry.decode text = .ok (.publicKey key) ∧
        left = { service with cache := Table.insert id key service.cache } := by
  simp only [add_eq, ← Registry.decodePublic_eq_ok_iff]
  cases service.registry.decodePublic text <;> simp [Except.map, eq_comm]

theorem add_of_decoded {key : PublicKey}
    (decoded : service.registry.decode text = .ok (.publicKey key)) (id : String) :
    service.add id text = .ok (service.after (.add id text)) := by
  rw [after, add_eq, Registry.decodePublic_eq_ok_iff.mpr decoded]
  rfl

theorem add_eq_error_iff :
    service.add id text = .error failure ↔ service.registry.decodePublic text = .error failure := by
  rw [add_eq]
  cases service.registry.decodePublic text <;> simp [Except.map]

/-- A key that cannot be added leaves the service as it is. -/
theorem after_of_refused (refused : service.add id text = .error failure) :
    service.after (.add id text) = service := by
  rw [after, refused]
  rfl

/-- Whether a key can be added depends on its text alone, so that an addition that fails may be
left out of any run. -/
theorem run_of_refused (refused : service.add id text = .error failure)
    (earlier later : List Request) :
    service.run (earlier ++ .add id text :: later) = service.run (earlier ++ later) := by
  have refused' : (service.run earlier).add id text = .error failure := by
    rw [add_eq_error_iff, registry_run]
    exact add_eq_error_iff.mp refused
  rw [run_append, run_append, run_cons, after_of_refused refused']

/-! ## One entry -/

variable {request : Request}

theorem addEntry_of_supplies (supplies : Supplies files entry text) :
    addEntry files service entry = service.add entry.id text := by
  rw [addEntry, textOf_eq_ok_iff.mpr supplies]
  rfl

theorem addEntry_of_adds (adds : Adds service.registry files entry request) :
    addEntry files service entry = .ok (service.after request) := by
  rcases adds with ⟨supplies, decoded⟩
  rw [addEntry_of_supplies supplies, add_of_decoded decoded]

theorem addEntry_of_fails (fails : Fails service.registry files entry failure) :
    addEntry files service entry = .error failure := by
  cases fails with
  | neither without unnamed =>
      simp only [addEntry, textOf, without, unnamed]
      rfl
  | unread without named unreadable =>
      simp only [addEntry, textOf, without, named, unreadable]
      rfl
  | undecoded supplies undecodable =>
      rw [addEntry_of_supplies supplies, add_eq_error_iff, Registry.decodePublic_eq_error_iff]
      exact .inl (Registry.decode_eq_undecodable undecodable)
  | otherKind supplies decoded other =>
      rw [addEntry_of_supplies supplies, add_eq_error_iff, Registry.decodePublic_eq_error_iff]
      exact .inr ⟨_, decoded, other, rfl⟩

theorem adds_or_fails_of_supplies (registry : Registry) (supplies : Supplies files entry text) :
    (∃ request, Adds registry files entry request) ∨
      ∃ failure, Fails registry files entry failure := by
  cases decoded : registry.decode text with
  | error failure => exact .inr ⟨_, .undecoded supplies fun material => by simp [decoded]⟩
  | ok material =>
      cases material with
      | publicKey key => exact .inl ⟨_, .key supplies decoded⟩
      | privateKey key => exact .inr ⟨_, .otherKind supplies decoded fun key same => by cases same⟩
      | symmetric key => exact .inr ⟨_, .otherKind supplies decoded fun key same => by cases same⟩

/-- Every entry is added or fails. -/
theorem adds_or_fails (registry : Registry) (files : Files) (entry : PublicKeyEntry) :
    (∃ request, Adds registry files entry request) ∨
      ∃ failure, Fails registry files entry failure := by
  cases own : entry.value with
  | some text => exact adds_or_fails_of_supplies registry (.value own)
  | none =>
      cases named : entry.path with
      | none => exact .inr ⟨_, .neither own named⟩
      | some path =>
          cases read : files.text path with
          | error fault => exact .inr ⟨_, .unread own named read⟩
          | ok text => exact adds_or_fails_of_supplies registry (.file own named read)

/-! ## Entries one after the other -/

/-- The requests that add the keys of entries. -/
def AddsAll (registry : Registry) (files : Files) : List PublicKeyEntry → List Request → Prop :=
  List.Forall₂ (Adds registry files)

/-- What a preload answers and leaves: all entries are added, or those before the first that
fails. -/
inductive Preloaded (files : Files) (service : LocalService) :
    List PublicKeyEntry → Outcome Unit × LocalService → Prop
  | all {entries : List PublicKeyEntry} {additions : List Request}
      (added : AddsAll service.registry files entries additions) :
      Preloaded files service entries (.ok (), service.run additions)
  | stopped {before later : List PublicKeyEntry} {entry : PublicKeyEntry}
      {additions : List Request} {failure : Failure}
      (added : AddsAll service.registry files before additions)
      (fails : Fails service.registry files entry failure) :
      Preloaded files service (before ++ entry :: later) (.error failure, service.run additions)

theorem preload_of_fails (fails : Fails service.registry files entry failure)
    (later : List PublicKeyEntry) :
    service.preload files (entry :: later) = (.error failure, service) := by
  rw [preload, addEntry_of_fails fails]

/-- After entries that are added, a preload goes on where their additions lead. -/
theorem preload_of_addsAll {before : List PublicKeyEntry} {additions : List Request}
    (added : AddsAll service.registry files before additions) (rest : List PublicKeyEntry) :
    service.preload files (before ++ rest) = (service.run additions).preload files rest := by
  -- Adding keys leaves the registry alone, which is all that the entries depend on.
  generalize registered : service.registry = registry at added
  induction added generalizing service with
  | nil => rfl
  | cons adds _ ih =>
      rw [List.cons_append, preload, addEntry_of_adds (registered ▸ adds), run_cons]
      exact ih ((registry_after service _).trans registered)

theorem preload_of_preloaded {result : Outcome Unit × LocalService}
    (preloaded : Preloaded files service entries result) :
    service.preload files entries = result := by
  cases preloaded with
  | all added =>
      have whole := preload_of_addsAll added []
      rwa [List.append_nil] at whole
  | stopped added fails =>
      rw [preload_of_addsAll added]
      apply preload_of_fails
      rwa [registry_run]

/-- Either all entries are added, or there is a first that fails. -/
theorem exists_preloaded (files : Files) (service : LocalService) (entries : List PublicKeyEntry) :
    ∃ result, Preloaded files service entries result := by
  induction entries with
  | nil => exact ⟨_, .all .nil⟩
  | cons entry rest ih =>
      rcases adds_or_fails service.registry files entry with ⟨request, adds⟩ | ⟨failure, fails⟩
      · rcases ih with ⟨result, added | ⟨added, fails⟩⟩
        · exact ⟨_, .all (.cons adds added)⟩
        · exact ⟨_, .stopped (.cons adds added) fails⟩
      · exact ⟨_, .stopped (show AddsAll service.registry files [] [] from .nil) fails⟩

theorem preload_eq_iff {result : Outcome Unit × LocalService} :
    service.preload files entries = result ↔ Preloaded files service entries result := by
  constructor
  · rintro rfl
    obtain ⟨result, preloaded⟩ := exists_preloaded files service entries
    rwa [preload_of_preloaded preloaded]
  · exact preload_of_preloaded

theorem preload_singleton (files : Files) (service : LocalService) (id text : String)
    (path : Option String) :
    service.preload files [⟨id, some text, path⟩] =
      ((service.add id text).map fun _ => (), service.after (.add id text)) := by
  rw [preload, addEntry_of_supplies (.value rfl), after]
  cases service.add id text <;> rfl

/-- Two lists of entries are preloaded one after the other, unless the first fails. -/
theorem preload_append (files : Files) (service : LocalService)
    (first second : List PublicKeyEntry) :
    service.preload files (first ++ second) =
      match service.preload files first with
      | (.ok (), left) => left.preload files second
      | (.error failure, left) => (.error failure, left) := by
  generalize met : service.preload files first = result
  cases preload_eq_iff.mp met with
  | all added => exact preload_of_addsAll added second
  | stopped added fails =>
      rw [List.append_assoc, List.cons_append]
      exact preload_of_preloaded (.stopped added fails)

/-- When every entry has a text or a path, a preload that fails does so for another reason. -/
theorem preload_ne_withoutText
    (told : ∀ entry ∈ entries, entry.value.isSome ∨ entry.path.isSome) (files : Files)
    (service : LocalService) (id : String) :
    (service.preload files entries).1 ≠ .error (withoutText id) := by
  generalize met : service.preload files entries = result
  cases preload_eq_iff.mp met with
  | all added => nofun
  | @stopped before later entry additions failure added fails =>
      intro blamed
      cases fails with
      | neither without unnamed =>
          have present := told entry (List.mem_append_right before List.mem_cons_self)
          rw [without, unnamed] at present
          exact absurd present (by decide)
      | unread =>
          simp [withoutText, String.append_assoc, ← String.toList_inj] at blamed
      | undecoded | otherKind => cases blamed

/-! ## What a preload does not see -/

/-- The vault and the count of its readings play no part. -/
theorem preload_withVault (files : Files) (service : LocalService) (entries : List PublicKeyEntry)
    (vault : Vault) (reads : Nat) :
    preload files { service with vault, reads } entries =
      ((service.preload files entries).1,
        { (service.preload files entries).2 with vault, reads }) := by
  apply Prod.ext
  · generalize met : service.preload files entries = result
    cases preload_eq_iff.mp met with
    | all added =>
        have moved : Preloaded files { service with vault, reads } entries _ := .all added
        rw [preload_of_preloaded moved]
    | @stopped before later entry _ _ added fails =>
        have moved : Preloaded files { service with vault, reads } (before ++ entry :: later) _ :=
          .stopped added fails
        rw [preload_of_preloaded moved]
  · rw [preload_eq, preload_eq]

/-- The paths that a preload comes to: those of entries without a text of their own that only
entries with a key precede. -/
inductive Consults (registry : Registry) (files : Files) (entries : List PublicKeyEntry) :
    String → Prop
  | path {before later : List PublicKeyEntry} {entry : PublicKeyEntry} {additions : List Request}
      {path : String} (split : entries = before ++ entry :: later)
      (added : AddsAll registry files before additions) (without : entry.value = none)
      (named : entry.path = some path) : Consults registry files entries path

/-- Files at other paths play no part. -/
theorem preload_congr {other : Files}
    (same : ∀ path, Consults service.registry files entries path →
      other.text path = files.text path) :
    service.preload other entries = service.preload files entries := by
  induction entries generalizing service with
  | nil => rfl
  | cons entry rest ih =>
      have first : entry :: rest = [] ++ entry :: rest := rfl
      have supplied : textOf other entry = textOf files entry :=
        textOf_congr fun without path named => same path (.path first .nil without named)
      have met : addEntry other service entry = addEntry files service entry := by
        rw [addEntry, addEntry, supplied]
      rcases adds_or_fails service.registry files entry with ⟨request, adds⟩ | ⟨failure, fails⟩
      · rw [preload, preload, met, addEntry_of_adds adds]
        -- What the later entries come to, the whole list comes to.
        apply ih
        rintro path ⟨rfl, added, without, named⟩
        rw [registry_after] at added
        exact same path (.path rfl (.cons adds added) without named)
      · rw [preload, preload, met, addEntry_of_fails fails]

/-! ## The laws of preloading -/

/-- Preloading is adding one after the other up to the first entry that fails, and adding is all
or nothing. -/
structure AddsInOrder (files : Files) (service : LocalService) : Prop where
  result_iff : ∀ entries result,
    service.preload files entries = result ↔ Preloaded files service entries result
  append : ∀ first second, service.preload files (first ++ second) =
    match service.preload files first with
    | (.ok (), left) => left.preload files second
    | (.error failure, left) => (.error failure, left)
  /-- The entries after one that fails are not looked at. -/
  stops : ∀ entries failure, (service.preload files entries).1 = .error failure →
    ∀ later, service.preload files (entries ++ later) = service.preload files entries
  /-- Files are read at the paths of entries without a text, up to the one that fails. -/
  unread : ∀ entries other, (∀ path, Consults service.registry files entries path →
    other.text path = files.text path) →
      service.preload other entries = service.preload files entries
  /-- Whatever the vault holds, and however often it was read, the same keys are added with the
  same answer. -/
  vault : ∀ entries vault reads, preload files { service with vault, reads } entries =
    ((service.preload files entries).1, { (service.preload files entries).2 with vault, reads })
  /-- Only the keys at hand change. -/
  kept : ∀ entries, (service.preload files entries).2 =
    { service with cache := (service.preload files entries).2.cache }
  add_ok_iff : ∀ id text left, service.add id text = .ok left ↔
    ∃ key, service.registry.decode text = .ok (.publicKey key) ∧
      left = { service with cache := Table.insert id key service.cache }
  add_error_iff : ∀ id text failure, service.add id text = .error failure ↔
    service.registry.decode text = .error failure ∨
      ∃ material, service.registry.decode text = .ok material ∧
        (∀ key, material ≠ .publicKey key) ∧ failure = .typeMismatch
          "The specified resource did not contain public key material."
  /-- An entry with a text of its own is an addition, whether that fails or not. -/
  single : ∀ id text path, service.preload files [⟨id, some text, path⟩] =
    ((service.add id text).map fun _ => (), service.after (.add id text))
  /-- An addition that fails may as well not be asked for, whatever was asked before and is
  asked later. -/
  refused : ∀ id text failure, service.add id text = .error failure →
    service.after (.add id text) = service ∧
      ∀ earlier later, service.run (earlier ++ .add id text :: later) =
        service.run (earlier ++ later)

theorem addsInOrder_preload (files : Files) (service : LocalService) :
    AddsInOrder files service := by
  constructor
  case result_iff => exact fun entries result => preload_eq_iff
  case append => exact preload_append files service
  case stops =>
    intro entries failure failed later
    rw [preload_append]
    cases preloaded : service.preload files entries with
    | mk answer left =>
        rw [preloaded] at failed
        cases failed
        rfl
  case unread => exact fun entries other same => preload_congr same
  case vault => exact preload_withVault files service
  case kept =>
    intro entries
    rw [preload_eq]
  case add_ok_iff => exact fun id text left => add_eq_ok_iff
  case add_error_iff =>
    intro id text failure
    rw [add_eq_error_iff, Registry.decodePublic_eq_error_iff]
    rfl
  case single => exact preload_singleton files service
  case refused =>
    intro id text failure refused
    exact ⟨after_of_refused refused, run_of_refused refused⟩

end Attest.Key.LocalService
