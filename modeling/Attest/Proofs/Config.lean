import Attest.Proofs.Config.Path
import Mathlib.Order.Lattice

/-!
# Configurations as tables of texts

A configuration takes a key for a path.  So it agrees with a table of texts only where the keys are
flat: names with dots between them, none of which goes on with a dot where another one ends.  A
configuration to which texts were written under flat keys does agree with the table of them, in
whatever order they were written.
-/

namespace Attest.Config

open Attest.Config.Path (IsName dotted isNamed ofNames ofText? textAt? route write)

variable {config : Config} {key other text : String}

/-! ## Keys of names -/

/-- Names with dots between them, as a key. -/
def IsDotted (key : String) : Prop :=
  ∃ root names, (∀ name ∈ root :: names, IsName name) ∧ key = dotted root names

theorem isDotted_iff : IsDotted key ↔ ∃ root names, ofText? key = some (ofNames root names) :=
  exists₂_congr fun _ _ => Path.ofText?_eq_ofNames_iff.symm

/-- A path without positions is one of names. -/
theorem isDotted_of_members {path : Path} (spelled : ofText? key = some path)
    (members : ∀ position, .item position ∉ path.steps) : IsDotted key := by
  obtain ⟨names, named⟩ := Path.exists_names members
  refine isDotted_iff.mpr ⟨path.root, names, ?_⟩
  rw [spelled, ofNames, ← named]

theorem isDotted_iff_isNamed : IsDotted key ↔ (ofText? key).any isNamed = true := by
  constructor
  · intro dotted
    obtain ⟨root, names, spelled⟩ := isDotted_iff.mp dotted
    simp [spelled, isNamed, ofNames]
  · intro named
    cases spelled : ofText? key with
    | none =>
        rw [spelled] at named
        cases named
    | some path =>
        rw [spelled, Option.any_some, isNamed, List.all_eq_true] at named
        exact isDotted_of_members spelled fun position member => nomatch named _ member

instance (key : String) : Decidable (IsDotted key) :=
  decidable_of_iff _ isDotted_iff_isNamed.symm

/-- One key goes on with a dot where the other one ends. -/
def Continues (key other : String) : Prop :=
  ∃ rest, other = key ++ "." ++ rest

theorem continues_iff : Continues key other ↔ (key ++ ".").toList <+: other.toList := by
  constructor
  · rintro ⟨rest, rfl⟩
    exact ⟨rest.toList, String.toList_append.symm⟩
  · rintro ⟨rest, whole⟩
    refine ⟨String.ofList rest, String.toList_inj.mp ?_⟩
    rw [String.toList_append, String.toList_ofList, whole]

instance (key other : String) : Decidable (Continues key other) :=
  decidable_of_iff _ continues_iff.symm

theorem eq_or_continues {root other : String} {names others : List String}
    (before : root :: names <+: other :: others) :
    dotted root names = dotted other others ∨
      Continues (dotted root names) (dotted other others) := by
  obtain ⟨later, whole⟩ := before
  rw [List.cons_append, List.cons.injEq] at whole
  obtain ⟨rfl, rfl⟩ := whole
  cases later with
  | nil => exact .inl (by rw [List.append_nil])
  | cons name later => exact .inr ⟨dotted name later, Path.dotted_append root names name later⟩

/-! ## Reading and writing under a key -/

/-- What a configuration says is read along the path that the key spells. -/
theorem text?_eq (config : Config) (key : String) :
    config.text? key =
      (ofText? key).bind fun path => textAt? path.route (.object config.root) := by
  rw [text?]
  cases ofText? key with
  | none => rfl
  | some path =>
      simp only [Option.bind_eq_bind, Option.bind_some, Path.get?, textAt?, route,
        List.foldlM_cons, Path.step?, Json.member?]

theorem text?_empty (key : String) : empty.text? key = none := by
  rw [text?_eq]
  cases ofText? key with
  | none => rfl
  | some path => rfl

/-- A key with a character of no path in it is found in no configuration. -/
theorem text?_eq_none (config : Config) {c : Char} (inside : c ∈ key.toList)
    (other : Path.isPathChar c = false) : config.text? key = none := by
  rw [text?_eq, Path.ofText?_eq_none inside other, Option.bind_none]

/-- A text is written along the path of names that its key spells. -/
theorem object_root_set {root : String} {names : List String}
    (spelled : ofText? key = some (ofNames root names)) (config : Config) (text : String) :
    Json.object (config.set key (.string text)).root =
      write text (root :: names) (.object config.root) := by
  have path : Path.ofKey key = ofNames root names := by rw [Path.ofKey, spelled, Option.getD_some]
  have replaced : (fun old => Path.merge old (.string text)) = fun _ => Json.string text := by
    funext old
    rw [Path.merge]
    exact fun members same => nomatch same
  rw [set, path, Path.set, replaced]
  rfl

theorem text?_set_self (dotted : IsDotted key) (config : Config) (text : String) :
    (config.set key (.string text)).text? key = some text := by
  obtain ⟨root, names, spelled⟩ := isDotted_iff.mp dotted
  rw [text?_eq, spelled, Option.bind_some, object_root_set spelled]
  exact Path.textAt?_write_self text (root :: names) _

/-- Under any other key either nothing is found or what was found before. -/
theorem text?_set_of_ne (dotted : IsDotted key) (different : other ≠ key) (config : Config)
    (text : String) :
    (config.set key (.string text)).text? other = none ∨
      (config.set key (.string text)).text? other = config.text? other := by
  obtain ⟨root, names, spelled⟩ := isDotted_iff.mp dotted
  rw [text?_eq, text?_eq, object_root_set spelled]
  cases spelled' : ofText? other with
  | none => exact .inl rfl
  | some path =>
      refine Path.textAt?_write_of_ne text (?_ : path.route ≠ (root :: names).map .member) _
      intro same
      obtain ⟨root', steps⟩ := path
      cases same
      have here := Path.ofText?_eq_ofNames_iff.mp spelled
      have there := Path.ofText?_eq_ofNames_iff.mp spelled'
      exact different (there.2.trans here.2.symm)

/-- As long as neither of two keys goes on where the other one ends, a text that is written under
the one does not change what is found under the other. -/
theorem text?_set_of_apart (dotted : IsDotted key) (dotted' : IsDotted other)
    (different : other ≠ key) (notBefore : ¬Continues key other) (notAfter : ¬Continues other key)
    (config : Config) (text : String) :
    (config.set key (.string text)).text? other = config.text? other := by
  obtain ⟨root, names, valid, rfl⟩ := dotted
  obtain ⟨root', names', valid', rfl⟩ := dotted'
  have spelled := Path.ofText?_eq_ofNames_iff.mpr ⟨valid, rfl⟩
  have spelled' := Path.ofText?_eq_ofNames_iff.mpr ⟨valid', rfl⟩
  rw [text?_eq, text?_eq, object_root_set spelled, spelled']
  have notBefore' : ¬root :: names <+: root' :: names' := fun before =>
    (eq_or_continues before).elim (fun same => different same.symm) notBefore
  have notAfter' : ¬root' :: names' <+: root :: names := fun after =>
    (eq_or_continues after).elim different notAfter
  exact Path.textAt?_write_of_apart text notBefore' notAfter' _

/-! ## Tables of texts -/

/-- The layer of the texts of a table. -/
def textLayer (entries : List (String × String)) : List (String × Json) :=
  entries.map fun entry => (entry.1, .string entry.2)

/-- Keys that a configuration can tell apart as they are. -/
structure Flat (keys : List String) : Prop where
  /-- Each is made of names with dots between them. -/
  dotted : ∀ key ∈ keys, IsDotted key
  /-- None goes on with a dot where another one ends. -/
  apart : ∀ key ∈ keys, ∀ other ∈ keys, ¬Continues key other

instance (keys : List String) : Decidable (Flat keys) :=
  decidable_of_iff
    ((∀ key ∈ keys, IsDotted key) ∧ ∀ key ∈ keys, ∀ other ∈ keys, ¬Continues key other)
    ⟨fun ⟨dotted, apart⟩ => ⟨dotted, apart⟩, fun flat => ⟨flat.dotted, flat.apart⟩⟩

variable {entries : List (String × String)}

theorem overlay_textLayer_cons (config : Config) (key text : String)
    (entries : List (String × String)) :
    config.overlay (textLayer ((key, text) :: entries)) =
      (config.set key (.string text)).overlay (textLayer entries) :=
  rfl

/-- Texts under keys that are apart from a key leave what is found under it. -/
theorem text?_overlay_of_apart (dotted : ∀ other ∈ Table.keys entries, IsDotted other)
    (dotted' : IsDotted key) (absent : key ∉ Table.keys entries)
    (apart : ∀ other ∈ Table.keys entries, ¬Continues key other ∧ ¬Continues other key)
    (config : Config) :
    (config.overlay (textLayer entries)).text? key = config.text? key := by
  induction entries generalizing config with
  | nil => rfl
  | cons entry entries ih =>
      obtain ⟨other, text⟩ := entry
      rw [Table.keys_cons, List.forall_mem_cons] at dotted apart
      rw [Table.keys_cons, List.mem_cons, not_or] at absent
      rw [overlay_textLayer_cons, ih dotted.2 absent.2 apart.2]
      exact text?_set_of_apart dotted.1 dotted' absent.1 apart.1.2 apart.1.1 config text

/-- Under no other key is a text found that was not found before. -/
theorem text?_overlay_of_not_mem (dotted : ∀ other ∈ Table.keys entries, IsDotted other)
    (absent : key ∉ Table.keys entries) (nothing : config.text? key = none) :
    (config.overlay (textLayer entries)).text? key = none := by
  induction entries generalizing config with
  | nil => exact nothing
  | cons entry entries ih =>
      obtain ⟨other, text⟩ := entry
      rw [Table.keys_cons, List.forall_mem_cons] at dotted
      rw [Table.keys_cons, List.mem_cons, not_or] at absent
      refine ih dotted.2 absent.2 ?_
      rcases text?_set_of_ne dotted.1 absent.1 config text with here | before
      · exact here
      · exact before.trans nothing

/-- Each text is found that is written under one of flat keys. -/
theorem text?_overlay_of_mem (flat : Flat (Table.keys entries))
    (distinct : (Table.keys entries).Nodup) (inside : (key, text) ∈ entries) (config : Config) :
    (config.overlay (textLayer entries)).text? key = some text := by
  induction entries generalizing config with
  | nil => cases inside
  | cons entry entries ih =>
      obtain ⟨other, written⟩ := entry
      have dotted := List.forall_mem_cons.mp flat.dotted
      obtain ⟨absent, distinct'⟩ := List.nodup_cons.mp distinct
      have flat' : Flat (Table.keys entries) :=
        ⟨dotted.2, fun key here other there =>
          flat.apart key (List.mem_cons_of_mem _ here) other (List.mem_cons_of_mem _ there)⟩
      rw [overlay_textLayer_cons]
      rcases List.mem_cons.mp inside with here | there
      · cases here
        rw [text?_overlay_of_apart dotted.2 dotted.1 absent]
        · exact text?_set_self dotted.1 config text
        · intro later among
          exact ⟨flat.apart key List.mem_cons_self later (List.mem_cons_of_mem _ among),
            flat.apart later (List.mem_cons_of_mem _ among) key List.mem_cons_self⟩
      · exact ih flat' distinct' there _

/-- A configuration of texts under flat keys agrees with the table of them. -/
theorem text?_overlay_of_flat (flat : Flat (Table.keys entries))
    (distinct : (Table.keys entries).Nodup) (key : String) :
    (empty.overlay (textLayer entries)).text? key = Table.find? key entries := by
  cases found : Table.find? key entries with
  | none =>
      exact text?_overlay_of_not_mem flat.dotted (Table.find?_eq_none_iff.mp found)
        (text?_empty key)
  | some text =>
      exact text?_overlay_of_mem flat distinct (Table.mem_of_find?_eq_some found) empty

/-- Some length is beyond all keys. -/
theorem exists_length_lt (entries : List (String × String)) :
    ∃ bound, ∀ key ∈ Table.keys entries, key.length < bound := by
  induction entries with
  | nil => exact ⟨0, fun key inside => absurd inside List.not_mem_nil⟩
  | cons entry entries ih =>
      obtain ⟨bound, below⟩ := ih
      refine ⟨max bound (entry.1.length + 1), List.forall_mem_cons.mpr ⟨?_, ?_⟩⟩
      · exact lt_max_of_lt_right (Nat.lt_succ_self _)
      · exact fun key inside => lt_max_of_lt_left (below key inside)

/-- Whatever configuration agrees with a table, the keys of the table are flat. -/
theorem flat_of_agrees (agrees : ∀ key, config.text? key = Table.find? key entries) :
    Flat (Table.keys entries) := by
  have readable : ∀ key ∈ Table.keys entries, ∃ path text, ofText? key = some path ∧
      textAt? path.route (.object config.root) = some text := by
    intro key inside
    obtain ⟨text, found⟩ := Option.ne_none_iff_exists'.mp
      (mt Table.find?_eq_none_iff.mp (not_not_intro inside))
    rw [← agrees key, text?_eq] at found
    obtain ⟨path, spelled, found⟩ := Option.bind_eq_some_iff.mp found
    exact ⟨path, text, spelled, found⟩
  have dotted : ∀ key ∈ Table.keys entries, IsDotted key := by
    intro key inside
    obtain ⟨path, text, spelled, found⟩ := readable key inside
    refine isDotted_of_members spelled fun position member => ?_
    -- A path with a position has texts that are too long to be keys of the table.
    obtain ⟨bound, below⟩ := exists_length_lt entries
    obtain ⟨longer, length, spelled'⟩ := Path.exists_longer_text spelled member bound
    have absent : longer ∉ Table.keys entries := fun inside =>
      absurd (below longer inside) (by omega)
    have missing := agrees longer
    rw [text?_eq, spelled', Option.bind_some, found, Table.find?_eq_none_iff.mpr absent] at missing
    cases missing
  refine ⟨dotted, fun key inside other inside' => ?_⟩
  rintro ⟨rest, rfl⟩
  obtain ⟨root, names, valid, rfl⟩ := dotted key inside
  obtain ⟨path, text, spelled, found⟩ := readable _ inside
  obtain ⟨path', text', spelled', found'⟩ := readable _ inside'
  obtain ⟨step, later, rfl⟩ := Path.ofText?_dotted_append valid spelled'
  cases spelled.symm.trans (Path.ofText?_eq_ofNames_iff.mpr ⟨valid, rfl⟩)
  cases (Path.textAt?_append found step later).symm.trans found'

/-- A configuration of texts agrees with the table of them exactly when the keys are flat. -/
theorem agrees_iff_flat (distinct : (Table.keys entries).Nodup) :
    (∀ key, (empty.overlay (textLayer entries)).text? key = Table.find? key entries) ↔
      Flat (Table.keys entries) :=
  ⟨flat_of_agrees, fun flat => text?_overlay_of_flat flat distinct⟩

example : Flat ["signing-key", "sts.alias", "sts.key"] := by decide

example : ¬Flat ["sts.alias", "sts"] := by decide

end Attest.Config
