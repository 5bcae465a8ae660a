import Attest.Config
import Attest.Proofs.Table
import Mathlib.Data.List.Basic
import Mathlib.Data.List.TakeWhile
import Mathlib.Data.String.Basic

/-!
# Paths that texts spell

A text spells a path when it is a name and then steps, each as far as it goes.  A path of names has
one text only, its names with dots between them; a position in a list has a text of any greater
length, because blanks may stand around it.

A text that is written along a path of names is read along that path.  Along any other path either
nothing is read or what was read before, and as long as neither path goes on where the other one
ends, it is what was read before.
-/

namespace Attest.Config.Path

/-! ## Names -/

/-- A text that can be a name in a path. -/
def IsName (name : String) : Prop :=
  name ≠ "" ∧ ∀ c ∈ name.toList, isNameChar c = true

instance (name : String) : Decidable (IsName name) :=
  inferInstanceAs (Decidable (_ ∧ _))

/-- No name goes on at the beginning of a text. -/
def EndsName (rest : List Char) : Prop :=
  ∀ c ∈ rest.head?, isNameChar c = false

theorem endsName_nil : EndsName [] := by
  simp [EndsName]

theorem endsName_dot (rest : List Char) : EndsName ('.' :: rest) := by
  intro c first
  cases first
  rfl

theorem takeWhile_of_endsName {rest : List Char} (ends : EndsName rest) :
    rest.takeWhile isNameChar = [] := by
  cases rest with
  | nil => rfl
  | cons c rest => rw [List.takeWhile_cons, ends c rfl, if_neg Bool.false_ne_true]

theorem dropWhile_of_endsName {rest : List Char} (ends : EndsName rest) :
    rest.dropWhile isNameChar = rest := by
  cases rest with
  | nil => rfl
  | cons c rest => rw [List.dropWhile_cons, ends c rfl, if_neg Bool.false_ne_true]

theorem endsName_dropWhile (text : List Char) : EndsName (text.dropWhile isNameChar) := by
  intro c first
  have stopped := List.head?_dropWhile_not isNameChar text
  rw [Option.mem_def.mp first] at stopped
  exact stopped

/-- A name is read as far as it goes. -/
theorem readName?_eq_some_iff {text rest : List Char} {name : String} :
    readName? text = some (name, rest) ↔
      IsName name ∧ EndsName rest ∧ text = name.toList ++ rest := by
  constructor
  · intro read
    rw [readName?] at read
    split at read
    · cases read
    · next nonempty =>
      cases read
      refine ⟨⟨?_, ?_⟩, endsName_dropWhile text, ?_⟩
      · rw [ne_eq, String.ofList_eq_empty_iff, ← List.isEmpty_iff]
        exact nonempty
      · rw [String.toList_ofList]
        exact fun c member => List.mem_takeWhile_imp member
      · rw [String.toList_ofList, List.takeWhile_append_dropWhile]
  · rintro ⟨⟨nonempty, chars⟩, ends, rfl⟩
    have taken : (name.toList ++ rest).takeWhile isNameChar = name.toList := by
      rw [List.takeWhile_append_of_pos chars, takeWhile_of_endsName ends, List.append_nil]
    have left : (name.toList ++ rest).dropWhile isNameChar = rest := by
      rw [List.dropWhile_append_of_pos chars, dropWhile_of_endsName ends]
    have something : ¬name.toList.isEmpty = true := by
      rw [List.isEmpty_iff, String.toList_eq_nil_iff]
      exact nonempty
    simp only [readName?, taken, left, if_neg something, String.ofList_toList]

/-! ## Steps -/

/-- Whether a character can stand in the text of a path. -/
def isPathChar (c : Char) : Bool :=
  isNameChar c || isPadding c || c == '.' || c == '[' || c == ']'

theorem isPathChar_of_isNameChar {c : Char} (char : isNameChar c = true) :
    isPathChar c = true := by
  simp [isPathChar, char]

theorem isPathChar_of_isPadding {c : Char} (char : isPadding c = true) :
    isPathChar c = true := by
  simp [isPathChar, char]

/-- The steps that a text spells to its end. -/
inductive Spells : List Char → List Step → Prop
  | done : Spells [] []
  | member {text rest : List Char} {name : String} {steps : List Step}
      (read : readName? text = some (name, rest)) (later : Spells rest steps) :
      Spells ('.' :: text) (.member name :: steps)
  | item {text rest : List Char} {position : Int} {steps : List Step}
      (read : readPosition? text = some (position, rest)) (later : Spells rest steps) :
      Spells ('[' :: text) (.item position :: steps)

theorem spells_nil_iff {steps : List Step} : Spells [] steps ↔ steps = [] := by
  constructor
  · rintro ⟨⟩
    rfl
  · rintro rfl
    exact .done

theorem spells_dot_iff {text : List Char} {steps : List Step} :
    Spells ('.' :: text) steps ↔ ∃ name rest later, readName? text = some (name, rest) ∧
      Spells rest later ∧ steps = .member name :: later := by
  constructor
  · rintro (_ | ⟨read, later⟩)
    exact ⟨_, _, _, read, later, rfl⟩
  · rintro ⟨name, rest, later, read, spelled, rfl⟩
    exact .member read spelled

theorem spells_bracket_iff {text : List Char} {steps : List Step} :
    Spells ('[' :: text) steps ↔ ∃ position rest later,
      readPosition? text = some (position, rest) ∧ Spells rest later ∧
        steps = .item position :: later := by
  constructor
  · rintro (_ | _ | ⟨read, later⟩)
    exact ⟨_, _, _, read, later, rfl⟩
  · rintro ⟨position, rest, later, read, spelled, rfl⟩
    exact .item read spelled

theorem length_of_readName? {text rest : List Char} {name : String}
    (read : readName? text = some (name, rest)) : rest.length ≤ text.length := by
  rw [(readName?_eq_some_iff.mp read).2.2, List.length_append]
  exact Nat.le_add_left _ _

/-- After its sign a position is read up to a closing bracket. -/
theorem exists_eq_append_of_digits {signed : Nat → Int} {digits rest : List Char} {position : Int}
    (read : ((Text.natural? 10 (digits.takeWhile Char.isDigit)).bind fun magnitude =>
      match (digits.dropWhile Char.isDigit).dropWhile isPadding with
      | ']' :: rest => if fitsInt64 (signed magnitude) then some (signed magnitude, rest) else none
      | _ => none) = some (position, rest)) :
    ∃ inside, digits = inside ++ ']' :: rest ∧ ∀ c ∈ inside, isPathChar c = true := by
  obtain ⟨magnitude, -, closed⟩ := Option.bind_eq_some_iff.mp read
  split at closed
  · next closing =>
    obtain ⟨-, same⟩ := Option.ite_none_right_eq_some.mp closed
    cases same
    refine ⟨digits.takeWhile Char.isDigit ++
      (digits.dropWhile Char.isDigit).takeWhile isPadding, ?_, List.forall_mem_append.mpr ⟨?_, ?_⟩⟩
    · rw [← closing, List.append_assoc, List.takeWhile_append_dropWhile,
        List.takeWhile_append_dropWhile]
    · intro c inside
      have digit : c.isDigit = true := List.mem_takeWhile_imp inside
      simp [isPathChar, isNameChar, Char.isAlphanum, digit]
    · exact fun c inside => isPathChar_of_isPadding (List.mem_takeWhile_imp inside)
  · cases closed

/-- A position is read up to a closing bracket. -/
theorem exists_eq_append_of_readPosition? {text rest : List Char} {position : Int}
    (read : readPosition? text = some (position, rest)) :
    ∃ inside, text = inside ++ ']' :: rest ∧ ∀ c ∈ inside, isPathChar c = true := by
  have padding : ∀ c ∈ text.takeWhile isPadding, isPathChar c = true :=
    fun c inside => isPathChar_of_isPadding (List.mem_takeWhile_imp inside)
  have cut := List.takeWhile_append_dropWhile (p := isPadding) (l := text)
  rw [readPosition?] at read
  simp only [Option.bind_eq_bind] at read
  split at read
  case h_1 digits signed =>
    obtain ⟨inside, split, chars⟩ := exists_eq_append_of_digits read
    refine ⟨text.takeWhile isPadding ++ '-' :: inside, ?_, ?_⟩
    · rw [List.append_assoc, List.cons_append, ← split, ← signed, cut]
    · exact List.forall_mem_append.mpr ⟨padding, List.forall_mem_cons.mpr ⟨rfl, chars⟩⟩
  case h_2 digits =>
    obtain ⟨inside, split, chars⟩ := exists_eq_append_of_digits read
    refine ⟨text.takeWhile isPadding ++ inside, ?_, ?_⟩
    · rw [List.append_assoc, ← split, cut]
    · exact List.forall_mem_append.mpr ⟨padding, chars⟩

theorem length_of_readPosition? {text rest : List Char} {position : Int}
    (read : readPosition? text = some (position, rest)) : rest.length ≤ text.length := by
  obtain ⟨inside, cut, -⟩ := exists_eq_append_of_readPosition? read
  rw [cut, List.length_append, List.length_cons]
  omega

theorem readSteps?_of_other {fuel : Nat} {c : Char} {text : List Char} (noDot : c ≠ '.')
    (noBracket : c ≠ '[') : readSteps? (fuel + 1) (c :: text) = none := by
  rw [readSteps?]
  · rintro ⟨⟩
  · exact fun rest same => noDot (List.cons.inj same).1
  · exact fun rest same => noBracket (List.cons.inj same).1

/-- A part of the text is read for a step, and the steps that are spelled after it. -/
theorem bind_readSteps?_eq_some_iff {α : Type} {part : Option (α × List Char)} {step : α → Step}
    {fuel : Nat} {steps : List Step}
    (spelled : ∀ a rest, part = some (a, rest) → ∀ {later},
      readSteps? fuel rest = some later ↔ Spells rest later) :
    (part.bind fun read =>
        (readSteps? fuel read.2).bind fun later => some (step read.1 :: later)) = some steps ↔
      ∃ a rest later, part = some (a, rest) ∧ Spells rest later ∧ steps = step a :: later := by
  simp only [Option.bind_eq_some_iff, Option.some_inj, Prod.exists]
  constructor
  · rintro ⟨a, rest, read, later, after, rfl⟩
    exact ⟨a, rest, later, read, (spelled a rest read).mp after, rfl⟩
  · rintro ⟨a, rest, later, read, after, rfl⟩
    exact ⟨a, rest, read, later, (spelled a rest read).mpr after, rfl⟩

/-- Reading steps with fuel for every character finds what the text spells. -/
theorem readSteps?_eq_some_iff {fuel : Nat} {text : List Char} {steps : List Step}
    (enough : text.length ≤ fuel) : readSteps? fuel text = some steps ↔ Spells text steps := by
  induction fuel generalizing text steps with
  | zero =>
      rw [List.length_eq_zero_iff.mp (Nat.le_zero.mp enough), readSteps?, spells_nil_iff]
      exact Option.some_inj.trans eq_comm
  | succ fuel ih =>
      cases text with
      | nil =>
          rw [readSteps?, spells_nil_iff]
          exact Option.some_inj.trans eq_comm
      | cons c text =>
          have shorter : text.length ≤ fuel := Nat.le_of_succ_le_succ enough
          by_cases dot : c = '.'
          · subst dot
            rw [readSteps?, spells_dot_iff]
            exact bind_readSteps?_eq_some_iff fun name rest read =>
              ih ((length_of_readName? read).trans shorter)
          · by_cases bracket : c = '['
            · subst bracket
              rw [readSteps?, spells_bracket_iff]
              exact bind_readSteps?_eq_some_iff fun position rest read =>
                ih ((length_of_readPosition? read).trans shorter)
            · rw [readSteps?_of_other dot bracket]
              constructor
              · rintro ⟨⟩
              · rintro (_ | _ | _)
                · exact absurd rfl dot
                · exact absurd rfl bracket

theorem Spells.chars {text : List Char} {steps : List Step} (spelled : Spells text steps) :
    ∀ c ∈ text, isPathChar c = true := by
  induction spelled with
  | done => exact fun c inside => absurd inside List.not_mem_nil
  | member read later ih =>
      obtain ⟨⟨-, chars⟩, -, rfl⟩ := readName?_eq_some_iff.mp read
      have name := fun c inside => isPathChar_of_isNameChar (chars c inside)
      exact List.forall_mem_cons.mpr ⟨rfl, List.forall_mem_append.mpr ⟨name, ih⟩⟩
  | item read later ih =>
      obtain ⟨inside, rfl, chars⟩ := exists_eq_append_of_readPosition? read
      exact List.forall_mem_cons.mpr
        ⟨rfl, List.forall_mem_append.mpr ⟨chars, List.forall_mem_cons.mpr ⟨rfl, ih⟩⟩⟩

/-! ## Texts of paths -/

theorem ofText?_eq_some_iff {text : String} {path : Path} :
    ofText? text = some path ↔ ∃ rest, IsName path.root ∧ EndsName rest ∧
      text.toList = path.root.toList ++ rest ∧ Spells rest path.steps := by
  obtain ⟨root, steps⟩ := path
  rw [ofText?]
  simp only [Option.bind_eq_bind, Option.bind_eq_some_iff, Prod.exists, Option.pure_def,
    Option.some_inj, Path.mk.injEq, readName?_eq_some_iff, readSteps?_eq_some_iff (Nat.le_refl _)]
  constructor
  · rintro ⟨_, rest, ⟨name, ends, cut⟩, _, spelled, rfl, rfl⟩
    exact ⟨rest, name, ends, cut, spelled⟩
  · rintro ⟨rest, name, ends, cut, spelled⟩
    exact ⟨root, rest, ⟨name, ends, cut⟩, steps, spelled, rfl, rfl⟩

/-- A text with any other character in it spells no path. -/
theorem ofText?_eq_none {text : String} {c : Char} (inside : c ∈ text.toList)
    (other : isPathChar c = false) : ofText? text = none := by
  refine Option.eq_none_iff_forall_ne_some.mpr fun path spelled => ?_
  obtain ⟨rest, ⟨-, chars⟩, -, cut, steps⟩ := ofText?_eq_some_iff.mp spelled
  have char : isPathChar c = true := by
    rcases List.mem_append.mp (cut ▸ inside) with name | later
    · exact isPathChar_of_isNameChar (chars c name)
    · exact steps.chars c later
  rw [other] at char
  cases char

/-- A position may have one more blank before it. -/
theorem readPosition?_blank (text : List Char) :
    readPosition? (' ' :: text) = readPosition? text :=
  rfl

/-- Steps with a position among them have a longer text. -/
theorem Spells.exists_longer {text : List Char} {steps : List Step} (spelled : Spells text steps)
    {position : Int} (inside : .item position ∈ steps) :
    ∃ longer, longer.length = text.length + 1 ∧ longer.head? = text.head? ∧
      Spells longer steps := by
  induction spelled with
  | done => cases inside
  | @member text rest name steps read later ih =>
      obtain ⟨valid, ends, rfl⟩ := readName?_eq_some_iff.mp read
      obtain ⟨longer, length, first, spelled⟩ := ih (by simpa using inside)
      have ends' : EndsName longer := by rwa [EndsName, first]
      have read' : readName? (name.toList ++ longer) = some (name, longer) :=
        readName?_eq_some_iff.mpr ⟨valid, ends', rfl⟩
      refine ⟨'.' :: (name.toList ++ longer), ?_, rfl, .member read' spelled⟩
      simp only [List.length_cons, List.length_append, length, Nat.add_assoc]
  | @item text rest position steps read later ih =>
      exact ⟨'[' :: ' ' :: text, rfl, rfl, .item ((readPosition?_blank text).trans read) later⟩

/-- A path with a position among its steps is spelled by longer and longer texts. -/
theorem exists_longer_text {text : String} {path : Path} (spelled : ofText? text = some path)
    {position : Int} (inside : .item position ∈ path.steps) (excess : Nat) :
    ∃ longer, longer.length = text.length + excess ∧ ofText? longer = some path := by
  induction excess with
  | zero => exact ⟨text, rfl, spelled⟩
  | succ excess ih =>
      obtain ⟨long, length, spelled⟩ := ih
      obtain ⟨rest, name, ends, cut, spelled⟩ := ofText?_eq_some_iff.mp spelled
      obtain ⟨longer, length', first, spelled'⟩ := spelled.exists_longer inside
      refine ⟨String.ofList (path.root.toList ++ longer), ?_, ofText?_eq_some_iff.mpr
        ⟨longer, name, ?_, String.toList_ofList, spelled'⟩⟩
      · rw [← String.length_toList, cut, List.length_append] at length
        rw [String.length_ofList, List.length_append, length']
        omega
      · rwa [EndsName, first]

/-! ## Paths of names -/

/-- The path from the root by names. -/
def ofNames (root : String) (names : List String) : Path :=
  ⟨root, names.map .member⟩

/-- Whether a path goes by names only. -/
def isNamed (path : Path) : Bool :=
  path.steps.all fun
    | .member _ => true
    | .item _ => false

theorem exists_names {steps : List Step} (members : ∀ position, .item position ∉ steps) :
    ∃ names : List String, steps = names.map .member := by
  induction steps with
  | nil => exact ⟨[], rfl⟩
  | cons step steps ih =>
      obtain ⟨names, rfl⟩ := ih fun position inside =>
        members position (List.mem_cons_of_mem _ inside)
      cases step with
      | item position => exact absurd List.mem_cons_self (members position)
      | member name => exact ⟨name :: names, rfl⟩

/-- Names with dots between them. -/
def dotted (root : String) (names : List String) : String :=
  ".".intercalate (root :: names)

/-- Names with a dot before each. -/
def dots (names : List String) : List Char :=
  names.flatMap fun name => '.' :: name.toList

theorem toList_dotted (root : String) (names : List String) :
    (dotted root names).toList = root.toList ++ dots names := by
  induction names generalizing root with
  | nil => simp [dotted, dots]
  | cons name names ih =>
      have rest := ih name
      rw [dotted] at rest
      rw [dotted, String.intercalate_cons_cons, String.toList_append, String.toList_append, rest]
      simp [dots]

theorem dotted_append (root : String) (names : List String) (name : String)
    (later : List String) :
    dotted root (names ++ name :: later) = dotted root names ++ "." ++ dotted name later := by
  rw [dotted, ← List.cons_append,
    String.intercalate_append_of_ne_nil (List.cons_ne_nil _ _) (List.cons_ne_nil _ _)]
  rfl

theorem endsName_dots (names : List String) {rest : List Char} (ends : EndsName rest) :
    EndsName (dots names ++ rest) := by
  cases names with
  | nil => exact ends
  | cons name names => exact endsName_dot _

/-- Names and what follows them spell the names first. -/
theorem spells_dots_append_iff {names : List String} (valid : ∀ name ∈ names, IsName name)
    {rest : List Char} (ends : EndsName rest) {steps : List Step} :
    Spells (dots names ++ rest) steps ↔
      ∃ later, steps = names.map .member ++ later ∧ Spells rest later := by
  induction names generalizing steps with
  | nil => simp [dots]
  | cons name names ih =>
      obtain ⟨here, there⟩ := List.forall_mem_cons.mp valid
      have read : readName? (name.toList ++ (dots names ++ rest)) =
          some (name, dots names ++ rest) :=
        readName?_eq_some_iff.mpr ⟨here, endsName_dots names ends, rfl⟩
      have cut : dots (name :: names) ++ rest = '.' :: (name.toList ++ (dots names ++ rest)) := by
        simp [dots]
      rw [cut, spells_dot_iff]
      constructor
      · rintro ⟨other, left, steps, read', spelled, rfl⟩
        cases read.symm.trans read'
        obtain ⟨later, rfl, after⟩ := (ih there).mp spelled
        exact ⟨later, rfl, after⟩
      · rintro ⟨later, rfl, after⟩
        exact ⟨name, _, _, read, (ih there).mpr ⟨later, rfl, after⟩, rfl⟩

/-- What spells names only is the names with a dot before each. -/
theorem Spells.eq_dots {names : List String} {text : List Char}
    (spelled : Spells text (names.map .member)) :
    (∀ name ∈ names, IsName name) ∧ text = dots names := by
  induction names generalizing text with
  | nil =>
      cases spelled
      exact ⟨fun _ inside => absurd inside List.not_mem_nil, rfl⟩
  | cons name names ih =>
      cases spelled with
      | member read later =>
          obtain ⟨valid, -, rfl⟩ := readName?_eq_some_iff.mp read
          obtain ⟨others, rfl⟩ := ih later
          exact ⟨List.forall_mem_cons.mpr ⟨valid, others⟩, rfl⟩

/-- A path of names has one text, in which they have dots between them. -/
theorem ofText?_eq_ofNames_iff {text root : String} {names : List String} :
    ofText? text = some (ofNames root names) ↔
      (∀ name ∈ root :: names, IsName name) ∧ text = dotted root names := by
  rw [ofText?_eq_some_iff, List.forall_mem_cons, ← String.toList_inj, toList_dotted]
  constructor
  · rintro ⟨rest, valid, ends, cut, spelled⟩
    obtain ⟨others, rfl⟩ := spelled.eq_dots
    exact ⟨⟨valid, others⟩, cut⟩
  · rintro ⟨⟨valid, others⟩, cut⟩
    refine ⟨dots names, valid, ?_, cut, ?_⟩
    · simpa using endsName_dots names endsName_nil
    · have spelled := (spells_dots_append_iff others endsName_nil).mpr ⟨[], rfl, .done⟩
      rwa [List.append_nil, List.append_nil] at spelled

/-- A text that goes on with a dot after names spells a path that goes on after them. -/
theorem ofText?_dotted_append {root rest : String} {names : List String} {path : Path}
    (valid : ∀ name ∈ root :: names, IsName name)
    (spelled : ofText? (dotted root names ++ "." ++ rest) = some path) :
    ∃ step later, path = ⟨root, names.map .member ++ step :: later⟩ := by
  obtain ⟨here, there⟩ := List.forall_mem_cons.mp valid
  have ends := endsName_dot rest.toList
  have cut : (dotted root names ++ "." ++ rest).toList =
      root.toList ++ (dots names ++ '.' :: rest.toList) := by
    simp [toList_dotted]
  obtain ⟨left, valid', ends', cut', steps⟩ := ofText?_eq_some_iff.mp spelled
  -- Both ways to cut the text are what is read from it.
  have read := readName?_eq_some_iff.mpr ⟨here, endsName_dots names ends, cut⟩
  have read' := readName?_eq_some_iff.mpr ⟨valid', ends', cut'⟩
  obtain ⟨root', steps'⟩ := path
  cases read.symm.trans read'
  obtain ⟨later, rfl, after⟩ := (spells_dots_append_iff there ends).mp steps
  cases after with
  | member read later => exact ⟨_, _, rfl⟩

/-! ## Reading and writing texts -/

/-- The steps of a path, the one from the root first. -/
def route (path : Path) : List Step :=
  .member path.root :: path.steps

/-- The text that steps lead to. -/
def textAt? (steps : List Step) (value : Json) : Option String :=
  (steps.foldlM step? value).bind textOf?

/-- The value under a name, absent where there is none. -/
def under (name : String) (value : Json) : Json :=
  (Table.find? name (membersOf value)).getD .null

theorem textAt?_null (steps : List Step) : textAt? steps .null = none := by
  cases steps with
  | nil => rfl
  | cons step steps => cases step <;> rfl

theorem textAt?_string_cons (step : Step) (steps : List Step) (text : String) :
    textAt? (step :: steps) (.string text) = none := by
  cases step <;> rfl

/-- Where there is a text, there is nothing to go on to. -/
theorem textAt?_append {steps : List Step} {value : Json} {text : String}
    (found : textAt? steps value = some text) (step : Step) (later : List Step) :
    textAt? (steps ++ step :: later) value = none := by
  obtain ⟨inner, led, texted⟩ := Option.bind_eq_some_iff.mp found
  have stuck : step? inner step = none := by
    cases inner with
    | null | array | object => cases texted
    | bool | int | float | string => cases step <;> rfl
  rw [textAt?, List.foldlM_append, led, Option.bind_eq_bind, Option.bind_some, List.foldlM_cons,
    stuck]
  rfl

theorem textAt?_member (name : String) (steps : List Step) (value : Json) :
    textAt? (.member name :: steps) value = textAt? steps (under name value) := by
  have next : step? value (.member name) = Table.find? name (membersOf value) := by
    cases value <;> rfl
  rw [textAt?, List.foldlM_cons, next, under]
  cases Table.find? name (membersOf value) with
  | none => exact (textAt?_null steps).symm
  | some inner => rfl

/-- What a write along a path that begins with a name does to what stands under names. -/
theorem under_change (update : Json → Json) (name other : String) (steps : List Step)
    (value : Json) :
    under other (change update (.member name :: steps) value) =
      if name = other then change update steps (under name value) else under other value := by
  split
  · next same =>
    rw [← same, change, under, membersOf, Table.find?_insert_self]
    rfl
  · next different =>
    rw [change, under, membersOf, Table.find?_insert_of_ne different]
    rfl

/-- Write a text along a path of names. -/
def write (text : String) (names : List String) : Json → Json :=
  change (fun _ => .string text) (names.map .member)

theorem textAt?_write_self (text : String) (names : List String) (value : Json) :
    textAt? (names.map .member) (write text names value) = some text := by
  induction names generalizing value with
  | nil => rfl
  | cons name names ih =>
      rw [List.map_cons, textAt?_member, write, List.map_cons, under_change, if_pos rfl]
      exact ih (under name value)

/-- Along any other path either nothing is read or what was read before. -/
theorem textAt?_write_of_ne (text : String) {names : List String} {steps : List Step}
    (different : steps ≠ names.map .member) (value : Json) :
    textAt? steps (write text names value) = none ∨
      textAt? steps (write text names value) = textAt? steps value := by
  induction names generalizing steps value with
  | nil =>
      cases steps with
      | nil => exact absurd rfl different
      | cons step steps => exact .inl (textAt?_string_cons step steps text)
  | cons name names ih =>
      match steps with
      | [] => exact .inl rfl
      | .item _ :: _ => exact .inl rfl
      | .member other :: steps =>
          rw [textAt?_member, textAt?_member, write, List.map_cons, under_change]
          split
          · next same =>
            subst same
            exact ih (fun same => different (congrArg _ same)) (under name value)
          · exact .inr rfl

/-- As long as neither of two paths of names goes on where the other one ends, a write along the one
does not change what is read along the other. -/
theorem textAt?_write_of_apart (text : String) {names others : List String}
    (notBefore : ¬names <+: others) (notAfter : ¬others <+: names) (value : Json) :
    textAt? (others.map .member) (write text names value) =
      textAt? (others.map .member) value := by
  induction names generalizing others value with
  | nil => exact absurd (List.nil_prefix) notBefore
  | cons name names ih =>
      cases others with
      | nil => exact absurd (List.nil_prefix) notAfter
      | cons other others =>
          rw [List.map_cons, textAt?_member, textAt?_member, write, List.map_cons, under_change]
          split
          · next same =>
            subst same
            rw [List.cons_prefix_cons, and_iff_right rfl] at notBefore notAfter
            exact ih notBefore notAfter (under name value)
          · rfl

end Attest.Config.Path
