import Attest.Pem
import Attest.Proofs.Base64
import Attest.Proofs.Text.Blank

/-!
# Armour read back

The lines of a body are joined to the symbols that were broken into them: a full line is
followed by a line feed and the other lines, and the last line has at least one symbol.
Around them the armour has its two labels, so what was armoured is recovered, unless it was
empty.
-/

namespace Attest.Pem

/-! ## Line ends -/

/-- Octets without line feeds and carriage returns. -/
def Unbroken (octets : Octets) : Prop :=
  ∀ octet ∈ octets, octet ≠ lineFeed ∧ octet ≠ carriageReturn

theorem afterLineEnd?_lineFeed (rest : Octets) : afterLineEnd? (lineFeed :: rest) = some rest :=
  rfl

theorem beforeLineEnd?_of_unbroken {octets : Octets} (unbroken : Unbroken octets) :
    beforeLineEnd? octets = none := by
  have closing : ∀ {last rest}, octets.reverse = last :: rest →
      last ≠ lineFeed ∧ last ≠ carriageReturn := by
    intro last rest reversed
    apply unbroken
    rw [← List.mem_reverse, reversed]
    exact List.mem_cons_self
  rw [beforeLineEnd?]
  split
  · next reversed => exact absurd rfl (closing reversed).1
  · next reversed => exact absurd rfl (closing reversed).1
  · next reversed => exact absurd rfl (closing reversed).2
  · rfl

theorem beforeLineEnd?_append_hyphen (octets : Octets) :
    beforeLineEnd? (octets ++ [hyphen]) = none := by
  rw [beforeLineEnd?, List.reverse_append]
  rfl

theorem beforeLineEnd?_append_lineFeed {octets : Octets}
    (noReturn : ∀ octet ∈ octets, octet ≠ carriageReturn) :
    beforeLineEnd? (octets ++ [lineFeed]) = some octets := by
  rw [beforeLineEnd?, List.reverse_append, List.reverse_singleton, List.singleton_append]
  split
  · next rest reversed =>
      have last : carriageReturn ∈ octets := by
        rw [← List.mem_reverse, (List.cons.inj reversed).2]
        exact List.mem_cons_self
      exact absurd rfl (noReturn _ last)
  · next rest _ reversed => rw [← (List.cons.inj reversed).2, List.reverse_reverse]
  · next reversed => exact absurd (List.cons.inj reversed).1 (by decide)
  · next other _ => exact absurd rfl (other _)

/-! ## Lines -/

theorem breakLines_nil (fuel : Nat) : breakLines fuel [] = [] := by
  cases fuel <;> rfl

theorem breakLines_succ {symbols : List Char} (nonempty : symbols ≠ []) (fuel : Nat) :
    breakLines (fuel + 1) symbols =
      symbols.take lineWidth ++ '\n' :: breakLines fuel (symbols.drop lineWidth) := by
  rw [breakLines, if_neg (by simpa using nonempty)]

theorem mem_of_mem_breakLines {fuel : Nat} {symbols : List Char} {c : Char}
    (member : c ∈ breakLines fuel symbols) : c = '\n' ∨ c ∈ symbols := by
  induction fuel generalizing symbols with
  | zero => cases member
  | succ fuel ih =>
      by_cases empty : symbols = []
      · rw [empty, breakLines_nil] at member
        cases member
      · rw [breakLines_succ empty, List.mem_append, List.mem_cons] at member
        rcases member with inLine | rfl | later
        · exact Or.inr (List.mem_of_mem_take inLine)
        · exact Or.inl rfl
        · rcases ih later with feed | inRest
          · exact Or.inl feed
          · exact Or.inr (List.mem_of_mem_drop inRest)

theorem joinLines_last {symbols : Octets} (nonempty : symbols ≠ []) (unbroken : Unbroken symbols)
    (short : symbols.length ≤ lineWidth) (fuel : Nat) :
    joinLines (fuel + 1) symbols = some symbols := by
  rw [joinLines, if_pos short, beforeLineEnd?_of_unbroken unbroken, Option.getD_none,
    if_neg (by simpa using nonempty)]

theorem joinLines_full {line body symbols : Octets} (full : line.length = lineWidth)
    (nonempty : body ≠ []) {fuel : Nat} (joined : joinLines fuel body = some symbols) :
    joinLines (fuel + 1) (line ++ lineFeed :: body) = some (line ++ symbols) := by
  have long : ¬(line ++ lineFeed :: body).length ≤ lineWidth := by
    rw [List.length_append, full, List.length_cons]
    omega
  rw [joinLines, if_neg long, List.drop_left' full, List.take_left' full, afterLineEnd?_lineFeed]
  simp only [Option.bind_eq_bind, Option.bind_some, joined, List.isEmpty_iff, nonempty, if_false]
  rfl

/-- The lines into which symbols were broken are joined to the symbols, the last line feed
being left out. -/
theorem joinLines_breakLines {fuel : Nat} {symbols : List Char} (nonempty : symbols ≠ [])
    (enough : symbols.length ≤ fuel) (unbroken : Unbroken (symbols.map Octets.ofAscii)) :
    ∃ body, (breakLines fuel symbols).map Octets.ofAscii = body ++ [lineFeed] ∧
      ∀ lines, body.length < lines →
        joinLines lines body = some (symbols.map Octets.ofAscii) := by
  induction fuel generalizing symbols with
  | zero => exact absurd (List.eq_nil_of_length_eq_zero (Nat.le_zero.mp enough)) nonempty
  | succ fuel ih =>
      rw [breakLines_succ nonempty]
      by_cases last : symbols.length ≤ lineWidth
      · refine ⟨symbols.map Octets.ofAscii, ?_, ?_⟩
        · rw [List.take_of_length_le last, List.drop_of_length_le last, breakLines_nil,
            List.map_append]
          rfl
        · intro lines more
          obtain ⟨lines, rfl⟩ := Nat.exists_eq_add_one_of_ne_zero (Nat.ne_zero_of_lt more)
          apply joinLines_last _ unbroken
          · rw [List.length_map]
            exact last
          · simpa using nonempty
      · have others : symbols.drop lineWidth ≠ [] := by
          rw [ne_eq, List.drop_eq_nil_iff]
          exact last
        have fewer : (symbols.drop lineWidth).length ≤ fuel := by
          rw [List.length_drop, lineWidth]
          omega
        have unbrokenOthers : Unbroken ((symbols.drop lineWidth).map Octets.ofAscii) := by
          rw [List.map_drop]
          exact fun octet member => unbroken octet (List.mem_of_mem_drop member)
        obtain ⟨body, broken, joined⟩ := ih others fewer unbrokenOthers
        have bodyNonempty : body ≠ [] := by
          rintro rfl
          cases joined 1 Nat.one_pos
        have full : ((symbols.take lineWidth).map Octets.ofAscii).length = lineWidth := by
          rw [List.length_map, List.length_take]
          omega
        refine ⟨(symbols.take lineWidth).map Octets.ofAscii ++ lineFeed :: body, ?_, ?_⟩
        · rw [List.map_append, List.map_cons, broken, List.append_assoc]
          rfl
        · intro lines more
          obtain ⟨lines, rfl⟩ := Nat.exists_eq_add_one_of_ne_zero (Nat.ne_zero_of_lt more)
          rw [List.length_append, List.length_cons] at more
          rw [joinLines_full full bodyNonempty (joined lines (by omega)), ← List.map_append,
            List.take_append_drop]

/-! ## Bodies -/

theorem visible_symbols (octets : Octets) :
    ∀ c ∈ Base64.standard.symbols octets, Text.isBlank c = false :=
  Base64.forall_mem_symbols (by decide) (by decide) octets

theorem unbroken_symbols (octets : Octets) :
    Unbroken ((Base64.standard.symbols octets).map Octets.ofAscii) := by
  have symbols : ∀ c ∈ Base64.standard.symbols octets,
      Octets.ofAscii c ≠ lineFeed ∧ Octets.ofAscii c ≠ carriageReturn :=
    Base64.forall_mem_symbols (by decide) (by decide) octets
  intro octet member
  obtain ⟨c, inSymbols, rfl⟩ := List.mem_map.mp member
  exact symbols c inSymbols

/-- The lines of the body of some octets. -/
def bodyLines (octets : Octets) : List Char :=
  breakLines (Base64.standard.symbols octets).length (Base64.standard.symbols octets)

theorem ascii_bodyLines (octets : Octets) : ∀ c ∈ bodyLines octets, c.toNat < 128 := by
  intro c member
  rcases mem_of_mem_breakLines member with rfl | inSymbols
  · decide
  · exact Base64.ascii_symbols Base64.readable_standard octets c inSymbols

theorem ofAscii_bodyLines_ne_return (octets : Octets) :
    ∀ octet ∈ (bodyLines octets).map Octets.ofAscii, octet ≠ carriageReturn := by
  intro octet member
  obtain ⟨c, inLines, rfl⟩ := List.mem_map.mp member
  rcases mem_of_mem_breakLines inLines with rfl | inSymbols
  · decide
  · exact (unbroken_symbols octets _ (List.mem_map_of_mem inSymbols)).2

/-- The octets are recovered from the lines of their body. -/
theorem bodyOctets?_bodyLines {octets : Octets} (nonempty : octets ≠ []) :
    ∃ body, beforeLineEnd? ((bodyLines octets).map Octets.ofAscii) = some body ∧
      bodyOctets? body = some octets := by
  obtain ⟨body, broken, joined⟩ := joinLines_breakLines (Base64.symbols_ne_nil nonempty)
    (Nat.le_refl _) (unbroken_symbols octets)
  refine ⟨body, ?_, ?_⟩
  · have noReturn := ofAscii_bodyLines_ne_return octets
    rw [bodyLines, broken] at noReturn ⊢
    exact beforeLineEnd?_append_lineFeed fun octet member =>
      noReturn octet (List.mem_append_left _ member)
  · rw [bodyOctets?, joined _ (Nat.lt_succ_self _)]
    simp only [Option.bind_eq_bind, Option.bind_some,
      Base64.decodeOctets_symbols Base64.readable_standard]
    rfl

/-! ## Armour -/

/-- A label that is read up to the hyphen after it. -/
def IsLabel (label : Octets) : Prop :=
  ∀ rest, readLabel false (label ++ hyphen :: rest) = some (label, hyphen :: rest)

/-- Label and body are recovered from armour. -/
theorem parts?_armour {label lines body : Octets} (isLabel : IsLabel label)
    (closed : beforeLineEnd? lines = some body) :
    parts? (beginMark ++ (label ++ (dashes ++ lineFeed ::
      (lines ++ (endMark ++ (label ++ dashes)))))) = some (label, body) := by
  have start : ∀ rest, fromBegin? (beginMark ++ rest) = some (beginMark ++ rest) := by
    intro rest
    rw [fromBegin?, if_pos (List.isPrefixOf_iff_prefix.mpr (List.prefix_append _ _))]
  have afterPrefix : ∀ mark rest : Octets, mark.isPrefixOf? (mark ++ rest) = some rest :=
    fun mark rest => List.isPrefixOf?_eq_some_iff_append_eq.mpr rfl
  have beforeSuffix : ∀ mark rest : Octets, mark.isSuffixOf? (rest ++ mark) = some rest :=
    fun mark rest => List.isSuffixOf?_eq_some_iff_append_eq.mpr rfl
  have labelled : ∀ rest, readLabel false (label ++ (dashes ++ rest)) =
      some (label, dashes ++ rest) := fun rest => isLabel _
  have unclosed : beforeLineEnd? (lines ++ (endMark ++ (label ++ dashes))) = none := by
    have hyphens : dashes = dashes.dropLast ++ [hyphen] := rfl
    rw [hyphens, ← List.append_assoc, ← List.append_assoc, ← List.append_assoc]
    exact beforeLineEnd?_append_hyphen _
  rw [parts?]
  simp only [start, afterPrefix, labelled, afterLineEnd?_lineFeed, unclosed, Option.getD_none,
    Option.bind_eq_bind, Option.bind_some]
  rw [← List.append_assoc, ← List.append_assoc, beforeSuffix]
  simp only [Option.bind_some, beforeSuffix, closed]
  rfl

/-- The characters of `beginMark`. -/
def beginChars : List Char := ['-', '-', '-', '-', '-', 'B', 'E', 'G', 'I', 'N', ' ']

/-- The characters of `endMark`. -/
def endChars : List Char := ['-', '-', '-', '-', '-', 'E', 'N', 'D', ' ']

/-- The characters of `dashes`. -/
def dashChars : List Char := ['-', '-', '-', '-', '-']

/-- The characters of armour up to the line feed at its end. -/
def armour (label lines : List Char) : List Char :=
  beginChars ++ (label ++ (dashChars ++ '\n' :: (lines ++ (endChars ++ (label ++ dashChars)))))

theorem toList_write (label : String) (octets : Octets) :
    (write label octets).toList = armour label.toList (bodyLines octets) ++ ['\n'] := by
  have spelled : write label octets =
      String.ofList beginChars ++ label ++ String.ofList (dashChars ++ ['\n']) ++
        String.ofList (bodyLines octets) ++ String.ofList endChars ++ label ++
        String.ofList (dashChars ++ ['\n']) := rfl
  rw [spelled]
  simp only [armour, String.toList_append, String.toList_ofList, List.append_assoc,
    List.cons_append, List.nil_append]

/-- Armour begins and ends with a hyphen. -/
theorem armour_eq (label lines : List Char) :
    ∃ inside, armour label lines = '-' :: (inside ++ ['-']) := by
  refine ⟨beginChars.tail ++ (label ++ (dashChars ++ '\n' ::
    (lines ++ (endChars ++ (label ++ dashChars.tail))))), ?_⟩
  simp [armour, beginChars, dashChars]

/-- Trimming takes the line feed off the end of armour. -/
theorem trim_write (label : String) (octets : Octets) :
    Text.trim (write label octets).toList = armour label.toList (bodyLines octets) := by
  have feed : ∀ c ∈ ['\n'], Text.isBlank c = true := by
    intro c member
    rw [List.mem_singleton.mp member]
    decide
  obtain ⟨inside, ends⟩ := armour_eq label.toList (bodyLines octets)
  rw [toList_write, ends, List.cons_append, List.append_assoc]
  exact Text.trim_append rfl rfl feed

theorem ascii_armour {label lines : List Char} (labelAscii : ∀ c ∈ label, c.toNat < 128)
    (linesAscii : ∀ c ∈ lines, c.toNat < 128) : ∀ c ∈ armour label lines, c.toNat < 128 := by
  have beginAscii : ∀ c ∈ beginChars, c.toNat < 128 := by simp [beginChars]
  have endAscii : ∀ c ∈ endChars, c.toNat < 128 := by simp [endChars]
  have dashAscii : ∀ c ∈ dashChars, c.toNat < 128 := by simp [dashChars]
  simp only [armour, List.forall_mem_append, List.forall_mem_cons]
  exact ⟨beginAscii, labelAscii, dashAscii, by decide, linesAscii, endAscii, labelAscii, dashAscii⟩

/-- What was armoured under a label is recovered. -/
theorem read?_armour {label : String} (ascii : ∀ c ∈ label.toList, c.toNat < 128)
    (isLabel : IsLabel (Octets.ofText label)) {octets : Octets} (nonempty : octets ≠ []) :
    read? label (Octets.ofText (String.ofList (armour label.toList (bodyLines octets)))) =
      some octets := by
  obtain ⟨body, closed, recovered⟩ := bodyOctets?_bodyLines nonempty
  have beginning : beginChars.map Octets.ofAscii = beginMark := by decide
  have ending : endChars.map Octets.ofAscii = endMark := by decide
  have hyphens : dashChars.map Octets.ofAscii = dashes := by decide
  have feed : Octets.ofAscii '\n' = lineFeed := rfl
  have spelled : label.toList.map Octets.ofAscii = Octets.ofText label := by
    rw [← Octets.ofText_ofList_of_ascii ascii, String.ofList_toList]
  rw [read?, Octets.ofText_ofList_of_ascii (ascii_armour ascii (ascii_bodyLines octets)), armour]
  simp only [List.map_append, List.map_cons, beginning, ending, hyphens, feed, spelled]
  rw [parts?_armour isLabel closed]
  simp only [Option.bind_eq_bind, Option.bind_some, recovered, if_true]

end Attest.Pem
