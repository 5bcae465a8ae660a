import Attest.Proofs.Base64.Spelling
import Attest.Proofs.Outcome
import Attest.Proofs.Pem

/-!
# What armour encloses

What is read from armoured text stands between the line that begins the armour and the line that
ends it, and it is the base64 text there without its line ends.  The body has no hyphen, and both
lines end with one; so there is only one body, whatever stands before the armour.
-/

namespace Attest.Pem

variable {octets rest label body symbols : Octets}

/-! ## Line ends -/

/-- The ends of lines. -/
inductive LineEnd : Octets → Prop where
  | both : LineEnd [carriageReturn, lineFeed]
  | feed : LineEnd [lineFeed]
  | return : LineEnd [carriageReturn]

theorem LineEnd.blank {ending : Octets} (isEnd : LineEnd ending) :
    ∀ octet ∈ ending, octet = lineFeed ∨ octet = carriageReturn := by
  cases isEnd <;> simp

theorem lineEnd_of_afterLineEnd? (found : afterLineEnd? octets = some rest) :
    ∃ ending, LineEnd ending ∧ octets = ending ++ rest := by
  unfold afterLineEnd? at found
  split at found
  · cases found
    exact ⟨_, .both, rfl⟩
  · cases found
    exact ⟨_, .feed, rfl⟩
  · cases found
    exact ⟨_, .return, rfl⟩
  · cases found

theorem lineEnd_of_beforeLineEnd? (found : beforeLineEnd? octets = some rest) :
    ∃ ending, LineEnd ending ∧ octets = rest ++ ending := by
  have turned : ∀ {ending before : Octets}, octets.reverse = ending.reverse ++ before →
      octets = before.reverse ++ ending := by
    intro ending before reversed
    rw [← List.reverse_reverse octets, reversed, List.reverse_append, List.reverse_reverse]
  rw [beforeLineEnd?] at found
  split at found
  · next reversed =>
      cases found
      exact ⟨_, .both, turned reversed⟩
  · next reversed =>
      cases found
      exact ⟨_, .feed, turned reversed⟩
  · next reversed =>
      cases found
      exact ⟨_, .return, turned reversed⟩
  · cases found

/-- A line end at the end may be missing. -/
theorem exists_append_getD_beforeLineEnd? (octets : Octets) :
    ∃ ending, (∀ octet ∈ ending, octet = lineFeed ∨ octet = carriageReturn) ∧
      octets = (beforeLineEnd? octets).getD octets ++ ending := by
  cases found : beforeLineEnd? octets with
  | none => exact ⟨[], List.forall_mem_nil _, (List.append_nil octets).symm⟩
  | some rest =>
      obtain ⟨ending, isEnd, whole⟩ := lineEnd_of_beforeLineEnd? found
      exact ⟨ending, isEnd.blank, whole⟩

/-! ## Lines of a body -/

/-- The octets that are no line ends. -/
def unbroken (octets : Octets) : Octets :=
  octets.filter fun octet => !(octet == lineFeed || octet == carriageReturn)

@[simp]
theorem unbroken_append (first second : Octets) :
    unbroken (first ++ second) = unbroken first ++ unbroken second :=
  List.filter_append first second

theorem unbroken_of_lineEnd {ending : Octets}
    (blank : ∀ octet ∈ ending, octet = lineFeed ∨ octet = carriageReturn) :
    unbroken ending = [] := by
  rw [unbroken, List.filter_eq_nil_iff]
  intro octet member
  rcases blank octet member with rfl | rfl <;> decide

theorem unbroken_eq_self (free : Unbroken octets) : unbroken octets = octets := by
  rw [unbroken, List.filter_eq_self]
  intro octet member
  simp [free octet member]

/-- The lines of a body are joined to what is left of it without line ends. -/
theorem eq_unbroken_of_joinLines {fuel : Nat} (joined : joinLines fuel body = some symbols)
    (free : Unbroken symbols) : unbroken body = symbols := by
  induction fuel generalizing body symbols with
  | zero => cases joined
  | succ fuel ih =>
      rw [joinLines] at joined
      split at joined
      · obtain ⟨ending, blank, whole⟩ := exists_append_getD_beforeLineEnd? body
        have last : (beforeLineEnd? body).getD body = symbols := by
          simp only at joined
          split at joined
          · cases joined
          · exact Option.some.inj joined
        rw [last] at whole
        rw [whole, unbroken_append, unbroken_of_lineEnd blank, unbroken_eq_self free,
          List.append_nil]
      · obtain ⟨others, found, joined⟩ := Option.bind_eq_some_iff.mp joined
        obtain ⟨ending, isEnd, after⟩ := lineEnd_of_afterLineEnd? found
        have whole : unbroken body = unbroken (body.take lineWidth) ++ unbroken others := by
          rw [← List.take_append_drop lineWidth body, after, unbroken_append, unbroken_append,
            unbroken_of_lineEnd isEnd.blank, List.nil_append, ← after, List.take_append_drop]
        have first : (∀ octet ∈ body.take lineWidth, octet ∈ symbols) →
            unbroken (body.take lineWidth) = body.take lineWidth := fun among =>
          unbroken_eq_self fun octet member => free octet (among octet member)
        split at joined
        · next empty =>
            cases joined
            rw [whole, List.isEmpty_iff.mp empty, first fun _ member => member]
            exact List.append_nil _
        · obtain ⟨more, joinedOthers, same⟩ := Option.bind_eq_some_iff.mp joined
          cases same
          rw [whole, first fun _ => List.mem_append_left _, ih joinedOthers fun octet member =>
            free octet (List.mem_append_right _ member)]

/-! ## The lines around a body -/

theorem exists_append_of_skipPreamble (found : skipPreamble octets = some rest) :
    ∃ before, octets = before ++ rest := by
  induction octets with
  | nil => cases found
  | cons octet tail ih =>
      rw [skipPreamble] at found
      split at found
      · cases found
      · split at found
        · cases found
          exact ⟨[octet], rfl⟩
        · obtain ⟨before, rfl⟩ := ih found
          exact ⟨octet :: before, rfl⟩

theorem exists_append_of_fromBegin? (found : fromBegin? octets = some rest) :
    ∃ before, octets = before ++ rest := by
  rw [fromBegin?] at found
  split at found
  · cases found
    exact ⟨[], rfl⟩
  · exact exists_append_of_skipPreamble found

theorem append_of_readLabel {word : Bool} (read : readLabel word octets = some (label, rest)) :
    octets = label ++ rest := by
  induction octets generalizing word label rest with
  | nil => cases read
  | cons octet tail ih =>
      have step : ∀ {word}, (readLabel word tail).map
          (fun found => (octet :: found.1, found.2)) = some (label, rest) →
            octet :: tail = label ++ rest := by
        intro word mapped
        obtain ⟨⟨more, after⟩, found, same⟩ := Option.map_eq_some_iff.mp mapped
        cases same
        rw [ih found, List.cons_append]
      rw [readLabel] at read
      split at read
      · cases read
        rfl
      · split at read
        · exact step read
        · split at read
          · exact step read
          · cases read

/-- The label and the body that are found stand where they should in the octets. -/
theorem eq_append_of_parts? (found : parts? octets = some (label, body)) :
    ∃ before opening closing last, LineEnd opening ∧ LineEnd closing ∧
      (∀ octet ∈ last, octet = lineFeed ∨ octet = carriageReturn) ∧
      octets = before ++ (beginMark ++ (label ++ (dashes ++ (opening ++ (body ++ (closing ++
        (endMark ++ (label ++ (dashes ++ last))))))))) := by
  simp only [parts?, Option.bind_eq_bind, Option.bind_eq_some_iff,
    List.isPrefixOf?_eq_some_iff_append_eq, List.isSuffixOf?_eq_some_iff_append_eq] at found
  rcases found with ⟨start, begun, afterMark, rfl, ⟨name, afterLabel⟩, labelled, afterDashes, rfl,
    lines, opened, beforeDashes, dashed, beforeLabel, rfl, beforeMark, rfl, inside, closed, same⟩
  cases same
  obtain ⟨before, rfl⟩ := exists_append_of_fromBegin? begun
  obtain ⟨opening, isOpening, rfl⟩ := lineEnd_of_afterLineEnd? opened
  obtain ⟨closing, isClosing, rfl⟩ := lineEnd_of_beforeLineEnd? closed
  obtain ⟨last, blank, whole⟩ := exists_append_getD_beforeLineEnd? lines
  refine ⟨before, opening, closing, last, isOpening, isClosing, blank, ?_⟩
  rw [append_of_readLabel labelled, whole, ← dashed]
  simp only [List.append_assoc]

/-! ## Symbols of a body -/

/-- The octets of base64 text. -/
def IsSymbol (octet : UInt8) : Prop :=
  (Base64.standard.group? octet).isSome = true ∨ octet = Base64.pad

/-- A symbol is a visible character and no hyphen. -/
theorem IsSymbol.visible {octet : UInt8} (symbol : IsSymbol octet) :
    octet.toNat < 128 ∧ octet ≠ hyphen ∧ octet ≠ lineFeed ∧ octet ≠ carriageReturn ∧
      Text.isAsciiBlank (Char.ofNat octet.toNat) = false := by
  have all : ∀ n < 256, (Base64.standard.group? (UInt8.ofNat n)).isSome = true ∨
      UInt8.ofNat n = Base64.pad → n < 128 ∧ UInt8.ofNat n ≠ hyphen ∧
        UInt8.ofNat n ≠ lineFeed ∧ UInt8.ofNat n ≠ carriageReturn ∧
        Text.isAsciiBlank (Char.ofNat n) = false := by decide +kernel
  have here := all octet.toNat octet.toNat_lt
  rw [UInt8.ofNat_toNat] at here
  exact here symbol

theorem symbols_of_bodyOctets? {octets : Octets} (read : bodyOctets? body = some octets) :
    Base64.standard.decodeOctets (unbroken body) = .ok octets ∧
      ∀ octet ∈ unbroken body, IsSymbol octet := by
  obtain ⟨symbols, joined, decoded⟩ := Option.bind_eq_some_iff.mp read
  rw [toOption_eq_some_iff] at decoded
  have isSymbol := Base64.symbol_or_pad_of_decodeOctets Base64.readable_standard decoded
  have free : Unbroken symbols := by
    intro octet member
    obtain ⟨-, -, noFeed, noReturn, -⟩ := IsSymbol.visible (isSymbol octet member)
    exact ⟨noFeed, noReturn⟩
  rw [eq_unbroken_of_joinLines joined free]
  exact ⟨decoded, isSymbol⟩

/-- In the lines of a body there are symbols and ends of lines. -/
theorem symbol_or_lineEnd (symbols : ∀ octet ∈ unbroken body, IsSymbol octet) :
    ∀ octet ∈ body, IsSymbol octet ∨ octet = lineFeed ∨ octet = carriageReturn := by
  intro octet member
  by_cases ends : octet = lineFeed ∨ octet = carriageReturn
  · exact .inr ends
  · refine .inl (symbols octet (List.mem_filter.mpr ⟨member, ?_⟩))
    simpa using ends

/-- Around the symbols and line ends of a body that is read there are the lines of the armour,
and after them at most a line end. -/
theorem eq_append_of_read? {label : String} {found : Octets}
    (read : read? label octets = some found) :
    ∃ before inside last, Base64.standard.decodeOctets (unbroken inside) = .ok found ∧
      (∀ octet ∈ unbroken inside, IsSymbol octet) ∧
      (∀ octet ∈ last, octet = lineFeed ∨ octet = carriageReturn) ∧
      octets = before ++ (beginMark ++ (Octets.ofText label ++ (dashes ++ (inside ++
        (endMark ++ (Octets.ofText label ++ (dashes ++ last))))))) := by
  simp only [read?, Option.bind_eq_bind, Option.bind_eq_some_iff] at read
  obtain ⟨⟨name, body⟩, located, decoded, bodyRead, labelled⟩ := read
  split at labelled
  · next same =>
      cases labelled
      subst same
      obtain ⟨before, opening, closing, last, isOpening, isClosing, blank, whole⟩ :=
        eq_append_of_parts? located
      have inside : unbroken (opening ++ (body ++ closing)) = unbroken body := by
        rw [unbroken_append, unbroken_append, unbroken_of_lineEnd isOpening.blank,
          unbroken_of_lineEnd isClosing.blank, List.nil_append, List.append_nil]
      refine ⟨before, opening ++ (body ++ closing), last, ?_, ?_, blank, ?_⟩
      · rw [inside]
        exact (symbols_of_bodyOctets? bodyRead).1
      · rw [inside]
        exact (symbols_of_bodyOctets? bodyRead).2
      · rw [whole]
        simp only [List.append_assoc]
  · cases labelled

/-- Squeezing a body leaves its symbols. -/
theorem map_squeeze {chars : List Char} (ascii : ∀ c ∈ chars, c.toNat < 128)
    (symbols : ∀ octet ∈ unbroken (chars.map Octets.ofAscii), IsSymbol octet) :
    (Text.squeeze chars).map Octets.ofAscii = unbroken (chars.map Octets.ofAscii) := by
  rw [unbroken, Text.squeeze, List.filter_map]
  congr 1
  apply List.filter_congr
  intro c member
  have back := Octets.ofNat_toNat_ofAscii (ascii c member)
  rcases symbol_or_lineEnd symbols _ (List.mem_map_of_mem member) with symbol | feed | ends
  · obtain ⟨-, -, noFeed, noReturn, visible⟩ := symbol.visible
    rw [back] at visible
    simp [visible, noFeed, noReturn]
  · rw [feed] at back
    rw [← back]
    decide
  · rw [ends] at back
    rw [← back]
    decide

/-! ## Enclosed characters -/

/-- The line that begins the armour, without its end. -/
def beginLine (label : List Char) : List Char := beginChars ++ (label ++ dashChars)

/-- The line that ends the armour, without its end. -/
def endLine (label : List Char) : List Char := endChars ++ (label ++ dashChars)

section

variable {text : List Char} {c : Char}

theorem ascii_beginLine (ascii : ∀ c ∈ text, c.toNat < 128) :
    ∀ c ∈ beginLine text, c.toNat < 128 := by
  simp only [beginLine, List.forall_mem_append]
  exact ⟨by simp [beginChars], ascii, by simp [dashChars]⟩

theorem ascii_endLine (ascii : ∀ c ∈ text, c.toNat < 128) :
    ∀ c ∈ endLine text, c.toNat < 128 := by
  simp only [endLine, List.forall_mem_append]
  exact ⟨by simp [endChars], ascii, by simp [dashChars]⟩

theorem map_beginLine (text : List Char) : (beginLine text).map Octets.ofAscii =
    beginMark ++ (text.map Octets.ofAscii ++ dashes) := by
  rw [beginLine, List.map_append, List.map_append]
  rfl

theorem map_endLine (text : List Char) : (endLine text).map Octets.ofAscii =
    endMark ++ (text.map Octets.ofAscii ++ dashes) := by
  rw [endLine, List.map_append, List.map_append]
  rfl

end

/-- A body without hyphens stands between the lines of the armour, and only blanks come after
these. -/
structure Encloses (text label body : List Char) : Prop where
  free : '-' ∉ body
  lines : ∃ before after, text = before ++ (beginLine label ++ (body ++ (endLine label ++ after))) ∧
    ∀ c ∈ after, Text.isBlank c = true

/-- Blanks aside, the text ends with the line that ends the armour. -/
theorem Encloses.trimEnd_eq {text label body : List Char} (encloses : Encloses text label body) :
    ∃ before, Text.trimEnd text = (before ++ '-' :: body) ++ endLine label := by
  obtain ⟨-, before, after, rfl, blank⟩ := encloses
  refine ⟨before ++ (beginChars ++ (label ++ dashChars.tail)), ?_⟩
  have ends : Text.trimEnd ((before ++ (beginLine label ++ (body ++
      (endChars ++ (label ++ dashChars.tail))))) ++ '-' :: after) =
        (before ++ (beginLine label ++ (body ++ (endChars ++ (label ++ dashChars.tail))))) ++
          ['-'] := Text.trimEnd_append rfl blank
  simpa [beginLine, endLine, dashChars] using ends

/-- What stands after the last hyphen is found there. -/
theorem takeWhile_reverse_append_hyphen (before : List Char) {after : List Char}
    (free : '-' ∉ after) :
    (before ++ '-' :: after).reverse.takeWhile (· != '-') = after.reverse := by
  have kept : ∀ c ∈ after.reverse, (c != '-') = true := by
    intro c member
    rw [bne_iff_ne]
    rintro rfl
    exact free (List.mem_reverse.mp member)
  rw [List.reverse_append, List.reverse_cons, List.append_assoc,
    List.takeWhile_append_of_pos kept]
  simp

theorem eq_of_append_hyphen {before other after otherAfter : List Char} (free : '-' ∉ after)
    (otherFree : '-' ∉ otherAfter) (same : before ++ '-' :: after = other ++ '-' :: otherAfter) :
    after = otherAfter := by
  rw [← List.reverse_inj, ← takeWhile_reverse_append_hyphen before free, same,
    takeWhile_reverse_append_hyphen other otherFree]

/-- The body is what stands between the last hyphens before the line that ends the armour. -/
theorem Encloses.unique {text label first second : List Char}
    (encloses : Encloses text label first) (enclosesOther : Encloses text label second) :
    first = second := by
  obtain ⟨before, whole⟩ := encloses.trimEnd_eq
  obtain ⟨other, same⟩ := enclosesOther.trimEnd_eq
  exact eq_of_append_hyphen encloses.free enclosesOther.free
    (List.append_cancel_right (whole.symm.trans same))

/-- A text is armoured under one label without hyphens. -/
theorem Encloses.label_unique {text label otherLabel first second : List Char}
    (encloses : Encloses text label first) (enclosesOther : Encloses text otherLabel second)
    (free : '-' ∉ label) (otherFree : '-' ∉ otherLabel) : label = otherLabel := by
  obtain ⟨before, whole⟩ := encloses.trimEnd_eq
  obtain ⟨other, same⟩ := enclosesOther.trimEnd_eq
  have ends : ∀ (before body label : List Char), (before ++ '-' :: body) ++ endLine label =
      ((before ++ '-' :: (body ++ ['-', '-', '-', '-'])) ++
        '-' :: (['E', 'N', 'D', ' '] ++ label)) ++ dashChars := by
    intro before body label
    simp [endLine, endChars]
  rw [whole, ends, ends] at same
  exact List.append_cancel_left (eq_of_append_hyphen (by simpa using free)
    (by simpa using otherFree) (List.append_cancel_right same))

/-- What is read under a label is the base64 text that is left when the armour around it and its
line ends are taken away. -/
theorem exists_encloses_of_read? {label : String} (ascii : ∀ c ∈ label.toList, c.toNat < 128)
    {text : List Char} {octets : Octets}
    (read : read? label (Octets.ofText (String.ofList (Text.trim text))) = some octets) :
    ∃ body, Encloses text label.toList body ∧
      Base64.standard.decode (String.ofList (Text.squeeze body)) = .ok octets := by
  obtain ⟨before, inside, last, decoded, symbols, ends, whole⟩ := eq_append_of_read? read
  have small : ∀ octet, octet = lineFeed ∨ octet = carriageReturn → octet.toNat < 128 := by
    rintro octet (rfl | rfl) <;> decide
  have insideSmall : ∀ octet ∈ inside, octet.toNat < 128 := fun octet member =>
    (symbol_or_lineEnd symbols octet member).elim (fun symbol => symbol.visible.1) (small octet)
  -- From the first line of the armour on there are only ASCII characters.
  have lined : Octets.ofText (String.ofList (Text.trim text)) = before ++
      ((beginLine label.toList).map Octets.ofAscii ++ (inside ++
        ((endLine label.toList).map Octets.ofAscii ++ last))) := by
    rw [whole, map_beginLine, map_endLine, ← Octets.ofText_ofList_of_ascii ascii,
      String.ofList_toList]
    simp only [List.append_assoc]
  have lineSmall : ∀ {line : List Char}, (∀ c ∈ line, c.toNat < 128) →
      ∀ octet ∈ line.map Octets.ofAscii, octet.toNat < 128 := by
    intro line lineAscii octet member
    obtain ⟨c, inLine, rfl⟩ := List.mem_map.mp member
    rw [Octets.toNat_ofAscii (lineAscii c inLine)]
    exact lineAscii c inLine
  obtain ⟨front, chars, trimmed, charsAscii, mapped⟩ := Octets.exists_ascii_suffix (by
    simp only [List.forall_mem_append]
    exact ⟨lineSmall (ascii_beginLine ascii), insideSmall, lineSmall (ascii_endLine ascii),
      fun octet member => small octet (ends octet member)⟩) lined
  obtain ⟨first, others, rfl, firstMapped, othersMapped⟩ := List.map_eq_append_iff.mp mapped
  obtain ⟨enclosed, rest, rfl, rfl, restMapped⟩ := List.map_eq_append_iff.mp othersMapped
  obtain ⟨final, after, rfl, finalMapped, afterMapped⟩ := List.map_eq_append_iff.mp restMapped
  simp only [List.forall_mem_append] at charsAscii
  obtain ⟨firstAscii, enclosedAscii, finalAscii, afterAscii⟩ := charsAscii
  have begins := Octets.eq_of_map_ofAscii firstAscii (ascii_beginLine ascii) firstMapped
  have closes := Octets.eq_of_map_ofAscii finalAscii (ascii_endLine ascii) finalMapped
  subst begins closes
  obtain ⟨lead, trail, parts, -, trailBlank⟩ := Text.exists_eq_append_trim_append text
  refine ⟨enclosed, ⟨?free, lead ++ front, after ++ trail, ?parts, ?blank⟩, ?decoded⟩
  case free =>
    intro member
    rcases symbol_or_lineEnd symbols _ (List.mem_map_of_mem member) with symbol | feed | ends
    · exact symbol.visible.2.1 rfl
    · cases feed
    · cases ends
  case parts =>
    rw [parts, trimmed]
    simp only [List.append_assoc]
  case blank =>
    refine List.forall_mem_append.mpr ⟨fun c member => ?_, trailBlank⟩
    rw [← Octets.ofNat_toNat_ofAscii (afterAscii c member)]
    rcases ends _ (afterMapped ▸ List.mem_map_of_mem member) with feed | ends
    · rw [feed]
      decide
    · rw [ends]
      decide
  case decoded =>
    have visible : ∀ c ∈ Text.squeeze enclosed, c.toNat < 128 := fun c member =>
      enclosedAscii c (List.mem_of_mem_filter member)
    rw [← map_squeeze enclosedAscii symbols, ← Octets.ofText_ofList_of_ascii visible] at decoded
    exact decoded

end Attest.Pem
