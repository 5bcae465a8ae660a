import Attest.Base64
import Attest.Proofs.Octets

/-!
# Base64 read back

Decoding undoes encoding, for the two encodings in use.  The argument is by groups of
six bits: every symbol of an encoding reads back as its group, and the groups of
one, two or three octets give these octets again.
-/

namespace Attest.Base64

/-- What decoding needs of an encoding: each symbol is an ASCII character other than
the padding and reads back as its group. -/
structure Readable (base : Base64) : Prop where
  ascii : ∀ group < 64, (base.symbol group).toNat < 128
  ne_pad : ∀ group < 64, Octets.ofAscii (base.symbol group) ≠ pad
  group? : ∀ group < 64, base.group? (Octets.ofAscii (base.symbol group)) = some group

theorem readable_standard : Readable standard where
  ascii := by decide
  ne_pad := by decide
  group? := by decide

theorem readable_urlSafe : Readable urlSafe where
  ascii := by decide
  ne_pad := by decide
  group? := by decide

/-- The octet of the symbol of a group. -/
def symbolOctet (base : Base64) (group : Nat) : UInt8 :=
  Octets.ofAscii (base.symbol group)

variable {base : Base64}

/-! ## Symbols -/

/-- The groups of octets, three octets at a time. -/
def groups : Octets → List Nat
  | a :: b :: c :: rest =>
      let bits := a.toNat * 65536 + b.toNat * 256 + c.toNat
      bits / 262144 :: bits / 4096 % 64 :: bits / 64 % 64 :: bits % 64 :: groups rest
  | [a, b] =>
      let bits := a.toNat * 256 + b.toNat
      [bits / 1024, bits / 16 % 64, bits % 16 * 4]
  | [a] => [a.toNat / 4, a.toNat % 4 * 16]
  | [] => []

/-- How many padding symbols fill up the last group. -/
def padCount : Octets → Nat
  | _ :: _ :: _ :: rest => padCount rest
  | [_, _] => 1
  | [_] => 2
  | [] => 0

theorem symbols_eq (octets : Octets) :
    base.symbols octets = (groups octets).map base.symbol ++ base.padding (padCount octets) := by
  induction octets using groups.induct with
  | case1 a b c rest ih => simp [symbols, groups, padCount, ih]
  | case2 a b => simp [symbols, groups, padCount]
  | case3 a => simp [symbols, groups, padCount]
  | case4 => simp [symbols, groups, padCount, padding]

theorem groups_lt (octets : Octets) : ∀ group ∈ groups octets, group < 64 := by
  induction octets using groups.induct with
  | case1 a b c rest ih =>
      have ha := a.toNat_lt
      have hb := b.toNat_lt
      have hc := c.toNat_lt
      simp only [groups, List.forall_mem_cons]
      exact ⟨by omega, by omega, by omega, by omega, ih⟩
  | case2 a b =>
      have ha := a.toNat_lt
      have hb := b.toNat_lt
      simp only [groups, List.forall_mem_cons]
      exact ⟨by omega, by omega, by omega, by simp⟩
  | case3 a =>
      have ha := a.toNat_lt
      simp only [groups, List.forall_mem_cons]
      exact ⟨by omega, by omega, by simp⟩
  | case4 => simp [groups]

/-- What holds of the symbols of the 64 groups and of the padding holds of a whole text. -/
theorem forall_mem_symbols {p : Char → Prop} (symbol : ∀ group < 64, p (base.symbol group))
    (filler : p '=') (octets : Octets) : ∀ c ∈ base.symbols octets, p c := by
  rw [symbols_eq]
  intro c member
  rcases List.mem_append.mp member with inGroups | inPadding
  · obtain ⟨group, hgroup, rfl⟩ := List.mem_map.mp inGroups
    exact symbol group (groups_lt octets group hgroup)
  · rw [padding] at inPadding
    split at inPadding
    · rw [List.eq_of_mem_replicate inPadding]
      exact filler
    · cases inPadding

theorem ascii_symbols (readable : base.Readable) (octets : Octets) :
    ∀ c ∈ base.symbols octets, c.toNat < 128 :=
  forall_mem_symbols readable.ascii (by decide) octets

theorem two_le_length_groups {octets : Octets} (nonempty : octets ≠ []) :
    2 ≤ (groups octets).length := by
  match octets, nonempty with
  | [_], _ => simp [groups]
  | [_, _], _ => simp [groups]
  | _ :: _ :: _ :: _, _ => simp [groups]

theorem groups_ne_nil {octets : Octets} (nonempty : octets ≠ []) : groups octets ≠ [] :=
  List.ne_nil_of_length_pos (Nat.lt_of_lt_of_le Nat.zero_lt_two (two_le_length_groups nonempty))

theorem symbols_ne_nil {octets : Octets} (nonempty : octets ≠ []) : base.symbols octets ≠ [] := by
  rw [symbols_eq]
  exact List.append_ne_nil_of_left_ne_nil (mt List.map_eq_nil_iff.mp (groups_ne_nil nonempty)) _

/-- The padding of an encoding in octets. -/
def padOctets (base : Base64) (count : Nat) : Octets :=
  List.replicate (if base.padded then count else 0) pad

/-- The octets of the text that spells an octet string. -/
def spelling (base : Base64) (octets : Octets) : Octets :=
  (groups octets).map base.symbolOctet ++ base.padOctets (padCount octets)

theorem spelling_ne_nil {octets : Octets} (nonempty : octets ≠ []) : base.spelling octets ≠ [] :=
  List.append_ne_nil_of_left_ne_nil (mt List.map_eq_nil_iff.mp (groups_ne_nil nonempty)) _

theorem ofText_encode (readable : base.Readable) (octets : Octets) :
    Octets.ofText (base.encode octets) = base.spelling octets := by
  rw [encode, Octets.ofText_ofList_of_ascii (ascii_symbols readable octets), symbols_eq,
    List.map_append, List.map_map, padding, spelling, padOctets]
  congr 1
  split <;> simp [Octets.ofAscii, pad]

/-! ## Groups read back -/

theorem groupsAt_symbolOctets (readable : base.Readable) (offset : Nat) {list : List Nat}
    (bounded : ∀ group ∈ list, group < 64) :
    base.groupsAt offset (list.map base.symbolOctet) = .ok list := by
  induction list generalizing offset with
  | nil => rfl
  | cons group rest ih =>
      have head := readable.group? group (bounded group List.mem_cons_self)
      have tail := ih (offset + 1) fun other member =>
        bounded other (List.mem_cons_of_mem group member)
      rw [List.map_cons, groupsAt, groupAt, symbolOctet, head, tail]
      rfl

theorem finish_three (a b c last : UInt8) (offset : Nat) :
    finish (groups [a, b, c]) last offset = .ok [a, b, c] := by
  have ha := a.toNat_lt
  have hb := b.toNat_lt
  have hc := c.toNat_lt
  have first : (a.toNat * 65536 + b.toNat * 256 + c.toNat) / 262144 * 4 +
      (a.toNat * 65536 + b.toNat * 256 + c.toNat) / 4096 % 64 / 16 = a.toNat := by omega
  have second : (a.toNat * 65536 + b.toNat * 256 + c.toNat) / 4096 % 64 % 16 * 16 +
      (a.toNat * 65536 + b.toNat * 256 + c.toNat) / 64 % 64 / 4 = b.toNat := by omega
  have third : (a.toNat * 65536 + b.toNat * 256 + c.toNat) / 64 % 64 % 4 * 64 +
      (a.toNat * 65536 + b.toNat * 256 + c.toNat) % 64 = c.toNat := by omega
  simp only [groups, finish, first, second, third, UInt8.ofNat_toNat]

theorem finish_two (a b last : UInt8) (offset : Nat) :
    finish (groups [a, b]) last offset = .ok [a, b] := by
  have ha := a.toNat_lt
  have hb := b.toNat_lt
  have spare : (a.toNat * 256 + b.toNat) % 16 * 4 % 4 = 0 := by omega
  have first : (a.toNat * 256 + b.toNat) / 1024 * 4 +
      (a.toNat * 256 + b.toNat) / 16 % 64 / 16 = a.toNat := by omega
  have second : (a.toNat * 256 + b.toNat) / 16 % 64 % 16 * 16 +
      (a.toNat * 256 + b.toNat) % 16 * 4 / 4 = b.toNat := by omega
  simp only [groups, finish, spare, if_true, first, second, UInt8.ofNat_toNat]

theorem finish_one (a last : UInt8) (offset : Nat) :
    finish (groups [a]) last offset = .ok [a] := by
  have ha := a.toNat_lt
  have spare : a.toNat % 4 * 16 % 16 = 0 := by omega
  have first : a.toNat / 4 * 4 + a.toNat % 4 * 16 / 16 = a.toNat := by omega
  simp only [groups, finish, spare, if_true, first, UInt8.ofNat_toNat]

/-! ## Decoding -/

theorem takeWhile_symbolOctets (readable : base.Readable) (count : Nat) {list : List Nat}
    (bounded : ∀ group ∈ list, group < 64) :
    (list.map base.symbolOctet ++ base.padOctets count).takeWhile (· != pad) =
      list.map base.symbolOctet := by
  rw [List.takeWhile_append_of_pos, padOctets, List.takeWhile_replicate]
  · simp
  · intro octet member
    obtain ⟨group, hgroup, rfl⟩ := List.mem_map.mp member
    exact bne_iff_ne.mpr (readable.ne_pad group (bounded group hgroup))

theorem dropWhile_symbolOctets (readable : base.Readable) (count : Nat) {list : List Nat}
    (bounded : ∀ group ∈ list, group < 64) :
    (list.map base.symbolOctet ++ base.padOctets count).dropWhile (· != pad) =
      base.padOctets count := by
  rw [List.dropWhile_append_of_pos, padOctets, List.dropWhile_replicate]
  · simp
  · intro octet member
    obtain ⟨group, hgroup, rfl⟩ := List.mem_map.mp member
    exact bne_iff_ne.mpr (readable.ne_pad group (bounded group hgroup))

/-- A last group of at least two symbols, filled up to four with padding where the
encoding pads, is read by its groups. -/
theorem decodeLast_symbolOctets (readable : base.Readable) (offset count : Nat) {list : List Nat}
    (bounded : ∀ group ∈ list, group < 64) (long : 2 ≤ list.length)
    (full : (list.length + count) % 4 = 0) :
    base.decodeLast offset (list.map base.symbolOctet ++ base.padOctets count) =
      finish list ((list.map base.symbolOctet).getLastD pad) (offset + list.length - 1) := by
  have notShort : ¬ list.length < 2 := Nat.not_lt.mpr long
  have allPad : (base.padOctets count).any (· != pad) = false := by
    simp [padOctets]
  have padding : base.padded = false → base.padOctets count = [] := by
    intro bare
    simp [padOctets, bare]
  have filled : base.padded = true → (list.length + (base.padOctets count).length) % 4 = 0 := by
    intro padded
    simpa [padOctets, padded] using full
  rw [decodeLast, takeWhile_symbolOctets readable count bounded,
    dropWhile_symbolOctets readable count bounded, groupsAt_symbolOctets readable offset bounded]
  cases h : base.padded with
  | true => simp [bind, Except.bind, notShort, allPad, filled h]
  | false => simp [bind, Except.bind, notShort, padding h]

theorem decodeFrom_of_length_le (offset : Nat) {octets : Octets} (nonempty : octets ≠ [])
    (short : octets.length ≤ 4) : base.decodeFrom offset octets = base.decodeLast offset octets := by
  match octets, nonempty, short with
  | [_], _, _ => rfl
  | [_, _], _, _ => rfl
  | [_, _, _], _, _ => rfl
  | [_, _, _, _], _, _ => rfl

/-- A full group that is not the last one is read before what follows it. -/
theorem decodeFrom_of_full {offset : Nat} {a b c d : UInt8} {list : List Nat}
    {head tail octets : Octets} (read : base.groupsAt offset [a, b, c, d] = .ok list)
    (finished : finish list d (offset + 3) = .ok head) (more : tail ≠ [])
    (rest : base.decodeFrom (offset + 4) tail = .ok octets) :
    base.decodeFrom offset (a :: b :: c :: d :: tail) = .ok (head ++ octets) := by
  cases tail with
  | nil => contradiction
  | cons next more =>
      simp only [decodeFrom, read, bind, Except.bind, finished, rest]
      rfl

/-- The groups of one, two or three octets yield these octets. -/
theorem finish_groups {octets : Octets} (nonempty : octets ≠ []) (short : octets.length ≤ 3)
    (last : UInt8) (offset : Nat) : finish (groups octets) last offset = .ok octets := by
  match octets, nonempty, short with
  | [a], _, _ => exact finish_one a last offset
  | [a, b], _, _ => exact finish_two a b last offset
  | [a, b, c], _, _ => exact finish_three a b c last offset

/-- The symbols of a last group read back as its octets. -/
theorem decodeFrom_of_last (readable : base.Readable) (offset : Nat) {octets : Octets}
    (nonempty : octets ≠ []) (short : octets.length ≤ 3) :
    base.decodeFrom offset (base.spelling octets) = .ok octets := by
  have long := two_le_length_groups nonempty
  have full : (groups octets).length + padCount octets = 4 := by
    match octets, nonempty, short with
    | [_], _, _ => rfl
    | [_, _], _, _ => rfl
    | [_, _, _], _, _ => rfl
  have fits : (base.spelling octets).length ≤ 4 := by
    simp only [spelling, padOctets, List.length_append, List.length_map, List.length_replicate]
    split <;> omega
  rw [decodeFrom_of_length_le offset (spelling_ne_nil nonempty) fits, spelling,
    decodeLast_symbolOctets readable offset _ (groups_lt octets) long (by omega)]
  exact finish_groups nonempty short _ _

/-- The symbols of an octet string read back as the octet string. -/
theorem decodeFrom_encoded (readable : base.Readable) (offset : Nat) (octets : Octets) :
    base.decodeFrom offset (base.spelling octets) = .ok octets := by
  induction octets using groups.induct generalizing offset with
  | case1 a b c rest ih =>
      have head := groupsAt_symbolOctets readable offset (groups_lt [a, b, c])
      by_cases last : rest = []
      · subst last
        exact decodeFrom_of_last readable offset (List.cons_ne_nil a [b, c]) (Nat.le_refl 3)
      · have more : base.spelling rest ≠ [] := spelling_ne_nil last
        obtain ⟨w, x, y, z, four⟩ : ∃ w x y z, groups [a, b, c] = [w, x, y, z] :=
          ⟨_, _, _, _, rfl⟩
        have finished := finish_three a b c (base.symbolOctet z) (offset + 3)
        rw [four] at head finished
        change base.decodeFrom offset
          ((groups [a, b, c] ++ groups rest).map base.symbolOctet ++
            base.padOctets (padCount rest)) = _
        rw [four, List.map_append, List.append_assoc]
        exact decodeFrom_of_full head finished more (ih (offset + 4))
  | case2 a b =>
      exact decodeFrom_of_last readable offset (List.cons_ne_nil a [b]) (Nat.le_succ 2)
  | case3 a =>
      exact decodeFrom_of_last readable offset (List.cons_ne_nil a []) (by simp)
  | case4 => simp [spelling, groups, padCount, padOctets, decodeFrom]

/-- No octet of a spelling is a foreign symbol. -/
theorem group?_ne_none_of_mem (readable : base.Readable) {octets : Octets} {octet : UInt8}
    (member : octet ∈ base.spelling octets)
    (symbol : octet ≠ pad) : base.group? octet ≠ none := by
  rcases List.mem_append.mp member with inGroups | inPadding
  · obtain ⟨group, hgroup, rfl⟩ := List.mem_map.mp inGroups
    rw [symbolOctet, readable.group? group (groups_lt octets group hgroup)]
    exact Option.some_ne_none group
  · exact absurd (List.eq_of_mem_replicate inPadding) symbol

/-- Decoding undoes encoding. -/
theorem decode_encode (readable : base.Readable) (octets : Octets) :
    base.decode (base.encode octets) = .ok octets := by
  rw [decode, ofText_encode readable, decodeOctets]
  split
  · next last hlast =>
    rw [if_neg]
    · exact decodeFrom_encoded readable 0 octets
    · rintro ⟨_, symbol, foreign⟩
      exact group?_ne_none_of_mem readable (List.mem_of_getLast? hlast) symbol foreign
  · next hnone =>
    rw [List.getLast?_eq_none_iff] at hnone
    have whole := decodeFrom_encoded readable 0 octets
    rw [hnone] at whole
    exact whole

theorem decodeOctets_symbols (readable : base.Readable) (octets : Octets) :
    base.decodeOctets ((base.symbols octets).map Octets.ofAscii) = .ok octets := by
  rw [← Octets.ofText_ofList_of_ascii (ascii_symbols readable octets)]
  exact decode_encode readable octets

end Attest.Base64
