import Attest.Proofs.Base64
import Attest.Proofs.Outcome

/-!
# One spelling for every octet string

What decodes is the spelling of what it decodes to, in the encoding with padding as in the one
without: a symbol stands for one group only, the bits beyond the last octet are not set, and the
padding is neither missing nor superfluous.  So two texts that decode to the same octets are the
same text.
-/

namespace Attest.Base64

variable {base : Base64} {octets decoded : Octets} {list : List Nat}

/-! ## Symbols -/

theorem toNat_ofNat_of_small {code : Nat} (small : code < 256) :
    (Char.ofNat code).toNat = code := by
  have valid : code.isValidChar := Or.inl (Nat.lt_trans small (by decide))
  rw [Char.ofNat, dif_pos valid]
  rfl

/-- An octet that reads as a group is the symbol of the group. -/
theorem symbolOctet_of_group? {octet : UInt8} {group : Nat}
    (read : base.group? octet = some group) :
    group < 64 ∧ base.symbolOctet group = octet := by
  have spelled : ∀ {c : Char}, octet.toNat = c.toNat → Octets.ofAscii c = octet := by
    intro c same
    rw [Octets.ofAscii, ← same, UInt8.ofNat_toNat]
  have letter : ∀ {first group : Nat}, octet.toNat = first + group →
      Octets.ofAscii (Char.ofNat (first + group)) = octet := by
    intro first group same
    apply spelled
    rw [← same, toNat_ofNat_of_small octet.toNat_lt]
  have upper : 'A'.toNat = 65 ∧ 'Z'.toNat = 90 := ⟨rfl, rfl⟩
  have lower : 'a'.toNat = 97 ∧ 'z'.toNat = 122 := ⟨rfl, rfl⟩
  have digit : '0'.toNat = 48 ∧ '9'.toNat = 57 := ⟨rfl, rfl⟩
  rw [symbolOctet, symbol]
  simp only [group?] at read
  split at read
  · cases read
    rw [if_pos (by omega)]
    exact ⟨by omega, letter (by omega)⟩
  · split at read
    · cases read
      rw [if_neg (by omega), if_pos (by omega), Nat.add_sub_cancel]
      exact ⟨by omega, letter (by omega)⟩
    · split at read
      · cases read
        rw [if_neg (by omega), if_neg (by omega), if_pos (by omega), Nat.add_sub_cancel]
        exact ⟨by omega, letter (by omega)⟩
      · split at read
        · next same =>
            cases read
            exact ⟨by decide, spelled same⟩
        · split at read
          · next same =>
              cases read
              exact ⟨by decide, spelled same⟩
          · cases read

/-- Octets that read as groups are the symbols of the groups. -/
theorem map_symbolOctet_of_groupsAt {offset : Nat}
    (read : base.groupsAt offset octets = .ok list) :
    (∀ group ∈ list, group < 64) ∧ list.map base.symbolOctet = octets := by
  induction octets generalizing offset list with
  | nil =>
      cases read
      exact ⟨List.forall_mem_nil _, rfl⟩
  | cons octet rest ih =>
      rw [groupsAt, bind_eq_ok_iff] at read
      obtain ⟨group, first, read⟩ := read
      obtain ⟨groups, others, same⟩ := bind_eq_ok_iff.mp read
      cases same
      obtain ⟨bounded, spelled⟩ := ih others
      have found : base.group? octet = some group := by
        rw [groupAt] at first
        split at first
        · next found =>
            cases first
            exact found
        · cases first
      obtain ⟨small, symbol⟩ := symbolOctet_of_group? found
      constructor
      · exact List.forall_mem_cons.mpr ⟨small, bounded⟩
      · rw [List.map_cons, symbol, spelled]

/-! ## Groups -/

/-- The octets of a last group of two, three or four symbols have these groups: the bits that
do not make an octet are not set. -/
theorem groups_of_finish {last : UInt8} {offset : Nat} (bounded : ∀ group ∈ list, group < 64)
    (several : 2 ≤ list.length) (few : list.length ≤ 4)
    (finished : finish list last offset = .ok decoded) :
    groups decoded = list ∧ list.length + padCount decoded = 4 := by
  match list, several, few with
  | [a, b], _, _ =>
      simp only [List.forall_mem_cons] at bounded
      obtain ⟨ha, hb, -⟩ := bounded
      rw [finish] at finished
      split at finished
      · next spare =>
          cases finished
          have octet : (a * 4 + b / 16) % 2 ^ 8 = a * 4 + b / 16 := by omega
          have first : (a * 4 + b / 16) / 4 = a := by omega
          have second : (a * 4 + b / 16) % 4 * 16 = b := by omega
          simp only [groups, padCount, UInt8.toNat_ofNat', octet, first, second, and_self,
            List.length_cons, List.length_nil]
      · cases finished
  | [a, b, c], _, _ =>
      simp only [List.forall_mem_cons] at bounded
      obtain ⟨ha, hb, hc, -⟩ := bounded
      rw [finish] at finished
      split at finished
      · next spare =>
          cases finished
          have octets : (a * 4 + b / 16) % 2 ^ 8 * 256 + (b % 16 * 16 + c / 4) % 2 ^ 8 =
              a * 1024 + b * 16 + c / 4 := by omega
          have first : (a * 1024 + b * 16 + c / 4) / 1024 = a := by omega
          have second : (a * 1024 + b * 16 + c / 4) / 16 % 64 = b := by omega
          have third : (a * 1024 + b * 16 + c / 4) % 16 * 4 = c := by omega
          simp only [groups, padCount, UInt8.toNat_ofNat', octets, first, second, third, and_self,
            List.length_cons, List.length_nil]
      · cases finished
  | [a, b, c, d], _, _ =>
      simp only [List.forall_mem_cons] at bounded
      obtain ⟨ha, hb, hc, hd, -⟩ := bounded
      cases finished
      have octets : (a * 4 + b / 16) % 2 ^ 8 * 65536 + (b % 16 * 16 + c / 4) % 2 ^ 8 * 256 +
          (c % 4 * 64 + d) % 2 ^ 8 = a * 262144 + b * 4096 + c * 64 + d := by omega
      have first : (a * 262144 + b * 4096 + c * 64 + d) / 262144 = a := by omega
      have second : (a * 262144 + b * 4096 + c * 64 + d) / 4096 % 64 = b := by omega
      have third : (a * 262144 + b * 4096 + c * 64 + d) / 64 % 64 = c := by omega
      have fourth : (a * 262144 + b * 4096 + c * 64 + d) % 64 = d := by omega
      simp only [groups, padCount, UInt8.toNat_ofNat', octets, first, second, third, fourth,
        and_self, List.length_cons, List.length_nil]

/-- Four symbols make three octets, and spell them in front of any others. -/
theorem spelling_of_full {a b c d last : UInt8} {offset finishing : Nat} (tail : Octets)
    (read : base.groupsAt offset [a, b, c, d] = .ok list)
    (finished : finish list last finishing = .ok decoded) :
    base.spelling (decoded ++ tail) = [a, b, c, d] ++ base.spelling tail := by
  obtain ⟨bounded, spelled⟩ := map_symbolOctet_of_groupsAt read
  have length : list.length = 4 := by
    rw [← List.length_map (f := base.symbolOctet), spelled]
    rfl
  obtain ⟨grouped, -⟩ := groups_of_finish bounded (by omega) (by omega) finished
  match list, length with
  | [w, x, y, z], _ =>
      cases finished
      have ahead : ∀ p q r : UInt8, groups ([p, q, r] ++ tail) = groups [p, q, r] ++ groups tail :=
        fun p q r => rfl
      rw [spelling, ahead, grouped, List.map_append, spelled, List.append_assoc]
      rfl

/-! ## Decoding -/

theorem eq_replicate_pad {tail : Octets} (onlyPads : tail.any (· != pad) = false) :
    tail = List.replicate tail.length pad := by
  rw [List.eq_replicate_iff]
  refine ⟨rfl, fun octet member => ?_⟩
  simpa using List.any_eq_false.mp onlyPads octet member

/-- What a last group that decodes consists of: at least two symbols, filled up to four with
padding where the encoding pads. -/
theorem exists_symbols_of_decodeLast {offset : Nat} (short : octets.length ≤ 4)
    (read : base.decodeLast offset octets = .ok decoded) :
    ∃ symbols list last finishing, octets = symbols ++ base.padOctets (4 - symbols.length) ∧
      2 ≤ symbols.length ∧ symbols.length ≤ 4 ∧ base.groupsAt offset symbols = .ok list ∧
      finish list last finishing = .ok decoded := by
  have parts : octets.takeWhile (· != pad) ++ octets.dropWhile (· != pad) = octets :=
    List.takeWhile_append_dropWhile
  rw [decodeLast] at read
  generalize octets.takeWhile (· != pad) = symbols at parts read
  generalize octets.dropWhile (· != pad) = tail at parts read
  subst parts
  rw [List.length_append] at short
  obtain ⟨list, grouped, read⟩ := bind_eq_ok_iff.mp read
  simp only [bind, Except.bind] at read
  split at read
  · cases read
  · split at read
    · cases read
    · next onlyPads =>
        rw [Bool.not_eq_true] at onlyPads
        split at read
        · cases read
        · next several =>
            have filled : finish list (symbols.getLastD pad) (offset + symbols.length - 1) =
                .ok decoded ∧ tail = base.padOctets (4 - symbols.length) := by
              rw [padOctets]
              cases padded : base.padded with
              | true =>
                  rw [padded, if_pos rfl] at read
                  split at read
                  · cases read
                  · next full =>
                      have count : tail.length = 4 - symbols.length := by omega
                      rw [if_pos rfl, ← count]
                      exact ⟨read, eq_replicate_pad onlyPads⟩
              | false =>
                  rw [padded, if_neg Bool.false_ne_true] at read
                  split at read
                  · cases read
                  · next empty =>
                      rw [if_neg Bool.false_ne_true]
                      exact ⟨read, by simpa using empty⟩
            obtain ⟨finished, rfl⟩ := filled
            exact ⟨symbols, list, _, _, rfl, by omega, by omega, grouped, finished⟩

/-- A last group that decodes is a spelling. -/
theorem eq_spelling_of_decodeLast {offset : Nat} (short : octets.length ≤ 4)
    (read : base.decodeLast offset octets = .ok decoded) : octets = base.spelling decoded := by
  obtain ⟨symbols, list, last, finishing, rfl, several, few, grouped, finished⟩ :=
    exists_symbols_of_decodeLast short read
  obtain ⟨bounded, rfl⟩ := map_symbolOctet_of_groupsAt grouped
  rw [List.length_map] at several few ⊢
  obtain ⟨same, count⟩ := groups_of_finish bounded several few finished
  rw [spelling, same, ← count, Nat.add_sub_cancel_left]

/-- Octets that decode, a full group at a time, are a spelling. -/
theorem eq_spelling_of_decodeFrom {offset : Nat}
    (read : base.decodeFrom offset octets = .ok decoded) : octets = base.spelling decoded := by
  induction offset, octets using decodeFrom.induct generalizing decoded with
  | case1 offset a b c d next rest ih =>
      rw [decodeFrom] at read
      obtain ⟨list, grouped, read⟩ := bind_eq_ok_iff.mp read
      obtain ⟨head, finished, read⟩ := bind_eq_ok_iff.mp read
      obtain ⟨tail, others, same⟩ := bind_eq_ok_iff.mp read
      cases same
      rw [spelling_of_full tail grouped finished, ← ih others]
      rfl
  | case2 offset =>
      cases read
      simp [spelling, groups, padCount, padOctets]
  | case3 offset last long nonempty =>
      have short : last.length ≤ 4 := by
        rcases last with _ | ⟨a, _ | ⟨b, _ | ⟨c, _ | ⟨d, _ | ⟨next, rest⟩⟩⟩⟩⟩
        case cons.cons.cons.cons.cons => exact (long a b c d next rest rfl).elim
        all_goals simp
      rw [decodeFrom_of_length_le offset nonempty short] at read
      exact eq_spelling_of_decodeLast short read

theorem eq_spelling_of_decodeOctets (read : base.decodeOctets octets = .ok decoded) :
    octets = base.spelling decoded := by
  rw [decodeOctets] at read
  split at read
  · split at read
    · cases read
    · exact eq_spelling_of_decodeFrom read
  · next empty =>
      rw [List.getLast?_eq_none_iff] at empty
      cases read
      rw [empty]
      simp [spelling, groups, padCount, padOctets]

/-- Encoding undoes decoding: a text decodes to octets exactly when it is their text. -/
theorem decode_eq_ok_iff (readable : base.Readable) {text : String} :
    base.decode text = .ok octets ↔ text = base.encode octets := by
  constructor
  · intro read
    apply Octets.ofText_injective
    rw [ofText_encode readable]
    exact eq_spelling_of_decodeOctets read
  · rintro rfl
    exact decode_encode readable octets

/-! ## Full groups -/

theorem length_groups_add_padCount (octets : Octets) :
    ((groups octets).length + padCount octets) % 4 = 0 := by
  induction octets using groups.induct with
  | case1 a b c rest ih =>
      simp only [groups, padCount, List.length_cons]
      omega
  | case2 a b => simp [groups, padCount]
  | case3 a => simp [groups, padCount]
  | case4 => simp [groups, padCount]

/-- An encoding with padding writes full groups of four. -/
theorem length_symbols_mod_four (padded : base.padded = true) (octets : Octets) :
    (base.symbols octets).length % 4 = 0 := by
  rw [symbols_eq, padding, if_pos padded, List.length_append, List.length_map,
    List.length_replicate]
  exact length_groups_add_padCount octets

/-- Octets that decode are symbols and padding. -/
theorem symbol_or_pad_of_decodeOctets (readable : base.Readable)
    (read : base.decodeOctets octets = .ok decoded) :
    ∀ octet ∈ octets, (base.group? octet).isSome = true ∨ octet = pad := by
  intro octet member
  by_cases filler : octet = pad
  · exact Or.inr filler
  · rw [eq_spelling_of_decodeOctets read] at member
    exact Or.inl (Option.isSome_iff_ne_none.mpr (group?_ne_none_of_mem readable member filler))

end Attest.Base64
