import Attest.Text.Blank
import Mathlib.Data.List.Basic

/-!
# What trimming and squeezing keep

Trimming keeps the first visible character in front and takes a suffix and a prefix; what
is visible at both ends is kept as it is.  Squeezing keeps what is no ASCII blank.
-/

namespace Attest.Text

variable {text : List Char} {c : Char}

theorem isAsciiBlank_eq_false (visible : isBlank c = false) : isAsciiBlank c = false := by
  cases blank : isAsciiBlank c with
  | false => rfl
  | true =>
      rw [isBlank_of_isAsciiBlank blank] at visible
      cases visible

/-- What stands first after trimming is visible and stands somewhere in the text. -/
theorem visible_of_trimStart_eq_cons {rest : List Char} (trimmed : trimStart text = c :: rest) :
    isBlank c = false ∧ c ∈ text := by
  induction text with
  | nil => cases trimmed
  | cons d tail ih =>
      rw [trimStart, List.dropWhile_cons] at trimmed
      split at trimmed
      · obtain ⟨visible, member⟩ := ih trimmed
        exact ⟨visible, List.mem_cons_of_mem d member⟩
      · next visible =>
          cases trimmed
          exact ⟨Bool.not_eq_true _ ▸ visible, List.mem_cons_self⟩

theorem trimEnd_prefix (text : List Char) : trimEnd text <+: text := by
  have suffix := List.dropWhile_suffix isBlank (l := text.reverse)
  rw [trimEnd]
  simpa using List.reverse_prefix.mpr suffix

theorem trim_prefix (text : List Char) : trim text <+: trimStart text :=
  trimEnd_prefix (trimStart text)

theorem trimStart_cons (visible : isBlank c = false) : trimStart (c :: text) = c :: text := by
  rw [trimStart, List.dropWhile_cons_of_neg (by rw [visible]; exact Bool.false_ne_true)]

theorem trimEnd_append (visible : isBlank c = false) {blanks : List Char}
    (blank : ∀ d ∈ blanks, isBlank d = true) : trimEnd (text ++ c :: blanks) = text ++ [c] := by
  have leading : (text ++ c :: blanks).reverse = blanks.reverse ++ c :: text.reverse := by simp
  have dropped : ∀ d ∈ blanks.reverse, isBlank d = true := fun d member =>
    blank d (List.mem_reverse.mp member)
  have kept : List.dropWhile isBlank (c :: text.reverse) = c :: text.reverse :=
    trimStart_cons visible
  rw [trimEnd, leading, List.dropWhile_append_of_pos dropped, kept]
  simp

theorem trim_blank_append {blanks : List Char} (blank : ∀ d ∈ blanks, isBlank d = true)
    (text : List Char) : trim (blanks ++ text) = trim text := by
  rw [trim, trim, trimStart, trimStart, List.dropWhile_append_of_pos blank]

/-- A text with visible ends loses the blanks after it and nothing else. -/
theorem trim_append {first : Char} (front : isBlank first = false) (back : isBlank c = false)
    {blanks : List Char} (blank : ∀ d ∈ blanks, isBlank d = true) :
    trim (first :: (text ++ c :: blanks)) = first :: (text ++ [c]) := by
  rw [trim, trimStart_cons front, ← List.cons_append]
  exact trimEnd_append back blank

theorem exists_eq_trimEnd_append (text : List Char) :
    ∃ after, text = trimEnd text ++ after ∧ ∀ d ∈ after, isBlank d = true := by
  refine ⟨(text.reverse.takeWhile isBlank).reverse, ?_, ?_⟩
  · rw [trimEnd, ← List.reverse_append, List.takeWhile_append_dropWhile, List.reverse_reverse]
  · intro d member
    exact List.all_eq_true.mp List.all_takeWhile d (List.mem_reverse.mp member)

/-- Around what is left by trimming there are the trimmed blanks. -/
theorem exists_eq_append_trim_append (text : List Char) :
    ∃ before after, text = before ++ (trim text ++ after) ∧ (∀ d ∈ before, isBlank d = true) ∧
      ∀ d ∈ after, isBlank d = true := by
  obtain ⟨after, whole, blank⟩ := exists_eq_trimEnd_append (trimStart text)
  refine ⟨text.takeWhile isBlank, after, ?_, List.all_eq_true.mp List.all_takeWhile, blank⟩
  rw [trim, ← whole]
  exact List.takeWhile_append_dropWhile.symm

/-- A text without blanks is not squeezed. -/
theorem squeeze_eq_self (visible : ∀ d ∈ text, isBlank d = false) : squeeze text = text := by
  rw [squeeze, List.filter_eq_self]
  intro d member
  rw [isAsciiBlank_eq_false (visible d member)]
  rfl

/-- A visible character of a text is kept by squeezing. -/
theorem mem_squeeze (member : c ∈ text) (visible : isBlank c = false) : c ∈ squeeze text := by
  rw [squeeze, List.mem_filter, isAsciiBlank_eq_false visible]
  exact ⟨member, rfl⟩

end Attest.Text
