import LowRank.Text.Blank
import LowRank.Text.Letter

/-!
# Trimmed texts

A trimmed text neither begins nor ends with a blank character, and a text of this kind is its own
trimmed form. Blank characters are not letters, so they are the same in every letter case.
-/

namespace LowRank.Text

theorem not_isBlank_getLast?_trim (text : List Char) (char : Char)
    (found : (trim text).getLast? = some char) : isBlank char = false := by
  have last := List.head?_dropWhile_not isBlank (trimStart text).reverse
  simp only [trim, trimEnd, List.getLast?_reverse] at found
  simpa [found] using last

theorem trimStart_eq_self (text : List Char)
    (visible : ∀ char, text.head? = some char → isBlank char = false) :
    trimStart text = text := by
  cases text with
  | nil => rfl
  | cons first rest =>
      have firstVisible := visible first rfl
      simp [trimStart, firstVisible]

theorem trimEnd_eq_self (text : List Char)
    (visible : ∀ char, text.getLast? = some char → isBlank char = false) :
    trimEnd text = text := by
  have reversed : text.reverse.dropWhile isBlank = text.reverse := by
    apply trimStart_eq_self
    intro char found
    rw [List.head?_reverse] at found
    exact visible char found
  rw [trimEnd, reversed, List.reverse_reverse]

/-- A text that begins and ends with a visible character is its own trimmed form. -/
theorem trim_eq_self (text : List Char)
    (firstVisible : ∀ char, text.head? = some char → isBlank char = false)
    (lastVisible : ∀ char, text.getLast? = some char → isBlank char = false) :
    trim text = text := by
  rw [trim, trimStart_eq_self text firstVisible, trimEnd_eq_self text lastVisible]

theorem trim_of_visible (text : List Char)
    (firstVisible : ∃ char, text.head? = some char ∧ isBlank char = false)
    (lastVisible : ∃ char, text.getLast? = some char ∧ isBlank char = false) :
    trim text = text := by
  rcases firstVisible with ⟨first, isFirst, firstNotBlank⟩
  rcases lastVisible with ⟨last, isLast, lastNotBlank⟩
  apply trim_eq_self
  · intro char found
    rw [isFirst] at found
    cases found
    exact firstNotBlank
  · intro char found
    rw [isLast] at found
    cases found
    exact lastNotBlank

theorem trimEnd_append_blanks (text after : List Char)
    (blank : ∀ char ∈ after, isBlank char = true) : trimEnd (text ++ after) = trimEnd text := by
  rw [trimEnd, List.reverse_append, List.dropWhile_append_of_pos]
  · rfl
  · intro char char_mem
    exact blank char (List.mem_reverse.mp char_mem)

theorem trimEnd_trimStart_append_blanks (text after : List Char)
    (blank : ∀ char ∈ after, isBlank char = true) :
    trimEnd (trimStart (text ++ after)) = trimEnd (trimStart text) := by
  induction text with
  | nil =>
      have vanishes : trimStart (after ++ []) = trimStart [] :=
        List.dropWhile_append_of_pos blank
      rw [List.append_nil] at vanishes
      rw [List.nil_append, vanishes]
  | cons char rest ih =>
      cases first : isBlank char with
      | true => simpa [trimStart, first] using ih
      | false =>
          have stays : ∀ others, trimStart (char :: others) = char :: others := by
            intro others
            exact List.dropWhile_cons_of_neg (by simp [first])
          rw [List.cons_append, stays, stays, ← List.cons_append]
          exact trimEnd_append_blanks (char :: rest) after blank

/-- Blank characters around a text do not change what is left of it by trimming. -/
theorem trim_append_blanks (before text after : List Char)
    (blank : ∀ char ∈ before ++ after, isBlank char = true) :
    trim (before ++ text ++ after) = trim text := by
  have beforeDropped : trimStart (before ++ (text ++ after)) = trimStart (text ++ after) := by
    apply List.dropWhile_append_of_pos
    intro char char_mem
    exact blank char (List.mem_append_left after char_mem)
  rw [List.append_assoc, trim, beforeDropped]
  apply trimEnd_trimStart_append_blanks
  intro char char_mem
  exact blank char (List.mem_append_right before char_mem)

theorem isBlank_of_mem_takeWhile (text : List Char) (char : Char)
    (char_mem : char ∈ text.takeWhile isBlank) : isBlank char = true :=
  List.all_eq_true.mp List.all_takeWhile char char_mem

/-- What trimming takes from the end of a text is blank. -/
theorem exists_blanks_trimStart (text : List Char) :
    ∃ after, (∀ char ∈ after, isBlank char = true) ∧ trimStart text = trim text ++ after := by
  refine ⟨((trimStart text).reverse.takeWhile isBlank).reverse, ?_, ?_⟩
  · intro char char_mem
    exact isBlank_of_mem_takeWhile _ char (List.mem_reverse.mp char_mem)
  · rw [trim, trimEnd, ← List.reverse_append, List.takeWhile_append_dropWhile,
      List.reverse_reverse]

/-- Trimming takes blank characters away from both ends and nothing else. -/
theorem exists_blanks_trim (text : List Char) :
    ∃ before after, (∀ char ∈ before ++ after, isBlank char = true) ∧
      text = before ++ trim text ++ after := by
  rcases exists_blanks_trimStart text with ⟨after, blank, trailing⟩
  refine ⟨text.takeWhile isBlank, after, ?_, ?_⟩
  · intro char char_mem
    rcases List.mem_append.mp char_mem with before_mem | after_mem
    · exact isBlank_of_mem_takeWhile text char before_mem
    · exact blank char after_mem
  · rw [List.append_assoc, ← trailing]
    exact List.takeWhile_append_dropWhile.symm

theorem not_isBlank_head?_trim (text : List Char) (char : Char)
    (found : (trim text).head? = some char) : isBlank char = false := by
  rcases exists_blanks_trimStart text with ⟨after, _, trailing⟩
  have first := List.head?_dropWhile_not isBlank text
  rw [trimStart] at trailing
  simpa [trailing, List.head?_append, found] using first

theorem trim_trim (text : List Char) : trim (trim text) = trim text :=
  trim_eq_self _ (not_isBlank_head?_trim text) (not_isBlank_getLast?_trim text)

/-- What is left of a text when the blank characters at its ends are taken away. -/
structure TrimsTo (text trimmed : List Char) : Prop where
  between : ∃ before after, (∀ char ∈ before ++ after, isBlank char = true) ∧
    text = before ++ trimmed ++ after
  firstVisible : ∀ char, trimmed.head? = some char → isBlank char = false
  lastVisible : ∀ char, trimmed.getLast? = some char → isBlank char = false

theorem trimsTo_trim (text : List Char) : TrimsTo text (trim text) :=
  ⟨exists_blanks_trim text, not_isBlank_head?_trim text, not_isBlank_getLast?_trim text⟩

/-- Nothing else but the trimmed form is left of a text without the blanks at its ends. -/
theorem trimsTo_iff (text trimmed : List Char) : TrimsTo text trimmed ↔ trimmed = trim text := by
  constructor
  · rintro ⟨⟨before, after, blank, rfl⟩, firstVisible, lastVisible⟩
    rw [trim_append_blanks before trimmed after blank]
    exact (trim_eq_self trimmed firstVisible lastVisible).symm
  · rintro rfl
    exact trimsTo_trim text

theorem mem_of_mem_trim (text : List Char) (char : Char) (char_mem : char ∈ trim text) :
    char ∈ text := by
  rcases exists_blanks_trim text with ⟨before, after, _, whole⟩
  rw [whole]
  exact List.mem_append_left after (List.mem_append_right before char_mem)

theorem trim_eq_nil_iff (text : List Char) :
    trim text = [] ↔ ∀ char ∈ text, isBlank char = true := by
  constructor
  · intro vanishes
    rcases exists_blanks_trim text with ⟨before, after, blank, whole⟩
    rw [vanishes, List.append_nil] at whole
    rw [whole]
    exact blank
  · intro blank
    have surrounded := trim_append_blanks text [] []
    rw [List.append_nil, List.append_nil] at surrounded
    exact surrounded blank

theorem trim_ne_nil_iff (text : List Char) :
    trim text ≠ [] ↔ ∃ char ∈ text, isBlank char = false := by
  rw [ne_eq, trim_eq_nil_iff]
  simp

/-- In a trimmed text a visible word may stand in the place of another. -/
theorem trim_replace (front word other back : List Char)
    (trimmed : trim (front ++ word ++ back) = front ++ word ++ back) (nonempty : other ≠ [])
    (visible : ∀ char ∈ other, isBlank char = false) :
    trim (front ++ other ++ back) = front ++ other ++ back := by
  -- Either end is as it was before, or it is an end of the new word.
  apply trim_eq_self
  · intro char found
    rw [List.append_assoc, List.head?_append] at found
    cases first : front.head? with
    | some head =>
        rw [first] at found
        cases found
        apply not_isBlank_head?_trim (front ++ word ++ back)
        rw [trimmed, List.append_assoc, List.head?_append, first]
        rfl
    | none =>
        rw [first, Option.none_or, List.head?_append, List.head?_eq_some_head nonempty] at found
        cases found
        exact visible _ (List.head_mem nonempty)
  · intro char found
    rw [List.getLast?_append] at found
    cases last : back.getLast? with
    | some ending =>
        rw [last] at found
        cases found
        apply not_isBlank_getLast?_trim (front ++ word ++ back)
        rw [trimmed, List.getLast?_append, last]
        rfl
    | none =>
        rw [last, Option.none_or, List.getLast?_append, List.getLast?_eq_some_getLast nonempty]
          at found
        cases found
        exact visible _ (List.getLast_mem nonempty)

theorem isBlank_toLower (char : Char) : isBlank char.toLower = isBlank char := by
  by_cases capital : 'A'.val ≤ char.val ∧ char.val ≤ 'Z'.val
  · have lowerNat : 65 ≤ char.toNat := UInt32.le_iff_toNat_le.mp capital.1
    have upperNat : char.toNat ≤ 90 := UInt32.le_iff_toNat_le.mp capital.2
    have shifted : char.toLower.toNat = char.toNat + 32 := by
      have small : char.toLower.val = char.val + 32 := congrArg Char.val (dif_pos capital)
      have inRange : char.toNat + 32 < 2 ^ 32 := by omega
      change char.toLower.val.toNat = char.toNat + 32
      rw [small]
      exact (UInt32.toNat_add _ _).trans (Nat.mod_eq_of_lt inRange)
    -- Neither the capital letters nor the small ones touch a range of blank characters.
    rw [Bool.eq_iff_iff]
    simp [isBlank, CodePoints.covers, blankRanges, shifted]
    omega
  · exact congrArg isBlank (dif_neg capital)

/-- Texts that agree up to letter case have their blank characters at the same places. -/
theorem map_isBlank_of_agreesIgnoringCase (left right : List Char)
    (agrees : agreesIgnoringCase left right = true) : left.map isBlank = right.map isBlank := by
  rw [agreesIgnoringCase, beq_iff_eq] at agrees
  have alike := congrArg (List.map isBlank) agrees
  simpa only [lowered, List.map_map, Function.comp_def, isBlank_toLower] using alike

/-- A text that is a name up to letter case begins with a visible character if the name does. -/
theorem head?_visible_of_agreesIgnoringCase (letter : Char) (letters text : List Char)
    (agrees : agreesIgnoringCase (letter :: letters) text = true)
    (visible : isBlank letter = false) :
    ∃ char, text.head? = some char ∧ isBlank char = false := by
  have alike := map_isBlank_of_agreesIgnoringCase _ _ agrees
  cases text with
  | nil => cases alike
  | cons char chars =>
      rw [List.map_cons, List.map_cons, visible] at alike
      exact ⟨char, rfl, (List.cons.inj alike).1.symm⟩

/-- A text that is a name up to letter case has no blank character if the name has none. -/
theorem visible_of_agreesIgnoringCase (letters text : List Char)
    (agrees : agreesIgnoringCase letters text = true)
    (visible : ∀ letter ∈ letters, isBlank letter = false) :
    ∀ char ∈ text, isBlank char = false := by
  intro char char_mem
  have found : isBlank char ∈ text.map isBlank := List.mem_map_of_mem char_mem
  rw [← map_isBlank_of_agreesIgnoringCase _ _ agrees] at found
  rcases List.mem_map.mp found with ⟨letter, letter_mem, same⟩
  rw [← same]
  exact visible letter letter_mem

end LowRank.Text
