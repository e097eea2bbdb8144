import Mathlib.Data.List.TakeWhile
import RedisCluster.Text.Blank

/-! Texts cut at their blanks, and characters dropped from the end of a text. -/

namespace RedisCluster

section Pieces

variable {separates : Char → Bool} {front rest : List Char}

/-- A text without a separator is one piece. -/
theorem pieces_of_unseparated (whole : ∀ c ∈ front, separates c = false) :
    pieces separates front = [front] := by
  induction front with
  | nil => rfl
  | cons c front ih =>
    -- The first character joins the piece of the others.
    have first : separates c = false := whole c List.mem_cons_self
    have others := ih fun d member => whole d (List.mem_cons_of_mem c member)
    simp only [pieces, first, others, Bool.false_eq_true, if_false]

/-- The first separator ends the first piece. -/
theorem pieces_append {separator : Char} (whole : ∀ c ∈ front, separates c = false)
    (cuts : separates separator = true) :
    pieces separates (front ++ separator :: rest) = front :: pieces separates rest := by
  induction front with
  | nil => simp only [List.nil_append, pieces, cuts, if_true]
  | cons c front ih =>
    have first : separates c = false := whole c List.mem_cons_self
    have others := ih fun d member => whole d (List.mem_cons_of_mem c member)
    simp only [List.cons_append, pieces, first, others, Bool.false_eq_true, if_false]

/-- Cutting a text is splitting it as a list. -/
theorem pieces_eq_splitOnP (separates : Char → Bool) (text : List Char) :
    pieces separates text = text.splitOnP separates := by
  induction text with
  | nil => rfl
  | cons c rest ih =>
    rw [pieces, List.splitOnP_cons_eq_if_modifyHead, ih]
    split
    -- A separator begins a new piece.
    · rfl
    · -- Even of nothing there is one piece.
      obtain ⟨piece, others, found⟩ :=
        List.exists_cons_of_ne_nil (List.splitOnP_ne_nil separates rest)
      rw [found]
      rfl

/-- A text is its pieces, with the separator between them. -/
theorem intercalate_pieces (separator : Char) (text : List Char) :
    [separator].intercalate (pieces (· == separator) text) = text := by
  rw [pieces_eq_splitOnP]
  exact List.intercalate_splitOn separator

/-- A list without separators in its items is cut into these items. -/
theorem pieces_intercalate {separator : Char} {items : List (List Char)} (listed : items ≠ [])
    (whole : ∀ item ∈ items, separator ∉ item) :
    pieces (· == separator) ([separator].intercalate items) = items := by
  rw [pieces_eq_splitOnP, ← List.splitOn_eq_splitOnP]
  exact List.splitOn_intercalate separator whole listed

end Pieces

/-- Two words with a blank between them are found. -/
theorem words_pair {first second : List Char} {blank : Char} (some_first : first ≠ [])
    (some_second : second ≠ []) (solid : ∀ c ∈ first, isBlank c = false)
    (solidToo : ∀ c ∈ second, isBlank c = false) (cuts : isBlank blank = true) :
    words (first ++ blank :: second) = [first, second] := by
  rw [words, pieces_append solid cuts, pieces_of_unseparated solidToo]
  -- Neither piece is empty, so both are words.
  simp [some_first, some_second]

section Ends

variable {drop : Char → Bool} {text : List Char}

/-- What stands behind a text is dropped from its end with it. -/
theorem dropEndWhile_append_singleton {c : Char} (dropped : drop c = true) :
    dropEndWhile drop (text ++ [c]) = dropEndWhile drop text := by
  simp [dropEndWhile, dropped]

/-- A text whose last character stays keeps its end. -/
theorem dropEndWhile_of_last (kept : ∀ c ∈ text.getLast?, drop c = false) :
    dropEndWhile drop text = text := by
  cases reversed : text.reverse with
  -- Nothing has no last character.
  | nil => simp [List.reverse_eq_nil_iff.1 reversed, dropEndWhile]
  | cons last front =>
    have stays : drop last = false := kept last (by
      rw [← List.head?_reverse, reversed]
      rfl)
    -- From the end, dropping stops at the first character.
    rw [dropEndWhile, reversed, List.dropWhile_cons_of_neg (by simp [stays]), ← reversed,
      List.reverse_reverse]

/-- After dropping, the last character stays. -/
theorem last_of_dropEndWhile : ∀ c ∈ (dropEndWhile drop text).getLast?, drop c = false := by
  intro c last
  rw [dropEndWhile, List.getLast?_reverse] at last
  -- Read from the end, the first character that is not dropped stops it.
  have stops := List.head?_dropWhile_not drop text.reverse
  rw [Option.mem_def.1 last] at stops
  exact stops

/-- Dropping from the end leaves a front of the text. -/
theorem dropEndWhile_prefix (drop : Char → Bool) (text : List Char) :
    dropEndWhile drop text <+: text := by
  have back := List.dropWhile_suffix drop (l := text.reverse)
  rw [dropEndWhile, ← List.reverse_suffix, List.reverse_reverse]
  exact back

end Ends

section Trim

variable {front text back : List Char}

/-- Blanks around a text without blanks are what is trimmed. -/
theorem trimBlanks_around (before : ∀ c ∈ front, isBlank c = true)
    (solid : ∀ c ∈ text, isBlank c = false) (behind : ∀ c ∈ back, isBlank c = true) :
    trimBlanks (front ++ text ++ back) = text := by
  -- At the end only the blanks are dropped.
  have ends : dropEndWhile isBlank (text ++ back) = text := by
    rw [dropEndWhile, List.reverse_append, List.dropWhile_append_of_pos (by simpa using behind)]
    exact dropEndWhile_of_last fun c member => solid c (List.mem_of_getLast? member)
  rw [trimBlanks, List.append_assoc, List.dropWhile_append_of_pos before]
  cases text with
  -- Without a text there are blanks only.
  | nil => rw [List.nil_append, List.dropWhile_eq_nil_iff.2 behind]; rfl
  | cons c text =>
    -- The first character of the text stops the dropping.
    have first : isBlank c = false := solid c List.mem_cons_self
    rw [List.cons_append, List.dropWhile_cons_of_neg (by simp [first])]
    exact ends

/-- Of blanks nothing is left. -/
theorem trimBlanks_of_blank (blank : ∀ c ∈ text, isBlank c = true) : trimBlanks text = [] := by
  rw [trimBlanks, List.dropWhile_eq_nil_iff.2 blank]
  rfl

end Trim

end RedisCluster
