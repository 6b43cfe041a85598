import Mathlib.Data.List.Infix

/-!
# Lines and words

Texts are lists of characters.  The functions follow those of the Rust
standard library that programs use to take the output of commands apart.
-/

namespace Text

/-- `char::is_whitespace`: the Unicode property `White_Space`. -/
def isWhitespace (c : Char) : Bool :=
  let code := c.toNat
  (0x09 ≤ code && code ≤ 0x0D) || code == 0x20 || code == 0x85 ||
    code == 0xA0 || code == 0x1680 || (0x2000 ≤ code && code ≤ 0x200A) ||
    code == 0x2028 || code == 0x2029 || code == 0x202F || code == 0x205F ||
    code == 0x3000

def trimStart (text : List Char) : List Char :=
  text.dropWhile isWhitespace

def trimEnd (text : List Char) : List Char :=
  (text.reverse.dropWhile isWhitespace).reverse

def trim (text : List Char) : List Char :=
  trimEnd (trimStart text)

/-- `str::split` at a character. -/
def split (sep : Char) : List Char → List (List Char)
  | [] => [[]]
  | c :: text =>
      if c = sep then [] :: split sep text
      else
        match split sep text with
        | [] => [[c]]
        | first :: rest => (c :: first) :: rest

/-- A carriage return before a line feed belongs to the line end. -/
def stripReturn (line : List Char) : List Char :=
  if line.getLast? = some '\r' then line.dropLast else line

/-- `str::lines`: what follows the last line feed counts unless it is empty. -/
def lines (text : List Char) : List (List Char) :=
  let all := split '\n' text
  all.dropLast.map stripReturn ++ (all.getLast?.filter (· ≠ [])).toList

/-- The text with every line ended. -/
def unlines (texts : List (List Char)) : List Char :=
  texts.flatMap fun line => line ++ ['\n']

/-- A word is not empty and has no white space. -/
def IsWord (word : List Char) : Prop :=
  word ≠ [] ∧ ∀ c ∈ word, isWhitespace c = false

instance (word : List Char) : Decidable (IsWord word) :=
  @instDecidableAnd _ _ inferInstance (List.decidableBAll _ word)

theorem split_append {sep : Char} {piece : List Char}
    (notIn : sep ∉ piece) (text : List Char) :
    split sep (piece ++ sep :: text) = piece :: split sep text := by
  induction piece with
  | nil => simp [split]
  | cons c piece induction =>
      have other : c ≠ sep := by
        rintro rfl
        exact notIn List.mem_cons_self
      have rest : sep ∉ piece := fun member =>
        notIn (List.mem_cons_of_mem _ member)
      simp [split, other, induction rest]

theorem split_unlines {texts : List (List Char)}
    (single : ∀ line ∈ texts, '\n' ∉ line) :
    split '\n' (unlines texts) = texts ++ [[]] := by
  induction texts with
  | nil => rfl
  | cons line texts induction =>
      have tail := induction fun later member =>
        single later (List.mem_cons_of_mem _ member)
      have unlined : unlines (line :: texts) =
          line ++ '\n' :: unlines texts := by
        simp [unlines]
      rw [unlined, split_append (single line List.mem_cons_self), tail]
      rfl

theorem IsWord.not_mem {word : List Char} (isWord : IsWord word) {c : Char}
    (white : isWhitespace c = true) : c ∉ word := by
  intro member
  rw [isWord.2 c member] at white
  cases white

theorem IsWord.trimStart_eq {word : List Char} (isWord : IsWord word) :
    trimStart word = word := by
  obtain ⟨nonempty, clean⟩ := isWord
  cases word with
  | nil => exact absurd rfl nonempty
  | cons c word =>
      rw [trimStart, List.dropWhile_cons_of_neg]
      simp [clean c List.mem_cons_self]

theorem IsWord.reverse {word : List Char} (isWord : IsWord word) :
    IsWord word.reverse := by
  refine ⟨by simpa using isWord.1, ?_⟩
  intro c member
  exact isWord.2 c (List.mem_reverse.mp member)

theorem IsWord.trim_eq {word : List Char} (isWord : IsWord word) :
    trim word = word := by
  have reversed := isWord.reverse.trimStart_eq
  rw [trimStart] at reversed
  rw [trim, isWord.trimStart_eq, trimEnd, reversed, List.reverse_reverse]

theorem IsWord.stripReturn_eq {word : List Char} (isWord : IsWord word) :
    stripReturn word = word := by
  rw [stripReturn, if_neg]
  intro ends
  exact isWord.not_mem rfl (List.mem_of_getLast? ends)

/-- Words on lines of their own are read back. -/
theorem lines_unlines {words : List (List Char)}
    (areWords : ∀ word ∈ words, IsWord word) :
    lines (unlines words) = words := by
  have pieces : split '\n' (unlines words) = words ++ [[]] := by
    apply split_unlines
    intro word member
    exact (areWords word member).not_mem rfl
  unfold lines
  rw [pieces]
  dsimp only
  have noRest : (((words ++ [[]]).getLast?).filter (· ≠ [])).toList = [] := by
    simp
  rw [noRest, List.append_nil, List.dropLast_concat]
  calc words.map stripReturn
    _ = words.map id := List.map_congr_left fun word member =>
        (areWords word member).stripReturn_eq
    _ = words := List.map_id words

theorem mem_trimStart {c : Char} {text : List Char}
    (solid : isWhitespace c = false) (member : c ∈ text) :
    c ∈ trimStart text := by
  induction text with
  | nil => cases member
  | cons head text induction =>
      unfold trimStart
      rw [List.dropWhile_cons]
      split
      · rename_i white
        rcases List.mem_cons.mp member with rfl | later
        · rw [solid] at white
          cases white
        · exact induction later
      · exact member

/-- Only white space is trimmed. -/
theorem mem_trim {c : Char} {text : List Char}
    (solid : isWhitespace c = false) (member : c ∈ text) : c ∈ trim text := by
  apply List.mem_reverse.mpr
  apply mem_trimStart solid
  exact List.mem_reverse.mpr (mem_trimStart solid member)

end Text
