/-!
# Blank characters

The blank characters are those with the Unicode property White_Space: tab to carriage return,
space, next line, the no-break space, the typographic spaces, the two separators and the
ideographic space.  The zero-width space and the byte order mark are not blank.

## Main definitions

* `Text.isBlank` : the property.
* `Text.trim` : a text without the blanks at its two ends.
* `Text.words` : the maximal runs of characters that are not blank.

## Main results

* `Text.trim_eq_self` : a text whose two ends are not blank is its own trimming.
* `Text.words_pair` : two words written with one space between them are read back.
-/

namespace AssessmentItem.Text

/-- Whether `c` has the Unicode property `White_Space`. -/
def isBlank (c : Char) : Bool :=
  let n := c.toNat
  (0x09 ≤ n && n ≤ 0x0D) || n == 0x20 || n == 0x85 || n == 0xA0 || n == 0x1680 ||
    (0x2000 ≤ n && n ≤ 0x200A) || n == 0x2028 || n == 0x2029 || n == 0x202F || n == 0x205F ||
    n == 0x3000

/-- A text without the blanks at its beginning and at its end. -/
def trim (cs : List Char) : List Char :=
  ((cs.dropWhile isBlank).reverse.dropWhile isBlank).reverse

/-- The words of a text, where `word` holds, last character first, the one being read. -/
def wordsAfter (word : List Char) : List Char → List (List Char)
  | [] => if word.isEmpty then [] else [word.reverse]
  | c :: cs =>
    if isBlank c then
      if word.isEmpty then wordsAfter [] cs else word.reverse :: wordsAfter [] cs
    else wordsAfter (c :: word) cs

/-- The maximal runs of characters that are not blank, in their order. -/
def words (cs : List Char) : List (List Char) := wordsAfter [] cs

/-! ### Small laws -/

theorem wordsAfter_append {w : List Char} (hw : w.all (fun c ↦ !isBlank c) = true)
    (word rest : List Char) :
    wordsAfter word (w ++ rest) = wordsAfter (w.reverse ++ word) rest := by
  induction w generalizing word with
  | nil => rfl
  | cons c w ih =>
    simp only [List.all_cons, Bool.and_eq_true, Bool.not_eq_true'] at hw
    simp only [List.cons_append, wordsAfter, hw.1, Bool.false_eq_true, if_false]
    rw [ih hw.2]
    simp

/-- Two words written with one space between them are read back. -/
theorem words_pair {a b : List Char} (ha : a.all (fun c ↦ !isBlank c) = true)
    (hb : b.all (fun c ↦ !isBlank c) = true) (ha' : a ≠ []) (hb' : b ≠ []) :
    words (a ++ ' ' :: b) = [a, b] := by
  have hspace : isBlank ' ' = true := by decide
  have hea : a.reverse.isEmpty = false := by simpa using ha'
  have heb : b.reverse.isEmpty = false := by simpa using hb'
  unfold words
  rw [wordsAfter_append ha]
  simp only [List.append_nil, wordsAfter, hspace, if_true, hea, Bool.false_eq_true, if_false,
    List.reverse_reverse]
  have h := wordsAfter_append hb [] []
  simp only [List.append_nil] at h
  rw [h]
  simp [wordsAfter, hb']

/-- A text whose two ends are not blank is not changed by `trim`. -/
theorem trim_eq_self {cs : List Char} (h : ∀ c, cs.head? = some c → isBlank c = false)
    (h' : ∀ c, cs.getLast? = some c → isBlank c = false) : trim cs = cs := by
  have drop : ∀ {l : List Char}, (∀ c, l.head? = some c → isBlank c = false) →
      l.dropWhile isBlank = l := by
    intro l hl
    cases l with
    | nil => rfl
    | cons c l => simp [hl c rfl]
  unfold trim
  rw [drop h, drop, List.reverse_reverse]
  intro c hc
  exact h' c (by simpa [List.head?_reverse] using hc)

end AssessmentItem.Text
