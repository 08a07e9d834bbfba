import AssessmentItem.Pattern.Library

/-!
# Patterns between the anchors

The text of a pattern is put into a group between the two anchors of the whole text, and the longer
text is read.  For most texts this reads what the text is by itself, so that the longer text is a
pattern exactly if the text is one, and then it is that pattern between the anchors.

Three kinds of texts are excepted.  A closing parenthesis that nothing opens ends the group; a
comment that stands open in the last line goes on over the end of the group; and the group and the
anchors add to the depth and to the size, which are bounded.

All of this is said of any library of regular expressions that reads texts from left to right, has
groups, anchors and comments, and knows what a sequence matches.

## Main definitions

* `PatternSemantics` : the regular expressions of a library, and what they match.
* `PatternLibrary.Lawful` : what is known of a library.
* `PatternLibrary.Enclosable` : texts that are none of the three kinds.

## Main results

* `PatternLibrary.whole?_eq` : the pattern of an enclosable text between the anchors.
* `PatternLibrary.matchesWhole?_eq_none`, `PatternLibrary.exists_matchesWhole?_eq` : whether there
  is an answer for a text, and which.
-/

namespace AssessmentItem

/-- A `'#'` stands in the last line: a comment that it begins goes on beyond the text. -/
def OpenComment : List Char → Prop
  | [] => False
  | c :: cs => c = '#' ∧ '\n' ∉ cs ∨ OpenComment cs

instance decidableOpenComment : DecidablePred OpenComment
  | [] => inferInstanceAs (Decidable False)
  | _ :: cs =>
    have : Decidable (OpenComment cs) := decidableOpenComment cs
    inferInstanceAs (Decidable (_ ∨ _))

theorem OpenComment.of_suffix {cs cs' : List Char} (h : OpenComment cs) (hsuffix : cs <:+ cs') :
    OpenComment cs' := by
  obtain ⟨front, rfl⟩ := hsuffix
  induction front with
  | nil => exact h
  | cons c front ih => exact .inr ih

theorem PatternLibrary.toList_anchored (text : String) :
    (anchored text).toList = '^' :: '(' :: '?' :: ':' :: (text.toList ++ [')', '$']) := by
  simp [anchored]

/-! ### Laws of a library -/

open PatternLibrary

/-- How the regular expressions of a library are put together, and what they match. -/
class PatternSemantics [PatternLibrary] where
  textStart : Regex
  textEnd : Regex
  group : Regex → Regex
  sequence : List Regex → Regex
  /-- The `Regex` leads from one place of a text to another. -/
  Matches : Regex → String → Nat → Nat → Prop

namespace PatternLibrary

variable [PatternLibrary] {cs : List Char} {r : PatternReading Regex}

/-- What `reading?` does with texts: they are read from left to right, up to a `')'` that nothing
opens. -/
structure ReadsForward : Prop where
  rest_suffix {cs : List Char} {r : PatternReading Regex} : reading? cs = some r → r.rest <:+ cs
  rest_eq {cs : List Char} {r : PatternReading Regex} : reading? cs = some r →
    r.rest = [] ∨ ∃ after, r.rest = ')' :: after
  /-- A text that is read to its end is read alike with a `')'` after it, unless a comment stands
  open there. -/
  onward {cs : List Char} {r : PatternReading Regex} : reading? cs = some r → r.rest = [] →
    ¬(r.spaced ∧ OpenComment cs) →
    reading? (cs ++ [')', '$']) = some { r with rest := [')', '$'] }
  /-- What is read in front of what was put after a text is read of the text alone. -/
  back {cs : List Char} {r : PatternReading Regex} : reading? (cs ++ [')', '$']) = some r →
    2 ≤ r.rest.length →
    ∃ own, reading? cs = some own ∧ r = { own with rest := own.rest ++ [')', '$'] }

/-- What is left in front of `[')', '$']` is nothing or has both characters. -/
theorem ReadsForward.rest_eq_nil (h : ReadsForward) (hread : reading? (cs ++ [')', '$']) = some r)
    (hlength : r.rest.length < 2) : r.rest = [] := by
  rcases h.rest_eq hread with hnil | ⟨after, hafter⟩
  · exact hnil
  · -- The last character is the anchor and not the parenthesis.
    obtain ⟨front, hfront⟩ := h.rest_suffix hread
    rw [hafter, List.length_cons] at hlength
    obtain rfl : after = [] := List.eq_nil_of_length_eq_zero (by omega)
    have hlast := congrArg List.getLast? hfront
    rw [hafter] at hlast
    simp at hlast

variable [PatternSemantics] {regex : Regex} {pattern text : String} {i j k : Nat}

open PatternSemantics

/-- The `regex` in a `group`, between `textStart` and `textEnd`. -/
def enclosed (regex : Regex) : Regex := sequence [textStart, group regex, textEnd]

/-- The `regex` matches the whole of `text`. -/
def MatchesWhole (regex : Regex) (text : String) : Prop := Matches regex text 0 text.length

/-- A group goes up to its `')'` and is one part between the anchors; a group that is not closed is
an error. -/
structure ReadsGroups : Prop where
  closed {cs : List Char} {r : PatternReading Regex} : reading? cs = some r →
    r.rest = [')', '$'] →
    reading? ('^' :: '(' :: '?' :: ':' :: cs) = some ⟨enclosed r.regex, [], false⟩
  unclosed {cs : List Char} : (∀ r, reading? cs = some r → r.rest = []) →
    reading? ('^' :: '(' :: '?' :: ':' :: cs) = none

/-- What `fits` the limits has parts that do so. -/
structure BoundsParts : Prop where
  fits_of_group {regex : Regex} : fits (group regex) → fits regex
  fits_of_mem {parts : List Regex} {regex : Regex} : fits (sequence parts) → regex ∈ parts →
    fits regex

/-- What `Matches` says stays within a text; anchors match nothing but their places, and the parts
of a `sequence` match one after the other. `occursIn` says whether a pattern leads from some place
to another. -/
structure MatchesParts : Prop where
  le_length {regex : Regex} {text : String} {i j : Nat} : Matches regex text i j →
    i ≤ text.length → j ≤ text.length
  textStart_iff {text : String} {i j : Nat} : i ≤ text.length →
    (Matches textStart text i j ↔ i = 0 ∧ i = j)
  textEnd_iff {text : String} {i j : Nat} : i ≤ text.length →
    (Matches textEnd text i j ↔ i = text.length ∧ i = j)
  group_iff {regex : Regex} {text : String} {i j : Nat} :
    Matches (group regex) text i j ↔ Matches regex text i j
  nil_iff {text : String} {i j : Nat} : Matches (sequence []) text i j ↔ i = j
  cons_iff {regex : Regex} {parts : List Regex} {text : String} {i k : Nat} :
    Matches (sequence (regex :: parts)) text i k ↔
      ∃ j, Matches regex text i j ∧ Matches (sequence parts) text j k
  occursIn_iff {regex : Regex} {text : String} :
    occursIn regex text ↔ ∃ i ≤ text.length, ∃ j, Matches regex text i j

/-- What is known of a library: how it reads texts and groups, that its limits hold for the parts
too, and what its regular expressions match. -/
structure Lawful : Prop where
  reads : ReadsForward
  groups : ReadsGroups
  limits : BoundsParts
  matching : MatchesParts

/-! ### What the anchors do -/

theorem BoundsParts.fits_of_enclosed (h : BoundsParts) (hfits : fits (enclosed regex)) :
    fits regex :=
  h.fits_of_group (h.fits_of_mem hfits (by simp))

/-- Between the anchors a pattern occurs in the texts with `MatchesWhole`. -/
theorem MatchesParts.occursIn_enclosed (h : MatchesParts) :
    occursIn (enclosed regex) text ↔ MatchesWhole regex text := by
  simp only [h.occursIn_iff, enclosed, h.cons_iff, h.group_iff, h.nil_iff]
  constructor
  · rintro ⟨i, hi, j, k, hstart, l, hkl, m, hend, rfl⟩
    obtain ⟨rfl, rfl⟩ := (h.textStart_iff hi).1 hstart
    obtain ⟨rfl, rfl⟩ := (h.textEnd_iff (h.le_length hkl hi)).1 hend
    exact hkl
  · intro hwhole
    exact ⟨0, Nat.zero_le _, _, 0, (h.textStart_iff (Nat.zero_le _)).2 ⟨rfl, rfl⟩, _, hwhole, _,
      (h.textEnd_iff (Nat.le_refl _)).2 ⟨rfl, rfl⟩, rfl⟩

/-- The text can stand in a group between anchors. -/
structure Enclosable (text : String) : Prop where
  /-- No `')'` stands in it that nothing opens. -/
  balanced : ∀ r ∈ reading? text.toList, r.rest = []
  /-- Where a comment can have begun in the last line, it leaves what is put after the text. -/
  uncommented : ∀ r ∈ reading? text.toList, r.spaced → OpenComment text.toList →
    ∃ found ∈ reading? (text.toList ++ [')', '$']), found.rest = [')', '$']
  /-- The group and the anchors do not make it too deep or too large to be one that `fits`. -/
  roomy : ∀ r ∈ reading? text.toList, fits r.regex → fits (enclosed r.regex)

theorem enclosable_iff (text : String) :
    Enclosable text ↔ ∀ r ∈ reading? text.toList,
      r.rest = [] ∧
        (r.spaced → OpenComment text.toList →
          ∃ found ∈ reading? (text.toList ++ [')', '$']), found.rest = [')', '$']) ∧
        (fits r.regex → fits (enclosed r.regex)) := by
  constructor
  · rintro ⟨hbalanced, huncommented, hroomy⟩ r hread
    exact ⟨hbalanced r hread, huncommented r hread, hroomy r hread⟩
  · intro h
    exact ⟨fun r hread ↦ (h r hread).1, fun r hread ↦ (h r hread).2.1,
      fun r hread ↦ (h r hread).2.2⟩

instance (text : String) : Decidable (Enclosable text) :=
  decidable_of_iff _ (enclosable_iff text).symm

/-- With `[')', '$']` after it, an `Enclosable` text is read as by itself. -/
theorem Enclosable.reading?_append (h : Enclosable text) (reads : ReadsForward)
    (hread : reading? text.toList = some r) :
    reading? (text.toList ++ [')', '$']) = some { r with rest := [')', '$'] } := by
  have hrest := h.balanced r hread
  by_cases hcomment : r.spaced ∧ OpenComment text.toList
  · -- A comment may have begun, but what follows is left, so it is not part of the reading.
    obtain ⟨found, hfound, hleft⟩ := h.uncommented r hread hcomment.1 hcomment.2
    obtain ⟨own, hown, rfl⟩ := reads.back hfound (by rw [hleft]; decide)
    obtain rfl := Option.some.inj (hread.symm.trans hown)
    rwa [Option.mem_def, hrest] at hfound
  · exact reads.onward hread hrest hcomment

/-- Between the anchors, an `Enclosable` text is the pattern that `read?` gives for it alone. -/
theorem whole?_eq (lawful : Lawful) (h : Enclosable text) :
    whole? text = (read? text).map enclosed := by
  rw [whole?, read?, read?, toList_anchored]
  cases hread : reading? text.toList with
  | none =>
    rw [lawful.groups.unclosed fun r hclosed ↦ ?_]
    · rfl
    · refine lawful.reads.rest_eq_nil hclosed (Nat.lt_of_not_le fun hle ↦ ?_)
      obtain ⟨own, hown, -⟩ := lawful.reads.back hclosed hle
      cases hread.symm.trans hown
  | some r =>
    have hrest := h.balanced r hread
    rw [lawful.groups.closed (h.reading?_append lawful.reads hread) rfl, Option.bind_some,
      Option.bind_some, admit?, admit?, hrest]
    have hfits : fits (enclosed r.regex) = fits r.regex :=
      Bool.eq_iff_iff.2 ⟨lawful.limits.fits_of_enclosed, h.roomy r hread⟩
    dsimp only
    rw [hfits]
    split <;> rfl

theorem matchesWhole?_eq_none (lawful : Lawful) (h : Enclosable pattern)
    (hread : read? pattern = none) : matchesWhole? pattern text = none := by
  rw [matchesWhole?, whole?_eq lawful h, hread]
  rfl

/-- An `Enclosable` pattern that `read?` accepts has an answer for every `text`: whether it matches
that as a whole. -/
theorem exists_matchesWhole?_eq (lawful : Lawful) (h : Enclosable pattern)
    (hread : read? pattern = some regex) (text : String) :
    ∃ b, matchesWhole? pattern text = some b ∧ (b = true ↔ MatchesWhole regex text) := by
  refine ⟨occursIn (enclosed regex) text, ?_, lawful.matching.occursIn_enclosed⟩
  rw [matchesWhole?, whole?_eq lawful h, hread]
  rfl

end PatternLibrary

end AssessmentItem
