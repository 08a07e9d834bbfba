import AssessmentItem.Proofs.Binary64.Literal
import AssessmentItem.Proofs.Integer.Literal
import AssessmentItem.Proofs.Value.Typing

/-!
# Texts that are read back

The display text of a scalar that has been read from a text is read as the same scalar.  It has no
blanks around it, and the texts of numbers and of identifiers have none at all, so that two of them
with a blank between them are still two words.  A value is read back from the texts of its members.

## Main definitions

* `Text.IsWord` : texts without blanks.
* `LiteralLaws` : what is read from texts is read from its own texts.

## Main results

* `Scalar.readFloat_literalText` : every floating-point number is read back.
* `Scalar.read_text`, `Value.read_members` : scalars and values are read back.
-/

namespace AssessmentItem

/-! ### Blanks -/

namespace Text

/-- A word `cs` has at least one character, and none of its characters is blank. -/
structure IsWord (cs : List Char) : Prop where
  ne_nil : cs ≠ []
  notBlank : ∀ c ∈ cs, isBlank c = false

variable {cs : List Char}

theorem IsWord.trim_eq (h : IsWord cs) : trim cs = cs :=
  trim_eq_self (fun c hc ↦ h.notBlank c (List.mem_of_head? hc))
    fun c hc ↦ h.notBlank c (List.mem_of_getLast? hc)

theorem IsWord.all (h : IsWord cs) : cs.all (fun c ↦ !isBlank c) = true := by
  simpa using h.notBlank

/-- Two words with a blank between them are left by `trim` as they are. -/
theorem trim_pair {a b : List Char} (ha : IsWord a) (hb : IsWord b) :
    trim (a ++ ' ' :: b) = a ++ ' ' :: b := by
  refine trim_eq_self (fun c hc ↦ ha.notBlank c ?_) fun c hc ↦ hb.notBlank c ?_
  · rw [List.head?_append_of_ne_nil _ ha.ne_nil] at hc
    exact List.mem_of_head? hc
  · rw [List.getLast?_append_of_ne_nil _ (List.cons_ne_nil _ _),
      List.getLast?_cons_of_ne_nil hb.ne_nil] at hc
    exact List.mem_of_getLast? hc

theorem notBlank_of_head?_dropWhile {c : Char} (hc : (cs.dropWhile isBlank).head? = some c) :
    isBlank c = false := by
  have h := List.head?_dropWhile_not isBlank cs
  rw [hc] at h
  simpa using h

theorem trim_trim (cs : List Char) : trim (trim cs) = trim cs := by
  refine trim_eq_self (fun c hc ↦ ?_) fun c hc ↦ ?_
  · -- What the second end leaves is the end of what the first one leaves.
    rw [trim, List.head?_reverse] at hc
    obtain ⟨blanks, hsplit⟩ := @List.dropWhile_suffix _ (cs.dropWhile isBlank).reverse isBlank
    have hne := List.ne_nil_of_mem (List.mem_of_getLast? hc)
    have hhead : (cs.dropWhile isBlank).head? = some c := by
      rw [← List.getLast?_reverse, ← hsplit, List.getLast?_append_of_ne_nil _ hne, hc]
    exact notBlank_of_head?_dropWhile hhead
  · rw [trim, List.getLast?_reverse] at hc
    exact notBlank_of_head?_dropWhile hc

end Text

namespace Scalar

open Text

theorem isFloatChar_of_isDigit {c : Char} (hc : c.isDigit) : isFloatChar c := by
  simp [isFloatChar, hc]

theorem isBlank_of_isFloatChar {c : Char} (hc : isFloatChar c) : isBlank c = false := by
  simp only [isFloatChar, Bool.or_eq_true, beq_iff_eq] at hc
  obtain ((((hc | rfl) | rfl) | rfl) | rfl) | rfl := hc
  · obtain ⟨hlow, hhigh⟩ := Char.isDigit_iff_toNat.1 hc
    have hlow : 48 ≤ c.toNat := hlow
    have hhigh : c.toNat ≤ 57 := hhigh
    simp only [isBlank, Bool.or_eq_false_iff, Bool.and_eq_false_iff, decide_eq_false_iff_not,
      beq_eq_false_iff_ne]
    omega
  all_goals decide

/-! ### Numbers -/

theorem isWord_of_forall_isFloatChar {cs : List Char} (hne : cs ≠ [])
    (h : ∀ c ∈ cs, isFloatChar c) : IsWord cs :=
  ⟨hne, fun c hc ↦ isBlank_of_isFloatChar (h c hc)⟩

theorem isWord_integerText (n : Int64) : IsWord (Integer.text n).toList := by
  obtain ⟨k, -, htext⟩ | ⟨k, -, htext⟩ := Integer.text_cases n
  · rw [htext]
    exact isWord_of_forall_isFloatChar Nat.toDigits_ne_nil fun c hc ↦
      isFloatChar_of_isDigit (Integer.isDigit_of_mem_toDigits c hc)
  · rw [htext]
    exact isWord_of_forall_isFloatChar (List.cons_ne_nil _ _) <| List.forall_mem_cons.2
      ⟨rfl, fun c hc ↦ isFloatChar_of_isDigit (Integer.isDigit_of_mem_toDigits c hc)⟩

theorem readInteger_text (n : Int64) : readInteger (Integer.text n).toList = .ok n := by
  rw [readInteger, Integer.read_text]

theorem isFloatChar_plain (negative : Bool) (d : Binary64.Digits) :
    ∀ c ∈ Binary64.withSign negative (d.positional []), isFloatChar c := by
  have hpositional : ∀ c ∈ d.positional [], isFloatChar c := by
    intro c hc
    obtain hdigit | rfl := Binary64.isDigit_or_point_of_mem_positional hc
    · exact isFloatChar_of_isDigit hdigit
    · rfl
  cases negative with
  | false => exact hpositional
  | true => exact List.forall_mem_cons.2 ⟨rfl, hpositional⟩

theorem readFloat_eq {cs : List Char} {x : Float} (hcs : ∀ c ∈ cs, isFloatChar c)
    (hread : Binary64.read? cs = some x) : readFloat cs = .ok x := by
  have hne : cs ≠ [] := by
    rintro rfl
    nomatch hread
  unfold readFloat
  split
  · exact absurd (hcs 'I' (by decide)) (by decide)
  · exact absurd (hcs 'I' (by decide)) (by decide)
  · exact absurd (hcs 'N' (by decide)) (by decide)
  · rw [if_neg (by simpa [hne] using hcs), hread]

/-- The `literalText` of a number is one word, which is read as the number. -/
theorem readFloat_literalText (x : Float) :
    IsWord (Binary64.literalText x).toList ∧ readFloat (Binary64.literalText x).toList = .ok x := by
  cases hx : Binary64.parts? x with
  | some p =>
    have hchars := isFloatChar_plain p.negative (Binary64.shortest p.significand p.exponent)
    have hread := Binary64.read?_positional hx
    have htext : (Binary64.literalText x).toList = Binary64.withSign p.negative
        ((Binary64.shortest p.significand p.exponent).positional []) := by
      rw [Binary64.literalText, Binary64.plainWith, hx]
      exact String.toList_ofList
    rw [htext]
    refine ⟨isWord_of_forall_isFloatChar ?_ hchars, readFloat_eq hchars hread⟩
    intro hempty
    rw [hempty] at hread
    nomatch hread
  | none =>
    have hword (cs : List Char) (hne : cs ≠ []) (h : cs.all (fun c ↦ !isBlank c) = true) :
        IsWord cs := ⟨hne, by simpa using h⟩
    obtain rfl | rfl | rfl := Binary64.eq_of_parts?_eq_none hx
    · exact ⟨hword _ (List.cons_ne_nil _ _) (by decide), rfl⟩
    · exact ⟨hword _ (List.cons_ne_nil _ _) (by decide), rfl⟩
    · exact ⟨hword _ (List.cons_ne_nil _ _) (by decide), rfl⟩

/-! ### Scalars -/

theorem isWord_of_readIdentifier {cs : List Char} {name : String}
    (h : readIdentifier cs = .ok name) : IsWord name.toList := by
  unfold readIdentifier at h
  split at h
  · cases h
  · rename_i hempty
    split at h
    · cases h
    · rename_i hblank
      cases h
      rw [String.toList_ofList]
      exact ⟨by simpa using hempty, by simpa using hblank⟩

theorem readIdentifier_toList {name : String} (h : IsWord name.toList) :
    readIdentifier name.toList = .ok name := by
  have hblank : name.toList.any isBlank = false := by simpa using h.notBlank
  rw [readIdentifier, if_neg (by simpa using h.ne_nil), hblank, if_neg Bool.false_ne_true,
    String.ofList_toList]

theorem readTwo_pair {a b : String} (ha : IsWord a.toList) (hb : IsWord b.toList) :
    readTwo (trim (a ++ " " ++ b).toList) = .ok (a.toList, b.toList) := by
  have htext : (a ++ " " ++ b).toList = a.toList ++ ' ' :: b.toList := by
    simp [String.toList_append]
  rw [htext, trim_pair ha hb, readTwo, words_pair ha.all hb.all ha.ne_nil hb.ne_nil]

/-- The `text` of a scalar that has been read is read as the scalar. -/
theorem read_text {text : String} {t : BaseType} {s : Scalar} (h : read text t = .ok s) :
    read s.text t = .ok s := by
  unfold read at h ⊢
  dsimp only at h ⊢
  cases t with
  | string =>
    cases h
    rfl
  | identifier =>
    obtain ⟨name, hname, h⟩ := bind_eq_ok_iff.1 h
    cases h
    have hword := isWord_of_readIdentifier (mapError_eq_ok_iff.1 hname)
    simp only [Scalar.text, hword.trim_eq, readIdentifier_toList hword]
    rfl
  | boolean =>
    dsimp only at h
    split at h
    · cases h
      rfl
    · split at h
      · cases h
        rfl
      · cases h
  | integer =>
    obtain ⟨n, hn, h⟩ := bind_eq_ok_iff.1 h
    cases h
    simp only [Scalar.text, (isWord_integerText n).trim_eq, readInteger_text]
    rfl
  | float =>
    obtain ⟨x, hx, h⟩ := bind_eq_ok_iff.1 h
    cases h
    obtain ⟨hword, hread⟩ := readFloat_literalText x
    simp only [Scalar.text, hword.trim_eq, hread]
    rfl
  | point =>
    obtain ⟨⟨a, b⟩, -, h⟩ := bind_eq_ok_iff.1 h
    obtain ⟨x, -, h⟩ := bind_eq_ok_iff.1 h
    obtain ⟨y, -, h⟩ := bind_eq_ok_iff.1 h
    cases h
    simp only [Scalar.text, readTwo_pair (isWord_integerText x) (isWord_integerText y)]
    simp only [bind, Except.bind, Except.mapError, readInteger_text]
    rfl
  | pair | directedPair =>
    obtain ⟨_, -, h⟩ := bind_eq_ok_iff.1 h
    obtain ⟨a, ha, h⟩ := bind_eq_ok_iff.1 h
    obtain ⟨b, hb, h⟩ := bind_eq_ok_iff.1 h
    cases h
    have ha := isWord_of_readIdentifier (mapError_eq_ok_iff.1 ha)
    have hb := isWord_of_readIdentifier (mapError_eq_ok_iff.1 hb)
    simp only [Scalar.text, readTwo_pair ha hb]
    simp only [bind, Except.bind, Except.mapError, readIdentifier_toList ha,
      readIdentifier_toList hb]
    rfl
  | duration =>
    obtain ⟨x, hx, h⟩ := bind_eq_ok_iff.1 h
    split at h
    · cases h
    · rename_i hbounds
      cases h
      obtain ⟨hword, hread⟩ := readFloat_literalText x
      simp only [Scalar.text, hword.trim_eq, hread]
      exact if_neg hbounds
  | uri =>
    dsimp only at h
    split at h
    · cases h
    · rename_i hne
      cases h
      simp only [Scalar.text, String.toList_ofList, trim_trim]
      rw [if_neg hne]
  | file => nomatch h

end Scalar

/-! ### Values -/

namespace Value

variable {texts : List String} {k : Cardinality} {t : BaseType} {members : List Scalar} {v : Value}

theorem members_of_container (h : Value.container k t members = .ok v) : v.members = members := by
  obtain ⟨c, hc, hv⟩ := bind_eq_ok_iff.1 h
  have hmembers : c.members = members := by
    unfold Container.ofMembers at hc
    split at hc
    · cases hc
    · cases hc
      rfl
  rw [← hmembers]
  split at hv
  · rename_i hempty
    cases hv
    exact (List.isEmpty_iff.1 hempty).symm
  · cases k with
    | multiple | ordered =>
      cases hv
      rfl
    | single | record => cases hv

/-- For `.multiple` and `.ordered`, `Value.read` reads a list of texts that is not empty member by
member. -/
theorem read_container (hk : k = .multiple ∨ k = .ordered) (hne : texts ≠ []) :
    Value.read texts k t = (do
      let members ← texts.mapM fun text ↦ Scalar.read text t
      (Value.container k t members).mapError fun fault ↦
        ⟨t.name, String.intercalate " " texts, .container fault⟩) := by
  obtain ⟨text, texts, rfl⟩ := List.exists_cons_of_ne_nil hne
  obtain rfl | rfl := hk <;> cases texts <;> rfl

/-- The texts of the `members` of a value that has been read are read as the value. -/
theorem read_members (h : Value.read texts k t = .ok v) (hnull : v ≠ .null) :
    Value.read (v.members.map Scalar.text) k t = .ok v := by
  have hne : texts ≠ [] := by
    rintro rfl
    cases h
    exact hnull rfl
  have hcontainer (hk : k = .multiple ∨ k = .ordered) :
      Value.read (v.members.map Scalar.text) k t = .ok v := by
    rw [read_container hk hne] at h
    obtain ⟨members, hmembers, h⟩ := bind_eq_ok_iff.1 h
    have hv := mapError_eq_ok_iff.1 h
    have hread : ∀ s ∈ members, Scalar.read s.text t = .ok s :=
      (gives_mapM texts fun text _ ↦ gives_of_forall_eq (fun s ↦ Scalar.read_text)
        fun _ _ ↦ trivial).of_eq_ok hmembers
    have hsome : members ≠ [] := fun hempty ↦
      hnull ((ofType_container hv).wellFormed.eq_null_of_members
        ((members_of_container hv).trans hempty))
    rw [members_of_container hv, read_container hk (mt List.map_eq_nil_iff.1 hsome),
      mapM_map_eq_ok members hread]
    exact mapError_eq_ok_iff.2 hv
  cases k with
  | multiple => exact hcontainer (.inl rfl)
  | ordered => exact hcontainer (.inr rfl)
  | single =>
    obtain ⟨text, texts, rfl⟩ := List.exists_cons_of_ne_nil hne
    cases texts with
    | nil =>
      obtain ⟨s, hs, h⟩ := bind_eq_ok_iff.1 h
      cases h
      change (do return Value.single (← Scalar.read s.text t)) = _
      rw [Scalar.read_text hs]
      rfl
    | cons => cases h
  | record =>
    obtain ⟨text, texts, rfl⟩ := List.exists_cons_of_ne_nil hne
    cases texts <;> cases h

end Value

/-! ### Reading back -/

/-- What is read from texts as `t` is read from its own texts. -/
structure LiteralLaws (t : BaseType) : Prop where
  scalar {text : String} {s : Scalar} : Scalar.read text t = .ok s → Scalar.read s.text t = .ok s
  /-- The `members` of a value, in their order, are read as the value. -/
  value {texts : List String} {k : Cardinality} {v : Value} :
    Value.read texts k t = .ok v → v ≠ .null → Value.read (v.members.map Scalar.text) k t = .ok v

theorem literalLaws (t : BaseType) : LiteralLaws t where
  scalar := Scalar.read_text
  value := Value.read_members

/-- Two pairs, `B A` and `C A`. -/
def connectedPairs : Container where
  baseType := .pair
  members := [.pair "B" "A", .pair "C" "A"]
  uniform := by decide

theorem literalLaws_pairs :
    Value.read [" B  A ", "C A"] .multiple .pair = .ok (.multiple connectedPairs) ∧
      Value.read ["B A", "C A"] .multiple .pair = .ok (.multiple connectedPairs) ∧
      Scalar.read " 1e-1 " .float = .ok (.float 0.1) ∧
      Scalar.read (Scalar.float 0.1).text .float = .ok (.float 0.1) := by
  have hpairs : Value.read [" B  A ", "C A"] .multiple .pair = .ok (.multiple connectedPairs) := rfl
  have htenth : Scalar.read " 1e-1 " .float = .ok (.float 0.1) := rfl
  exact ⟨hpairs, (literalLaws .pair).value hpairs nofun, htenth,
    (literalLaws .float).scalar htenth⟩

end AssessmentItem
