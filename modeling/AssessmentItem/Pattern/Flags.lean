import AssessmentItem.Pattern.Basic
import AssessmentItem.Unicode.CaseFold

/-!
# Flags of patterns

Flags change how the pieces of a pattern are read from their place on to the end of their group.

## Main definitions

* `Pattern.Flags` : the flags in force.
* `Pattern.Flags.set?` : the flags after a flag letter.
* `Pattern.Flags.literal`, `Pattern.Flags.dot?`, `Pattern.Flags.class?` : the patterns that a
  character, a dot and a class stand for.
-/

namespace AssessmentItem.Pattern

open Unicode (CharSet)

/-- The flags in force at a place of a pattern; a group restores them at its end. -/
structure Flags where
  /-- The flag `i`: letters stand for themselves in either case. -/
  anyCase : Bool := false
  /-- The flag `m`: the line anchors hold at every line. -/
  multiLine : Bool := false
  /-- The flag `s`: the dot stands for a line feed as well. -/
  dotAll : Bool := false
  /-- The flag `x`: blanks and comments in the pattern are passed over. -/
  spaced : Bool := false
  /-- The flag `R`: lines may end with a carriage return. -/
  crlf : Bool := false
  /-- The flag `u`: classes hold characters beyond ASCII. -/
  unicode : Bool := true
  deriving DecidableEq

namespace Flags

/-- The flags after a flag letter is put on or off; the letter `U`, which swaps greediness, changes
nothing about what matches. -/
def set? (flags : Flags) (on : Bool) : Char → Option Flags
  | 'i' => some { flags with anyCase := on }
  | 'm' => some { flags with multiLine := on }
  | 's' => some { flags with dotAll := on }
  | 'x' => some { flags with spaced := on }
  | 'R' => some { flags with crlf := on }
  | 'u' => some { flags with unicode := on }
  | 'U' => some flags
  | _ => none

/-- The other case of the ASCII letter `n`. -/
def asciiVariants (n : Nat) : List Nat :=
  if 0x41 ≤ n && n ≤ 0x5A then [n + 0x20]
  else if 0x61 ≤ n && n ≤ 0x7A then [n - 0x20]
  else []

/-- The set `s` with the other cases of its members, where the flag `anyCase` asks for them. -/
def fold (flags : Flags) (s : CharSet) : CharSet :=
  if flags.anyCase then
    .folded (if flags.unicode then Unicode.caseVariants else asciiVariants) s
  else s

/-- The pattern of the set `s`.  Without the flag `unicode` it is refused unless all its members are
ASCII, since it could match a part of a character. -/
def class? (flags : Flags) (s : CharSet) : Option Pattern :=
  if flags.unicode then some (.one s)
  else if (List.range 0x80).any fun i ↦ s.has (0x80 + i) then none
  else some (.one (.inter s (.range 0 0x7F)))

/-- The pattern of the character `c`, which without the flag `unicode` has other cases only in
ASCII. -/
def literal (flags : Flags) (c : Char) : Pattern :=
  if flags.unicode || c.toNat < 0x80 then .one (flags.fold (.one c.toNat))
  else .one (.one c.toNat)

/-- The pattern of the dot, which with the flag `dotAll` stands for every character. -/
def dot? (flags : Flags) : Option Pattern :=
  let ends : CharSet :=
    if flags.dotAll then .none
    else if flags.crlf then .union (.one 0x0A) (.one 0x0D)
    else .one 0x0A
  flags.class? (.compl ends)

/-- The characters of words, `\w` in patterns. -/
def word (flags : Flags) : CharSet :=
  if flags.unicode then .word
  else .unions [.range 0x30 0x39, .range 0x41 0x5A, .one 0x5F, .range 0x61 0x7A]

/-- The set of a short class: digits (`d`), blanks (`s`) or characters of words (`w`). -/
def shortClass? (flags : Flags) (letter : Char) : Option CharSet :=
  let blank : CharSet :=
    if flags.unicode then .blank else .union (.range 0x09 0x0D) (.one 0x20)
  let digit : CharSet := if flags.unicode then .digit else .range 0x30 0x39
  match letter with
  | 'd' => some digit
  | 'D' => some (.compl digit)
  | 's' => some blank
  | 'S' => some (.compl blank)
  | 'w' => some flags.word
  | 'W' => some (.compl flags.word)
  | _ => none

/-- The assertion of the two line anchors, the one at the start if `atStart` holds. -/
def anchor (flags : Flags) (atStart : Bool) : Assertion :=
  match flags.multiLine, flags.crlf, atStart with
  | false, _, true => .textStart
  | false, _, false => .textEnd
  | true, false, true => .lineStart
  | true, false, false => .lineEnd
  | true, true, true => .crlfStart
  | true, true, false => .crlfEnd

end Flags

/-- The ASCII class of a name, such as `alpha`. -/
def asciiClass? (name : List Char) : Option CharSet :=
  let digit : CharSet := .range 0x30 0x39
  let upper : CharSet := .range 0x41 0x5A
  let lower : CharSet := .range 0x61 0x7A
  match String.ofList name with
  | "alnum" => some (.unions [digit, upper, lower])
  | "alpha" => some (.unions [upper, lower])
  | "ascii" => some (.range 0 0x7F)
  | "blank" => some (.unions [.one 0x09, .one 0x20])
  | "cntrl" => some (.unions [.range 0 0x1F, .one 0x7F])
  | "digit" => some digit
  | "graph" => some (.range 0x21 0x7E)
  | "lower" => some lower
  | "print" => some (.range 0x20 0x7E)
  | "punct" =>
    some (.unions [.range 0x21 0x2F, .range 0x3A 0x40, .range 0x5B 0x60, .range 0x7B 0x7E])
  | "space" => some (.unions [.range 0x09 0x0D, .one 0x20])
  | "upper" => some upper
  | "word" => some (.unions [digit, upper, .one 0x5F, lower])
  | "xdigit" => some (.unions [digit, .range 0x41 0x46, .range 0x61 0x66])
  | _ => none

end AssessmentItem.Pattern
