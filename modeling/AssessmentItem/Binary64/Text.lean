import AssessmentItem.Binary64.Shortest

/-!
# Texts of floating-point numbers

A number is written with its shortest digits.  There are three forms: the plain form, which is
never scientific; the literal form of assessment items, which spells the infinities `INF` and
`-INF`; and the form of JSON numbers, which has a point or an exponent and turns scientific
outside `10 ^ -5` to `10 ^ 16`.

## Main definitions

* `Binary64.plainText` : the plain form, with `inf`, `-inf` and `NaN`.
* `Binary64.literalText` : the form of item literals.
* `Binary64.jsonText` : the form of a finite JSON number.
-/

namespace AssessmentItem.Binary64

/-- The decimal digits of `n`, at least one. -/
def digitChars (n : Nat) : List Char := Nat.toDigits 10 n

/-- The digits with the point at its place; `whole` is what a number without digits after the
point gets behind it. -/
def Digits.positional (d : Digits) (whole : List Char) : List Char :=
  let chars := digitChars d.digits
  match d.exponent with
  | .ofNat k => chars ++ List.replicate k '0' ++ whole
  | .negSucc k =>
    let places := k + 1
    if places < chars.length then
      chars.take (chars.length - places) ++ '.' :: chars.drop (chars.length - places)
    else '0' :: '.' :: List.replicate (places - chars.length) '0' ++ chars

/-- The decimal exponent of the first digit: `0` from one to below ten. -/
def Digits.leading (d : Digits) : Int := (digitChars d.digits).length - 1 + d.exponent

/-- The digits in scientific notation, the exponent with a sign. -/
def Digits.scientific (d : Digits) : List Char :=
  let mantissa :=
    match digitChars d.digits with
    | first :: second :: rest => first :: '.' :: second :: rest
    | chars => chars
  let k := d.leading
  mantissa ++ 'e' :: (if k < 0 then '-' else '+') :: digitChars k.natAbs

/-- Puts a minus sign in front of `chars` if `negative` holds. -/
def withSign (negative : Bool) (chars : List Char) : List Char :=
  if negative then '-' :: chars else chars

/-- The plain form, with the spelling `infinity`. -/
def plainWith (infinity : String) (x : Float) : String :=
  match parts? x with
  | some p =>
    String.ofList (withSign p.negative ((shortest p.significand p.exponent).positional []))
  | none => if x.isNaN then "NaN" else if x < 0 then "-" ++ infinity else infinity

/-- The plain form: the shortest digits without an exponent, and `inf` for infinity. -/
def plainText (x : Float) : String := plainWith "inf" x

/-- The form of item literals, which spells infinity `INF`. -/
def literalText (x : Float) : String := plainWith "INF" x

/-- The form of a JSON number, scientific below `10 ^ -5` and from `10 ^ 16` on.  Infinities and NaN
have no such form; they get the `literalText`. -/
def jsonText (x : Float) : String :=
  match parts? x with
  | some p =>
    let d := shortest p.significand p.exponent
    let chars :=
      if -5 ≤ d.leading ∧ d.leading < 16 then d.positional ['.', '0'] else d.scientific
    String.ofList (withSign p.negative chars)
  | none => literalText x

end AssessmentItem.Binary64
