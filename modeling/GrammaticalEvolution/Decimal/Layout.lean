import GrammaticalEvolution.Decimal.Shortest

/-!
# Written forms of binary64 numbers

A layout lists the decisions that one written form makes about the shortest
digits: where it turns to an exponent, whether an integral number keeps a
point, and how it spells what is no number.  A fixed count of decimal places is
a form of its own, rounded from the exact value.
-/

namespace GrammaticalEvolution.Decimal

/-- The decisions of one written form. -/
structure Layout where
  /-- Which of two equally near digit strings is taken. -/
  tie : Tie
  /-- Powers of ten of the first digit that are written without exponent. -/
  positional : Int → Bool
  /-- Whether an integral number written without exponent ends in `.0`. -/
  integralPoint : Bool
  /-- Whether a positive exponent carries its sign. -/
  exponentPlus : Bool
  /-- Texts of what is no number and of the infinities. -/
  nan : String
  infinite : String
  negativeInfinite : String

/-- The form shown to readers: never an exponent, no point without need. -/
def Layout.plain : Layout :=
  { tie := .up
    positional := fun _ => true
    integralPoint := false
    exponentPlus := false
    nan := "NaN"
    infinite := "inf"
    negativeInfinite := "-inf" }

/-- The form used in structural descriptions: always a point or an exponent. -/
def Layout.described : Layout :=
  { tie := .up
    positional := fun power => -4 ≤ power && power ≤ 15
    integralPoint := true
    exponentPlus := false
    nan := "NaN"
    infinite := "inf"
    negativeInfinite := "-inf" }

/-- The form used in JSON texts, which have no infinities. -/
def Layout.json : Layout :=
  { tie := .even
    positional := fun power => -5 ≤ power && power ≤ 15
    integralPoint := true
    exponentPlus := true
    nan := "null"
    infinite := "null"
    negativeInfinite := "null" }

def Layout.settings : Layout :=
  { tie := .up
    positional := fun _ => true
    integralPoint := true
    exponentPlus := false
    nan := "nan"
    infinite := "inf"
    negativeInfinite := "-inf" }

def digitChar (digit : Nat) : Char :=
  Char.ofNat (48 + digit)

def digitChars (digits : List Nat) : List Char :=
  digits.map digitChar

def naturalChars (number : Nat) : List Char :=
  if number = 0 then ['0'] else digitChars (digitsOf number)

def integerChars (number : Int) : List Char :=
  if number < 0 then '-' :: naturalChars number.natAbs
  else naturalChars number.natAbs

def positionalChars (integralPoint : Bool) (number : Digits) : List Char :=
  if number.exponent < 0 then
    '0' :: '.' ::
      (List.replicate (-number.exponent - 1).toNat '0' ++
        digitChars number.digits)
  else
    let width := number.exponent.toNat + 1
    let whole := digitChars (number.digits.take width) ++
      List.replicate (width - number.digits.length) '0'
    match number.digits.drop width with
    | [] => if integralPoint then whole ++ ['.', '0'] else whole
    | places => whole ++ '.' :: digitChars places

/-- Digits written with one digit before the point and an exponent. -/
def exponentialChars (exponentPlus : Bool) (number : Digits) : List Char :=
  let exponent := integerChars number.exponent
  let signed :=
    if exponentPlus && decide (0 ≤ number.exponent) then '+' :: exponent
    else exponent
  digitChars (number.digits.take 1) ++
    (match number.digits.drop 1 with
    | [] => []
    | places => '.' :: digitChars places) ++ 'e' :: signed

/-- The digits of a nonnegative number under a layout. -/
def Layout.magnitude (layout : Layout) (mantissa : Nat) (exponent : Int) :
    List Char :=
  if mantissa = 0 then
    if layout.integralPoint then ['0', '.', '0'] else ['0']
  else
    let number := shortest layout.tie mantissa exponent
    if layout.positional number.exponent then
      positionalChars layout.integralPoint number
    else exponentialChars layout.exponentPlus number

def Layout.chars (layout : Layout) (number : Float) : List Char :=
  match Scaled.ofFloat number with
  | .nan => layout.nan.toList
  | .infinite negative =>
      (if negative then layout.negativeInfinite else layout.infinite).toList
  | .finite negative mantissa exponent =>
      let magnitude := layout.magnitude mantissa exponent
      if negative then '-' :: magnitude else magnitude

def Layout.write (layout : Layout) (number : Float) : String :=
  String.ofList (layout.chars number)

/-- A number with a fixed count of decimal places, rounded from its exact
value with a half going to the even neighbour.  A negative number keeps its
sign when it rounds to zero. -/
def writePlaces (places : Nat) (number : Float) : String :=
  match Scaled.ofFloat number with
  | .nan => "NaN"
  | .infinite negative => if negative then "-inf" else "inf"
  | .finite negative mantissa exponent =>
      let unit := powerOfTen places
      let rounded := roundEven (scaleNumerator mantissa exponent * unit)
        (scaleDenominator exponent)
      let fraction := naturalChars (rounded % unit)
      let padded := List.replicate (places - fraction.length) '0' ++ fraction
      let magnitude := naturalChars (rounded / unit) ++ '.' :: padded
      String.ofList (if negative then '-' :: magnitude else magnitude)

end GrammaticalEvolution.Decimal
