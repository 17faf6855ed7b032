import AccessPolicy.Number.Binary64
import AccessPolicy.Text.Blank
import AccessPolicy.Text.Digit

/-! Numbers as text: integers in a base, and decimals. Blanks around a number do not
count, and digits may be of any script. -/

namespace AccessPolicy.Number

def isSpace (c : Char) : Bool := c == ' ' || (9 ≤ c.toNat && c.toNat ≤ 13)

/-- Text beyond ASCII is read with every digit and blank in its ASCII form. -/
def plainText (text : List Char) : List Char :=
  if text.all fun c => c.toNat < 128 then text
  else text.map fun c =>
    if c.toNat < 128 then c
    else if Text.isBlank c then ' '
    else match Text.digit? c with
      | some d => Char.ofNat ('0'.toNat + d)
      | none => '?'

def bare (text : List Char) : List Char :=
  ((((plainText text).dropWhile isSpace).reverse).dropWhile isSpace).reverse

/-- A sign, if there is one, and the rest; the flag tells whether it is a minus. -/
def splitSign : List Char → Bool × List Char
  | '-' :: rest => (true, rest)
  | '+' :: rest => (false, rest)
  | text => (false, text)

def digitValue (c : Char) : Nat :=
  if c.isDigit then c.toNat - '0'.toNat
  else if c.isLower then c.toNat - 'a'.toNat + 10
  else if c.isUpper then c.toNat - 'A'.toNat + 10
  else 36

def ofDigits (base : Nat) (digits : List Char) : Nat :=
  digits.foldl (fun n d => n * base + digitValue d) 0

inductive IntFault where
  | invalid
  | tooLong (digits : Nat)
  deriving DecidableEq, Repr

/-- The greatest number of digits that is read in a base that is no power of two, or that
is written. -/
def digitLimit : Nat := 4300

def longNumberMessage : String :=
  "Exceeds the limit (4300 digits) for integer string conversion; " ++
    "use sys.set_int_max_str_digits() to increase the limit"

def isTooLong (i : Int) : Bool := Nat.pow 10 digitLimit ≤ i.natAbs

def dropBaseMark (base : Nat) : List Char → List Char
  | '0' :: mark :: rest =>
    if (base == 2 && (mark == 'b' || mark == 'B')) || (base == 8 && (mark == 'o' || mark == 'O')) ||
      (base == 16 && (mark == 'x' || mark == 'X')) then rest
    else '0' :: mark :: rest
  | text => text

def readInt (base : Nat) (text : List Char) : Except IntFault Int :=
  let (negative, rest) := splitSign (bare text)
  let rest := dropBaseMark base rest
  let digits := rest.takeWhile fun c => digitValue c < base
  if base == 10 && digitLimit < digits.length then .error (.tooLong digits.length)
  else if digits.isEmpty || digits.length < rest.length then .error .invalid
  else
    let n : Int := ofDigits base digits
    .ok (if negative then -n else n)

/-- A mark, a sign if there is one, and at least one digit; no exponent is zero. -/
def readExponent? : List Char → Option Int
  | [] => some 0
  | mark :: rest =>
    if mark == 'e' || mark == 'E' then
      let (below, digits) := splitSign rest
      if digits.isEmpty || digits.any (!·.isDigit) then none
      else
        let n : Int := ofDigits 10 digits
        some (if below then -n else n)
    else none

/-- Digits, a point with digits, at least one digit in all, and an exponent. -/
def readDecimal? (negative : Bool) (text : List Char) : Option Binary64 :=
  let whole := text.takeWhile Char.isDigit
  let rest := text.drop whole.length
  let (fraction, rest) := match rest with
    | '.' :: rest => (rest.takeWhile Char.isDigit, rest.dropWhile Char.isDigit)
    | _ => ([], rest)
  if whole.isEmpty && fraction.isEmpty then none
  else (readExponent? rest).map fun exponent =>
    Binary64.ofDecimal negative (ofDigits 10 (whole ++ fraction)) (exponent - fraction.length)

/-- A decimal, an infinity or no number, in words that ignore case. -/
def readFloat? (text : List Char) : Option Binary64 :=
  let (negative, rest) := splitSign (bare text)
  let word := String.ofList (rest.map Char.toLower)
  if word == "inf" || word == "infinity" then some (.infinite negative)
  else if word == "nan" then some (.nan 0)
  else readDecimal? negative rest

end AccessPolicy.Number
