import ContractToolkit.Decimal.Shortest
import ContractToolkit.Text.Number

/-!
# Layouts of decimal numbers

How the shortest digits of a double are set out as text: positionally without
an exponent, or with an exponent beyond the range in which a data format writes
positions.
-/

namespace ContractToolkit.Double

/-- The sign as text. -/
def signText (d : Double) : List Char := if d.isNegative then ['-'] else []

/-- Digits set out positionally, without a point when they are an integer. -/
def Digits.positional (d : Digits) : List Char :=
  let digits := Text.decimal d.value
  if 0 ≤ d.exponent then
    if d.value = 0 then ['0'] else digits ++ List.replicate d.exponent.toNat '0'
  else
    let places := (-d.exponent).toNat
    if places < digits.length then
      digits.take (digits.length - places) ++ '.' :: digits.drop (digits.length - places)
    else '0' :: '.' :: (List.replicate (places - digits.length) '0' ++ digits)

/-- A double set out positionally, however long that is. -/
def plain (d : Double) : String :=
  if d.isNaN then "NaN"
  else if d.isFinite then String.ofList (d.signText ++ (d.shortest .up).positional)
  else String.ofList (d.signText ++ ['i', 'n', 'f'])

/-- Digits with an exponent: one digit before the point, and a sign on every exponent. -/
def Digits.scientific (d : Digits) : List Char :=
  let digits := Text.decimal d.value
  let exponent : Int := d.exponent + digits.length - 1
  let mantissa := match digits with
    | first :: [] => [first]
    | first :: rest => first :: '.' :: rest
    | [] => []
  mantissa ++ 'e' :: (if exponent < 0 then '-' else '+') :: Text.decimal exponent.natAbs

/-- A finite double in a data format: positional when the point falls at most five places before the
digits and at most sixteen places after their start, and always with a fraction or an exponent. -/
def interchange (d : Double) : String :=
  let digits := d.shortest .toEven
  let point : Int := digits.exponent + (Text.decimal digits.value).length
  let text :=
    if d.isZero then ['0', '.', '0']
    else if -5 < point ∧ point ≤ 16 then
      if 0 ≤ digits.exponent then digits.positional ++ ['.', '0'] else digits.positional
    else digits.scientific
  String.ofList (d.signText ++ text)

/-- A double in a configuration file: positional, with a fraction when it is an integer. -/
def setting (d : Double) : String :=
  if d.isNaN then "nan"
  else if d.isFinite then
    if d.isIntegral then d.plain ++ ".0" else d.plain
  else d.plain

end ContractToolkit.Double
