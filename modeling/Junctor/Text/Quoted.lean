import Junctor.Text.Printable

/-!
# Quoted Text

A text is quoted with single quotes, or with double quotes if it holds a single quote and no
double one. A quote of the kind used and a backslash get a backslash before them, and a
character without a visible form is written by its code in two, four or eight hexadecimal
digits.

## Main results

* `quoted`: the quoted form of a text.
-/

namespace Junctor.Text

/-- The hexadecimal digits of `n`, at least `width` of them. -/
def hexadecimal (width n : Nat) : List Char :=
  let digits := Nat.toDigits 16 n
  List.replicate (width - digits.length) '0' ++ digits

/-- A character inside quotes of the kind `quote`. -/
def quotedChar (quote c : Char) : List Char :=
  if c = quote ∨ c = '\\' then ['\\', c]
  else if c = '\n' then ['\\', 'n']
  else if c = '\r' then ['\\', 'r']
  else if c = '\t' then ['\\', 't']
  else if isPrintable c then [c]
  else if c.toNat < 0x100 then '\\' :: 'x' :: hexadecimal 2 c.toNat
  else if c.toNat < 0x10000 then '\\' :: 'u' :: hexadecimal 4 c.toNat
  else '\\' :: 'U' :: hexadecimal 8 c.toNat

/-- The quote for a text: the single one, unless only the double one stands in no need of a
backslash. -/
def quoteFor (cs : List Char) : Char :=
  if cs.contains '\'' && !cs.contains '"' then '"' else '\''

/-- A text in quotes, of a kind that it does not contain if there is one, with everything
escaped that would not be visible. -/
def quoted (s : String) : String :=
  let quote := quoteFor s.toList
  String.ofList (quote :: s.toList.flatMap (quotedChar quote) ++ [quote])

end Junctor.Text
