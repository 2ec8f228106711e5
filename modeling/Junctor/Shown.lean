import Junctor.Text.Blank
import Junctor.Text.Quoted

/-!
# Values As They Are Shown

A shown value is a word, a quoted text, a list, or a node with named fields. It has a form on
one line. A value that is wider than a page is spread over several lines instead: every item
of a list and every field of a node gets a line of its own, and a text is cut between its
words.

A value is laid out at an indentation, with an allowance for what follows it on its last line.

## Main results

* `Shown.line`: the form on one line.
* `Shown.spread`: the form that keeps within the page where it can.
* `Shown.spread_of_length_le`: what fits on one line is not spread.
* `Shown.flatten_piecesOf`: the pieces of a text that is cut are the whole text.
-/

namespace Junctor

/-- A **value to be shown**, of which only the structure is left that matters for its
layout. -/
inductive Shown where
  | word (s : String)
  | text (s : String)
  | list (items : List Shown)
  | node (name : String) (fields : List (String × Shown))

namespace Shown

/-! ### One line -/

mutual

/-- The form on **one line**, however long that gets. -/
def line : Shown → String
  | word s => s
  | text s => Text.quoted s
  | list items => "[" ++ ", ".intercalate (itemLines items) ++ "]"
  | node name fields => name ++ "(" ++ ", ".intercalate (fieldLines fields) ++ ")"

/-- The items of a list on one line each. -/
def itemLines : List Shown → List String
  | [] => []
  | item :: items => line item :: itemLines items

/-- The fields of a node on one line each. -/
def fieldLines : List (String × Shown) → List String
  | [] => []
  | (name, value) :: fields => (name ++ "=" ++ line value) :: fieldLines fields

end

/-! ### Cutting texts -/

/-- Does the character end a line of a text? -/
def endsLine (c : Char) : Bool :=
  ['\n', '\r', '\x0b', '\x0c', '\x1c', '\x1d', '\x1e', '\u0085', '\u2028', '\u2029'].contains c

/-- The lines of a text, each with its end; `begun` is the line read so far, latest first. -/
def linesOf (begun : List Char) : List Char → List (List Char)
  | [] => if begun.isEmpty then [] else [begun.reverse]
  | '\r' :: '\n' :: rest => ('\n' :: '\r' :: begun).reverse :: linesOf [] rest
  | c :: rest =>
    if endsLine c then (c :: begun).reverse :: linesOf [] rest else linesOf (c :: begun) rest

/-- The words of a line, each with the blanks after it; `begun` is the word read so far, latest
first. -/
def wordsOf (begun : List Char) : List Char → List (List Char)
  | [] => if begun.isEmpty then [] else [begun.reverse]
  | c :: rest =>
    match begun with
    | last :: _ =>
      if Text.isBlank last && !Text.isBlank c then begun.reverse :: wordsOf [c] rest
      else wordsOf (c :: begun) rest
    | [] => wordsOf [c] rest

/-- How many characters the quoted form of a text has. -/
def quotedWidth (cs : List Char) : Nat := (Text.quoted (String.ofList cs)).length

/-- The words of a line put together into pieces, each as long as it may be; the last piece has
only the width `lastWidth`. -/
def gather (width lastWidth : Int) (current : List Char) : List (List Char) → List (List Char)
  | [] => if current.isEmpty then [] else [current]
  | next :: rest =>
    if quotedWidth (current ++ next) ≤ (if rest.isEmpty then lastWidth else width) then
      gather width lastWidth (current ++ next) rest
    else if current.isEmpty then gather width lastWidth next rest
    else current :: gather width lastWidth next rest

/-- The pieces of the lines of a text. A line that fits is one piece; the last line leaves room
for the allowance. -/
def piecesOf (width allowance : Int) : List (List Char) → List (List Char)
  | [] => []
  | [cs] =>
    if quotedWidth cs ≤ width - allowance then [cs]
    else gather width (width - allowance) [] (wordsOf [] cs)
  | cs :: rest =>
    (if quotedWidth cs ≤ width then [cs] else gather width width [] (wordsOf [] cs)) ++
      piecesOf width allowance rest

/-- Cutting a text into lines loses nothing. -/
theorem flatten_linesOf (begun cs : List Char) :
    (linesOf begun cs).flatten = begun.reverse ++ cs := by
  fun_induction linesOf begun cs with
  | case1 begun nothing => simp [List.isEmpty_iff.1 nothing]
  | case2 begun something => simp
  | case3 begun rest ih => simp [ih]
  | case4 begun c rest noPair ends ih => simp [ih]
  | case5 begun c rest noPair goesOn ih => simp [ih]

/-- Cutting a line into words loses nothing. -/
theorem flatten_wordsOf (begun cs : List Char) :
    (wordsOf begun cs).flatten = begun.reverse ++ cs := by
  fun_induction wordsOf begun cs with
  | case1 begun nothing => simp [List.isEmpty_iff.1 nothing]
  | case2 begun something => simp
  | case3 c rest last begun ends ih => simp [ih]
  | case4 c rest last begun goesOn ih => simp [ih]
  | case5 c rest ih => simp [ih]

/-- Putting words together loses nothing. -/
theorem flatten_gather (width lastWidth : Int) (current : List Char) (words : List (List Char)) :
    (gather width lastWidth current words).flatten = current ++ words.flatten := by
  induction words generalizing current with
  | nil =>
    rw [gather]
    split
    · next nothing => rw [List.isEmpty_iff.1 nothing]; rfl
    · simp
  | cons next rest ih =>
    rw [gather, List.flatten_cons]
    by_cases fit : quotedWidth (current ++ next) ≤ if rest.isEmpty then lastWidth else width
    · rw [if_pos fit, ih, List.append_assoc]
    · rw [if_neg fit]
      by_cases nothing : current.isEmpty
      · rw [if_pos nothing, ih, List.isEmpty_iff.1 nothing, List.nil_append]
      · rw [if_neg nothing, List.flatten_cons, ih]

/-- The pieces of some lines **are the lines**. -/
theorem flatten_piecesOf (width allowance : Int) (lines : List (List Char)) :
    (piecesOf width allowance lines).flatten = lines.flatten := by
  fun_induction piecesOf width allowance lines with
  | case1 => rfl
  | case2 cs fit => rfl
  | case3 cs wide => simp [flatten_gather, flatten_wordsOf]
  | case4 cs rest more ih =>
    split <;> simp [ih, flatten_gather, flatten_wordsOf]

/-! ### Several lines -/

/-- The width of a page. -/
def pageWidth : Nat := 80

/-- A new line at an indentation. -/
def newLine (indent : Nat) : String := "\n" ++ String.ofList (List.replicate indent ' ')

/-- A text cut into pieces, which are quoted one by one. A text that stands by itself is put in
parentheses. -/
def spreadText (alone : Bool) (indent allowance : Nat) (s : String) : String :=
  let shift := if alone then 1 else 0
  let width : Int := pageWidth - (indent + shift : Nat)
  match piecesOf width (allowance + shift : Nat) (linesOf [] s.toList) with
  | [] => Text.quoted s
  | [piece] => Text.quoted (String.ofList piece)
  | pieces =>
    let body := (newLine (indent + shift)).intercalate
      (pieces.map fun piece => Text.quoted (String.ofList piece))
    if alone then "(" ++ body ++ ")" else body

/-- Does the form on one line fit between an indentation and an allowance? -/
def fits (indent allowance : Nat) (shown : Shown) : Bool :=
  shown.line.length + indent + allowance ≤ pageWidth

mutual

/-- The form at an indentation that leaves room for the allowance; `alone` tells if the value
is part of no other. -/
def layout (alone : Bool) (indent allowance : Nat) : Shown → String
  | word s => s
  | text s =>
    if (text s).fits indent allowance then (text s).line else spreadText alone indent allowance s
  | list items =>
    if (list items).fits indent allowance then (list items).line
    else "[" ++ layoutItems (indent + 1) (allowance + 1) items ++ "]"
  | node name fields =>
    if (node name fields).fits indent allowance then (node name fields).line
    else name ++ "(" ++ layoutFields (indent + name.length + 1) allowance fields ++ ")"

/-- The items of a list, one below the other. -/
def layoutItems (indent allowance : Nat) : List Shown → String
  | [] => ""
  | [item] => layout false indent allowance item
  | item :: items =>
    layout false indent 1 item ++ "," ++ newLine indent ++ layoutItems indent allowance items

/-- The fields of a node, one below the other. -/
def layoutFields (indent allowance : Nat) : List (String × Shown) → String
  | [] => ""
  | [(name, value)] => name ++ "=" ++ layout false (indent + name.length + 1) allowance value
  | (name, value) :: fields =>
    name ++ "=" ++ layout false (indent + name.length + 1) 1 value ++ "," ++ newLine indent ++
      layoutFields indent allowance fields

end

/-- The form that **keeps within the page** where it can, by taking several lines for a value
that is too wide for one. -/
def spread (shown : Shown) : String := shown.layout true 0 0

/-- What **fits on one line** is not spread. -/
theorem spread_of_length_le {shown : Shown} (fit : shown.line.length ≤ pageWidth) :
    shown.spread = shown.line := by
  have within : shown.fits 0 0 = true := by simp [fits, fit]
  cases shown <;> simp [spread, layout, line, within]

end Shown

end Junctor
