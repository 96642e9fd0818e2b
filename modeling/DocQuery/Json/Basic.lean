import DocQuery.Double.Decimal
import DocQuery.Text.Digits

/-! # JSON trees

A JSON text as a tree.  Objects are ordered lists of pairs and may repeat a name.
Integers and doubles are kept apart: `int` holds what a text writes without point
or exponent, `double` all other numbers.

A text can be well formed where it has no value, such as `1e999`.  The tree keeps that
place as `unusable`: whoever wants the value there refuses it, and whoever passes over
the place never learns of it.

`render` writes a tree without blanks.  Arrays and objects are written as a first
element followed by a *tail*, which is either a comma and more or the closing
bracket; the reader (`Json.Reader`) takes texts apart the same way. -/
namespace DocQuery

/-- A JSON value. -/
inductive Json where
  | null
  | bool (b : Bool)
  | int (n : Int)
  | double (d : Double)
  | str (s : String)
  | arr (items : List Json)
  | obj (pairs : List (String × Json))
  /-- Well formed, but no value: a number beyond the doubles, a string with half a
  surrogate pair, an object with such a name, or too many brackets open at once. -/
  | unusable
  deriving Inhabited

namespace Json

mutual
/-- Whether a tree has a value everywhere. -/
def isUsable : Json → Bool
  | .unusable => false
  | .arr items => itemsUsable items
  | .obj pairs => pairsUsable pairs
  | _ => true

def itemsUsable : List Json → Bool
  | [] => true
  | j :: js => j.isUsable && itemsUsable js

def pairsUsable : List (String × Json) → Bool
  | [] => true
  | (_, j) :: ps => j.isUsable && pairsUsable ps
end

/-! ### Nesting -/

mutual
/-- How many arrays and objects are open at once at the deepest place. -/
def depth : Json → Nat
  | .arr items => itemsDepth items + 1
  | .obj pairs => pairsDepth pairs + 1
  | _ => 0

def itemsDepth : List Json → Nat
  | [] => 0
  | j :: js => max j.depth (itemsDepth js)

def pairsDepth : List (String × Json) → Nat
  | [] => 0
  | (_, j) :: ps => max j.depth (pairsDepth ps)
end

/-! ### Writing -/

/-- The escape of a control character: a short one if there is one, otherwise its code
in four digits. -/
def control (c : Char) : List Char :=
  if c = '\x08' then ['\\', 'b']
  else if c = '\t' then ['\\', 't']
  else if c = '\n' then ['\\', 'n']
  else if c = '\x0c' then ['\\', 'f']
  else if c = '\r' then ['\\', 'r']
  else ['\\', 'u', '0', '0', Nat.digitChar (c.toNat / 16), Nat.digitChar (c.toNat % 16)]

/-- One character inside quotes; only quotes, backslashes and controls are escaped. -/
def escape (c : Char) : List Char :=
  if c = '"' then ['\\', '"']
  else if c = '\\' then ['\\', '\\']
  else if c.toNat < 0x20 then control c
  else [c]

/-- A string in quotes. -/
def quote (s : String) : List Char := '"' :: (s.toList.flatMap escape ++ ['"'])

/-- Doubles are positional from `0.00001` to below `1e+16`; other exponents have a
sign. -/
def numberLayout : Double.Layout := ⟨-5, 16, true, .toEven⟩

/-- A double as a JSON number; what JSON cannot write is `null`. -/
def renderDouble (d : Double) : List Char :=
  if d.isFinite then d.layOut numberLayout else ['n', 'u', 'l', 'l']

mutual
/-- The text of a tree, without blanks.  What has no value is `null`. -/
def render : Json → List Char
  | .null => ['n', 'u', 'l', 'l']
  | .unusable => ['n', 'u', 'l', 'l']
  | .bool true => ['t', 'r', 'u', 'e']
  | .bool false => ['f', 'a', 'l', 's', 'e']
  | .int n => Digits.signed n
  | .double d => renderDouble d
  | .str s => quote s
  | .arr [] => ['[', ']']
  | .arr (j :: js) => '[' :: (j.render ++ renderItems js)
  | .obj [] => ['{', '}']
  | .obj ((k, j) :: ps) => '{' :: (quote k ++ ':' :: (j.render ++ renderPairs ps))

/-- The rest of an array after an element. -/
def renderItems : List Json → List Char
  | [] => [']']
  | j :: js => ',' :: (j.render ++ renderItems js)

/-- The rest of an object after a pair. -/
def renderPairs : List (String × Json) → List Char
  | [] => ['}']
  | (k, j) :: ps => ',' :: (quote k ++ ':' :: (j.render ++ renderPairs ps))
end

/-- The text of a tree as a string. -/
def text (j : Json) : String := String.ofList j.render

example : (obj [("a", .int 1), ("b", .arr [.null, .bool true])]).text =
    r#"{"a":1,"b":[null,true]}"# := by decide +kernel
example : (arr [.obj [], .arr [.arr []]]).depth = 3 := by decide

end Json
end DocQuery
