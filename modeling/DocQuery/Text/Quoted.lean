import DocQuery.Text.Printable

/-! # Quoted text

A text between double quotes, as diagnostics show it: quotes, backslashes and the
common controls have short escapes, every other hidden character (`Printable`) is
given by its code point, and all else stands for itself.  A quoted text therefore
never holds a line break. -/
namespace DocQuery.Quoted

/-- How one character is shown between quotes. -/
def escape (c : Char) : List Char :=
  if c = '\x00' then ['\\', '0']
  else if c = '\t' then ['\\', 't']
  else if c = '\n' then ['\\', 'n']
  else if c = '\r' then ['\\', 'r']
  else if c = '"' then ['\\', '"']
  else if c = '\\' then ['\\', '\\']
  else if Printable.isPrintable c then [c]
  else '\\' :: 'u' :: '{' :: Nat.toDigits 16 c.toNat ++ ['}']

/-- A text between double quotes. -/
def quote (s : String) : String :=
  String.ofList ('"' :: s.toList.flatMap escape ++ ['"'])

example : quote "it's \"so\"\n" = "\"it's \\\"so\\\"\\n\"" := by decide +kernel

end DocQuery.Quoted
