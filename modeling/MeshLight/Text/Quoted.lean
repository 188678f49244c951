import MeshLight.Text.Visible

/-!
Quoting of text that came from outside, so that it can be shown on one line of a log: the text stands
between double quotes, and a character that would be lost or misread is written as an escape.
-/

namespace MeshLight.Quoted

/-- The characters with a short escape, each with the letter that follows the backslash. -/
def shortEscapes : List (Char × Char) :=
  [('\x00', '0'), ('\t', 't'), ('\n', 'n'), ('\r', 'r'), ('\x22', '\x22'), ('\x5c', '\x5c')]

/-- How a character is written between the quotes. Invisible characters without a short escape are
written by their code point. -/
def escape (character : Char) : List Char :=
  match shortEscapes.lookup character with
  | some letter => ['\x5c', letter]
  | none =>
      if Visible.isVisible character then [character]
      else ['\x5c', 'u', '\x7b'] ++ Nat.toDigits 16 character.toNat ++ ['\x7d']

/-- The text between double quotes. -/
def quote (text : String) : String :=
  String.ofList ('\x22' :: text.toList.flatMap escape ++ ['\x22'])

end MeshLight.Quoted
