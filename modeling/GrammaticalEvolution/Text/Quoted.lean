import GrammaticalEvolution.Decimal.Layout
import GrammaticalEvolution.Text.Glyph
import GrammaticalEvolution.Text.Hex

/-!
# Quoted texts

A quoted text stands between quotation marks and shows every character that
has no glyph of its own by an escape, so that it reads the same everywhere.
-/

namespace GrammaticalEvolution.Text

/-- The escape of a code point: its hexadecimal number in braces. -/
def escapeCode (char : Char) : List Char :=
  "\\u\x7b".toList ++ hexChars char.toNat ++ "\x7d".toList

def quoteChar (char : Char) : List Char :=
  match char with
  | '"' => ['\\', '"']
  | '\\' => ['\\', '\\']
  | '\n' => ['\\', 'n']
  | '\r' => ['\\', 'r']
  | '\t' => ['\\', 't']
  | '\x00' => ['\\', '0']
  | char => if isShown char then [char] else escapeCode char

def quoted (text : String) : String :=
  String.ofList ('"' :: (text.toList.flatMap quoteChar ++ ['"']))

/-- Texts in brackets with a comma between them. -/
def bracketed (texts : List String) : String :=
  "[" ++ String.intercalate ", " texts ++ "]"

end GrammaticalEvolution.Text
