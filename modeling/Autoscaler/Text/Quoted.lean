import Autoscaler.Text.Number
import Autoscaler.Text.Printable

/-!
# Quoted text

Text between double quotes in which every character is visible: the usual short escapes, and the
code point in braces for what has no visible form.
-/

namespace Autoscaler.Text

/-- A character by its code point in lower-case hexadecimal. -/
def codeEscape (c : Char) : List Char :=
  '\\' :: 'u' :: '\x7b' :: hexDigits c.toNat ++ ['\x7d']

def quoteChar : Char → List Char
  | '\x00' => ['\\', '0']
  | '\t' => ['\\', 't']
  | '\r' => ['\\', 'r']
  | '\n' => ['\\', 'n']
  | '\\' => ['\\', '\\']
  | '"' => ['\\', '"']
  | c => if isPrintable c then [c] else codeEscape c

def quoted (s : String) : String :=
  String.ofList ('"' :: s.toList.flatMap quoteChar ++ ['"'])

def quotedPath (s : String) : String :=
  String.ofList ('"' :: (s.toList.flatMap fun c =>
    if c = '\'' then ['\\', '\''] else quoteChar c) ++ ['"'])

end Autoscaler.Text
