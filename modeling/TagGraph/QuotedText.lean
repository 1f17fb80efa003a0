import TagGraph.Unicode.Unprintable
import TagGraph.Unicode.GraphemeExtend

/-!
Text between double quotes in which every character can be seen. The usual controls have a letter
after the backslash; whatever else leaves no mark, or would be drawn onto the quote before it, is
written by its code point in braces. A single quote stands for itself.
-/

namespace TagGraph.QuotedText

open Unicode

def hexDigits (code : Nat) : List Char := Nat.toDigits 16 code

def quoteChar (c : Char) : List Char :=
  match c with
  | '\x00' => ['\\', '0']
  | '\t' => ['\\', 't']
  | '\r' => ['\\', 'r']
  | '\n' => ['\\', 'n']
  | '"' => ['\\', '"']
  | '\\' => ['\\', '\\']
  | c =>
    if isUnprintable c || isGraphemeExtend c then
      ['\\', 'u', '\x7b'] ++ hexDigits c.toNat ++ ['\x7d']
    else [c]

def quote (text : String) : String :=
  String.ofList ('"' :: text.toList.flatMap quoteChar ++ ['"'])

end TagGraph.QuotedText
