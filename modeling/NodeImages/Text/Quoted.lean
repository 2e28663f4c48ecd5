import NodeImages.Text.GraphemeExtend
import NodeImages.Text.Printable

/-!
# Quoted text

Text in double quotes, as it is shown inside diagnostics: what prints stands for itself, and every
other character is escaped.

* the quote, the backslash, NUL and the three common controls have a short escape;
* a character that extends a grapheme, or that does not print, is written by its code point.
-/

namespace NodeImages.Text

/-- The lower case hexadecimal digits of a number, without leading zeros. -/
def hex (n : Nat) : String :=
  String.ofList (Nat.toDigits 16 n)

/-- How one character is written between quotes. -/
def quotedChar (c : Char) : String :=
  match c with
  | '\x00' => "\\0"
  | '\t' => "\\t"
  | '\r' => "\\r"
  | '\n' => "\\n"
  | '"' => "\\\""
  | '\\' => "\\\\"
  | c => if extendsGrapheme c || !isPrintable c then "\\u\x7b" ++ hex c.toNat ++ "\x7d" else c.toString

/-- The text in double quotes, every character written by `quotedChar`. -/
def quoted (text : String) : String :=
  "\"" ++ String.join (text.toList.map quotedChar) ++ "\""

end NodeImages.Text
