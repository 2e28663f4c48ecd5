import NodeImages.Decimal.Shortest
import NodeImages.Json.Basic
import NodeImages.Text.Quoted

/-!
# JSON texts, written

A value on one line, without blanks. Text is written as it is but for the quote, the backslash and the
control characters below the space.
-/

namespace NodeImages.Json

/-- How one character is written in a string. -/
def escapeChar (c : Char) : String :=
  match c with
  | '"' => "\\\""
  | '\\' => "\\\\"
  | '\n' => "\\n"
  | '\r' => "\\r"
  | '\t' => "\\t"
  | '\x08' => "\\b"
  | '\x0c' => "\\f"
  | c =>
    if c.val < 0x20 then
      let digits := Text.hex c.toNat
      "\\u" ++ String.ofList (List.replicate (4 - digits.length) '0') ++ digits
    else c.toString

/-- A string with its quotes. -/
def renderStr (text : String) : String :=
  "\"" ++ String.join (text.toList.map escapeChar) ++ "\""

mutual

/-- The text of a value. -/
def render : Json → String
  | .null | .unreadable _ _ | .torn _ _ => "null"
  | .bool true => "true"
  | .bool false => "false"
  | .int n => toString n
  | .float bits => Decimal.scientific bits
  | .str text => renderStr text
  | .arr items => "[" ++ renderItems items ++ "]"
  | .obj members => "\x7b" ++ renderMembers members ++ "\x7d"

/-- The items of an array, with commas between them. -/
def renderItems : List Json → String
  | [] => ""
  | [item] => render item
  | item :: rest => render item ++ "," ++ renderItems rest

/-- The members of an object, with commas between them. -/
def renderMembers : List (String × Json) → String
  | [] => ""
  | [(name, value)] => renderStr name ++ ":" ++ render value
  | (name, value) :: rest => renderStr name ++ ":" ++ render value ++ "," ++ renderMembers rest

end

end NodeImages.Json
