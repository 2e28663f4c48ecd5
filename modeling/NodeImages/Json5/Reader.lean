import NodeImages.Integer
import NodeImages.Json.Basic
import NodeImages.Text.Identifier

/-!
# Relaxed JSON texts

The format of configuration files: JSON with comments, trailing commas, names without quotes, single
quotes, more kinds of numbers and more kinds of blanks.

A text that does not follow the grammar has no value. Within the grammar there are numbers and escapes
that cannot be represented; they stand in the value as unreadable, since they only matter when they are
looked at.
-/

namespace NodeImages.Json5

/-- Whether a character ends a line. -/
def isLineEnd (c : Char) : Bool :=
  c == '\n' || c == '\r' || c.val == 0x2028 || c.val == 0x2029

/-- Whether a character separates tokens. -/
def isSpace (c : Char) : Bool :=
  isLineEnd c || c == '\t' || c.val == 0xb || c.val == 0xc || c == ' ' || c.val == 0xa0 ||
    c.val == 0xfeff || c.val == 0x1680 || (0x2000 ≤ c.val && c.val ≤ 0x200a) || c.val == 0x202f ||
    c.val == 0x205f || c.val == 0x3000

/-- What follows a comment that has been opened, if it is closed. -/
def afterComment? : List Char → Option (List Char)
  | [] => none
  | '*' :: '/' :: rest => some rest
  | _ :: rest => afterComment? rest

/-- What follows the blanks and comments at the front. -/
def skip (fuel : Nat) (text : List Char) : List Char :=
  match fuel, text with
  | 0, text => text
  | _, [] => []
  | fuel + 1, '/' :: '/' :: rest => skip fuel (rest.dropWhile fun c => !isLineEnd c)
  | fuel + 1, '/' :: '*' :: rest =>
    match afterComment? rest with
    | some rest => skip fuel rest
    | none => '/' :: '*' :: rest
  | fuel + 1, c :: rest => if isSpace c then skip fuel rest else c :: rest

/-- What follows the blanks and comments at the front. -/
def skipBlanks (text : List Char) : List Char :=
  skip text.length text

/-- The value of a hexadecimal digit. -/
def hexDigit? (c : Char) : Option Nat :=
  if '0' ≤ c ∧ c ≤ '9' then some (c.toNat - '0'.toNat)
  else if 'a' ≤ c ∧ c ≤ 'f' then some (c.toNat - 'a'.toNat + 10)
  else if 'A' ≤ c ∧ c ≤ 'F' then some (c.toNat - 'A'.toNat + 10)
  else none

/-- The value of a row of hexadecimal digits. -/
def hexValue? (digits : List Char) : Option Nat :=
  digits.foldlM (fun n c => (hexDigit? c).map (n * 16 + ·)) 0

/-- A part of a string: characters, or an escape that no character answers to. -/
abbrev Piece := Except String (List Char)

/-- The reason for which half a surrogate pair is refused. -/
def halfPair : String := "error parsing hex prefix"

/-- The character of a code point. -/
def charOf (n : Nat) : Piece :=
  if n.isValidChar then .ok [Char.ofNat n] else .error halfPair

/-- The part that an escape stands for, and what follows it. -/
def escape? : List Char → Option (Piece × List Char)
  | [] => none
  | 'x' :: a :: b :: rest => (hexValue? [a, b]).map fun n => (charOf n, rest)
  | 'u' :: a :: b :: c :: d :: rest => (hexValue? [a, b, c, d]).map fun n => (charOf n, rest)
  | '\r' :: '\n' :: rest => some (.ok [], rest)
  | c :: rest =>
    if isLineEnd c then some (.ok [], rest)
    else if c = '0' then some (.ok ['\x00'], rest)
    else if c.isDigit ∨ c = 'x' ∨ c = 'u' then none
    else
      let plain :=
        match c with
        | 'b' => '\x08'
        | 'f' => '\x0c'
        | 'n' => '\n'
        | 'r' => '\r'
        | 't' => '\t'
        | 'v' => '\x0b'
        | c => c
      some (.ok [plain], rest)

/-- Adds a part to the parts before it. The characters stand in reverse, the last one first. -/
def Piece.push (done piece : Piece) : Piece :=
  done.bind fun before => piece.map fun text => text.reverseAux before

/-- The characters of the parts that have been added, in their order. -/
def Piece.inOrder (done : Piece) : Piece := done.map List.reverse

/-- The rest of a string after its opening quote: its text and what follows it. What has been read so far
    stands in reverse. -/
def string? (quote : Char) (fuel : Nat) (text : List Char) (done : Piece) :
    Option (Piece × List Char) :=
  match fuel, text with
  | 0, _ | _, [] => none
  | fuel + 1, '\\' :: rest => do
    let (piece, rest) ← escape? rest
    string? quote fuel rest (done.push piece)
  | fuel + 1, c :: rest =>
    if c = quote then some (done.inOrder, rest)
    else if isLineEnd c then none
    else string? quote fuel rest (done.push (.ok [c]))

/-- An identifier and what follows it. What has been read so far stands in reverse. -/
def identifier? (fuel : Nat) (text : List Char) (done : Option Piece) : Option (Piece × List Char) :=
  let complete (text : List Char) := done.map fun piece => (piece.inOrder, text)
  match fuel, text with
  | 0, text => complete text
  | _, [] => complete []
  | fuel + 1, '\\' :: 'u' :: a :: b :: c :: d :: rest =>
    match hexValue? [a, b, c, d] with
    | some n => identifier? fuel rest (some ((done.getD (.ok [])).push (charOf n)))
    | none => complete text
  | fuel + 1, c :: rest =>
    if (match done with
        | none => Text.isIdentifierStart c
        | some _ => Text.isIdentifierPart c) then
      identifier? fuel rest (some ((done.getD (.ok [])).push (.ok [c])))
    else complete text

/-- An exponent with its mark at the front, if there is one, and what follows it. -/
def exponentPart (text : List Char) : List Char × List Char :=
  match text with
  | mark :: rest =>
    if mark = 'e' ∨ mark = 'E' then
      let (sign, rest') : List Char × List Char :=
        match rest with
        | '+' :: r => (['+'], r)
        | '-' :: r => (['-'], r)
        | r => ([], r)
      let digits := rest'.takeWhile Char.isDigit
      if digits.isEmpty then ([], text)
      else (mark :: sign ++ digits, rest'.dropWhile Char.isDigit)
    else ([], text)
  | [] => ([], [])

/-- The characters of a number without its sign, and what follows them. -/
def numeral? (text : List Char) : Option (List Char × List Char) :=
  let named (word : String) : Option (List Char × List Char) :=
    if word.toList.isPrefixOf text then some (word.toList, text.drop word.length) else none
  let hex : Option (List Char × List Char) :=
    match text with
    | '0' :: x :: rest =>
      let digits := rest.takeWhile fun c => (hexDigit? c).isSome
      if (x = 'x' ∨ x = 'X') ∧ !digits.isEmpty then
        some ('0' :: x :: digits, rest.drop digits.length)
      else none
    | _ => none
  let decimal : Option (List Char × List Char) :=
    let whole : List Char :=
      match text with
      | '0' :: _ => ['0']
      | text => text.takeWhile Char.isDigit
    match text.drop whole.length with
    | '.' :: rest =>
      let places := rest.takeWhile Char.isDigit
      if whole.isEmpty && places.isEmpty then none
      else
        let (power, rest) := exponentPart (rest.drop places.length)
        some (whole ++ '.' :: places ++ power, rest)
    | rest =>
      if whole.isEmpty then none
      else
        let (power, rest) := exponentPart rest
        some (whole ++ power, rest)
  hex <|> decimal <|> named "Infinity" <|> named "NaN"

/-- A decimal number in double precision, rounded to nearest. -/
def decimalFloat (digits : List Char) : Float :=
  let whole := digits.takeWhile Char.isDigit
  let afterWhole := digits.dropWhile Char.isDigit
  let places :=
    match afterWhole with
    | '.' :: rest => rest.takeWhile Char.isDigit
    | _ => []
  let power := (afterWhole.dropWhile fun c => c = '.' ∨ c.isDigit).drop 1
  let exponent : Int :=
    match power with
    | '-' :: ds => -(ds.foldl (fun n d => n * 10 + (d.toNat - '0'.toNat)) 0 : Nat)
    | '+' :: ds | ds => (ds.foldl (fun n d => n * 10 + (d.toNat - '0'.toNat)) 0 : Nat)
  let significand := (whole ++ places).foldl (fun n d => n * 10 + (d.toNat - '0'.toNat)) 0
  -- Beyond these bounds the value is zero or infinite whatever the digits are.
  let bound : Int := 2000 + digits.length
  let shift := max (-bound) (min bound exponent) - places.length
  if significand = 0 then 0.0
  else if 0 ≤ shift then Float.ofScientific significand false shift.toNat
  else Float.ofScientific significand true (-shift).toNat

/-- The value of a number. -/
def numberValue (sign : List Char) (numeral : List Char) : Json :=
  let isHex := match numeral with
    | '0' :: x :: _ => x == 'x' || x == 'X'
    | _ => false
  if isHex && sign.isEmpty then
    match hexValue? (numeral.drop 2) with
    | some n => if n < 4294967296 then .int n else .unreadable false "error parsing hex"
    | none => .unreadable false "error parsing hex"
  else if numeral == "Infinity".toList || numeral == "NaN".toList then
    if sign = ['+'] then .unreadable false "error parsing number: too large"
    else if numeral == "NaN".toList then .float 0x7ff8000000000000
    else .float (if sign.isEmpty then 0x7ff0000000000000 else 0xfff0000000000000)
  else if numeral.contains '.' || numeral.contains 'e' || numeral.contains 'E' then
    if isHex then .unreadable false "error parsing number"
    else
      let value := decimalFloat numeral
      if value.isInf then .unreadable false "error parsing number: too large"
      else .float (if sign = ['-'] then -value else value).toBits
  else
    match IntegerKind.i64.parse (String.ofList (sign ++ numeral)) with
    | .ok n => .int n
    | .error _ => .unreadable false "error parsing integer"

/-- A number and what follows it. -/
def number? (text : List Char) : Option (Json × List Char) :=
  let (sign, rest) : List Char × List Char :=
    match text with
    | '+' :: r => (['+'], r)
    | '-' :: r => (['-'], r)
    | r => ([], r)
  (numeral? rest).map fun (numeral, rest) => (numberValue sign numeral, rest)

/-- A string value, unless an escape in it stands for no character. -/
def stringValue (piece : Piece) : Json :=
  match piece with
  | .ok text => .str (String.ofList text)
  | .error reason => .unreadable true reason

mutual

/-- A value at the front of a text, and what follows it. -/
def value? (fuel : Nat) (text : List Char) : Option (Json × List Char) :=
  match fuel with
  | 0 => none
  | fuel + 1 =>
    let word (letters : String) (value : Json) : Option (Json × List Char) :=
      if letters.toList.isPrefixOf text then some (value, text.drop letters.length) else none
    match text with
    | '"' :: rest => (string? '"' (rest.length + 1) rest (.ok [])).map fun (p, r) => (stringValue p, r)
    | '\x27' :: rest =>
      (string? '\x27' (rest.length + 1) rest (.ok [])).map fun (p, r) => (stringValue p, r)
    | '\x7b' :: rest =>
      match skipBlanks rest with
      | '\x7d' :: rest => some (.obj [], rest)
      | rest => members? fuel rest [] none
    | '[' :: rest =>
      match skipBlanks rest with
      | ']' :: rest => some (.arr [], rest)
      | rest => items? fuel rest []
    | text =>
      word "null" .null <|> word "true" (.bool true) <|> word "false" (.bool false) <|> number? text

/-- The items of an array and what follows its end. -/
def items? (fuel : Nat) (text : List Char) (done : List Json) : Option (Json × List Char) :=
  match fuel with
  | 0 => none
  | fuel + 1 => do
    let (value, rest) ← value? fuel text
    let done := value :: done
    match skipBlanks rest with
    | ']' :: rest => return (.arr done.reverse, rest)
    | ',' :: rest =>
      match skipBlanks rest with
      | ']' :: rest => return (.arr done.reverse, rest)
      | rest => items? fuel rest done
    | _ => none

/-- The members of an object and what follows its end. Of an object with a name that cannot be represented the
    members before that name are kept, together with what is wrong with it. -/
def members? (fuel : Nat) (text : List Char) (done : List (String × Json)) (fault : Option String) :
    Option (Json × List Char) :=
  match fuel with
  | 0 => none
  | fuel + 1 => do
    let (name, rest) ←
      match text with
      | '"' :: rest => string? '"' (rest.length + 1) rest (.ok [])
      | '\x27' :: rest => string? '\x27' (rest.length + 1) rest (.ok [])
      | text => identifier? (text.length + 1) text none
    match skipBlanks rest with
    | ':' :: rest =>
      let (value, rest) ← value? fuel (skipBlanks rest)
      let (done, fault) : List (String × Json) × Option String :=
        match name, fault with
        | .ok name, none => ((String.ofList name, value) :: done, none)
        | .error reason, none => (done, some reason)
        | _, some reason => (done, some reason)
      let complete := match fault with
        | none => Json.obj done.reverse
        | some reason => .torn done.reverse reason
      match skipBlanks rest with
      | '\x7d' :: rest => return (complete, rest)
      | ',' :: rest =>
        match skipBlanks rest with
        | '\x7d' :: rest => return (complete, rest)
        | rest => members? fuel rest done fault
      | _ => none
    | _ => none

end

/-- The value of a text, if the text follows the grammar. -/
def read? (text : String) : Option Json := do
  let chars := text.toList
  let (value, rest) ← value? (2 * chars.length + 2) (skipBlanks chars)
  if (skipBlanks rest).isEmpty then some value else none

end NodeImages.Json5
