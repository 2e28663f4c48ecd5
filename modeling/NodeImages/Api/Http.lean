import NodeImages.Api.Fault
import NodeImages.Json.Printer
import NodeImages.Text.Cut
import NodeImages.Text.Lossy

/-!
# Requests and their answers

The cluster is talked to over HTTP. A request has a path and a query, and perhaps a body (`Request`); an
answer has a status and a text (`Response`). An answer with a status from 400 to 599 is a refusal
(`Response.check`): its text says why, or else the refusal is made up from what there is.
-/

namespace NodeImages.Api

/-- What a request asks to be done. -/
inductive Method
  | get
  | post
  | delete
  | patch
  deriving DecidableEq, Repr

/-- The name of a method. -/
def Method.name : Method → String
  | get => "GET"
  | post => "POST"
  | delete => "DELETE"
  | patch => "PATCH"

/-- A request to the cluster. -/
structure Request where
  method : Method
  path : String
  query : List (String × String) := []
  contentType : Option String := none
  body : Option Json := none
  deriving Repr

/-- An answer of the cluster. -/
structure Response where
  status : Nat
  text : String
  deriving DecidableEq, Repr

/-! ## Addresses -/

/-- Whether a character may stand in a path. Some that had better be escaped are let through, and so is
    everything beyond ASCII. -/
def isPathChar (c : Char) : Bool :=
  c.val == 0x21 || (0x24 ≤ c.val && c.val ≤ 0x3b) || c.val == 0x3d ||
    (0x40 ≤ c.val && c.val ≤ 0x5f) || (0x61 ≤ c.val && c.val ≤ 0x7a) || c.val == 0x7c ||
    c.val == 0x7e || 0x80 ≤ c.val || c == '"' || c == '\x7b' || c == '\x7d'

/-- Whether a character may stand in a query. -/
def isQueryChar (c : Char) : Bool :=
  c.val == 0x21 || (0x24 ≤ c.val && c.val ≤ 0x3b) || c.val == 0x3d || (0x3f ≤ c.val && c.val != 0x7f)

/-- The value of a hexadecimal digit. -/
def hexDigit? (c : Char) : Option Nat :=
  if c.isDigit then some (c.toNat - '0'.toNat)
  else if 'a' ≤ c ∧ c ≤ 'f' then some (c.toNat - 'a'.toNat + 10)
  else if 'A' ≤ c ∧ c ≤ 'F' then some (c.toNat - 'A'.toNat + 10)
  else none

/-- The bytes of a part of a query: a plus stands for a space, and `%` with two digits for a byte. -/
def unescape : List Char → List UInt8
  | [] => []
  | '+' :: rest => 0x20 :: unescape rest
  | '%' :: a :: b :: rest =>
    match hexDigit? a, hexDigit? b with
    | some high, some low => UInt8.ofNat (16 * high + low) :: unescape rest
    | _, _ => '%'.val.toUInt8 :: unescape (a :: b :: rest)
  | c :: rest => (String.singleton c).toUTF8.toList ++ unescape rest
  termination_by text => text.length

/-- The text of a part of a query. -/
def unescaped (text : List Char) : String :=
  String.ofList (Text.lossy (unescape text))

/-- The text between separators. -/
def splitAll (separator : Char) (text : List Char) : List (List Char) :=
  text.foldr
    (fun c parts =>
      if c = separator then [] :: parts
      else
        match parts with
        | part :: rest => (c :: part) :: rest
        | [] => [[c]])
    [[]]

/-- The names and values of a query. -/
def parseQuery (query : List Char) : List (String × String) :=
  ((splitAll '&' query).filter (!·.isEmpty)).map fun part =>
    match Text.cut '=' part with
    | some (name, value) => (unescaped name, unescaped value)
    | none => (unescaped part, "")

/-- Names and values in ascending order of the names. -/
def sortQuery (query : List (String × String)) : List (String × String) :=
  query.mergeSort fun a b => a.1 ≤ b.1

/-- The number of bytes that a name or a value takes in a query: one for a letter, a digit, a space and a few
    marks, and three for every other byte. -/
def escapedSize (text : String) : Nat :=
  text.toList.foldl
    (fun size c =>
      size + if c.isAlphanum || c ∈ ['*', '-', '.', '_', ' '] then 1 else 3 * c.utf8Size) 0

/-- The greatest number of bytes of an address. -/
def maxAddressSize : Nat := 65534

/-- The target of a request without what follows a `#`. -/
def wholeTarget (target : String) : List Char := target.toList.takeWhile (· != '#')

/-- The path of a target, which ends where the query begins. -/
def targetPath (target : String) : List Char := (wholeTarget target).takeWhile (· != '?')

/-- A request whose target is given in one piece: what follows a `?` belongs to the query, and what follows a
    `#` is left out. Not all characters are allowed, nor as many as one likes. -/
def Request.of (method : Method) (target : String) (query : List (String × String))
    (body : Option (String × Json)) : Except CallFault Request :=
  let size := query.foldl (fun size (name, value) => size + escapedSize name + escapedSize value + 2)
    target.utf8ByteSize
  let path := targetPath target
  let rest := ((wholeTarget target).dropWhile (· != '?')).drop 1
  if maxAddressSize < size then .error (.unbuilt "failed to build request: uri too long")
  else if path.all isPathChar && rest.all isQueryChar then
    let query := if '#' ∈ target.toList then [] else query
    .ok
      { method
        path := String.ofList path
        query := sortQuery (parseQuery rest ++ query)
        contentType := body.map (·.1)
        body := body.map (·.2) }
  else .error (.unbuilt "failed to build request: invalid uri character")

/-- An object must have a name to be asked for. -/
def named (name : String) : Except CallFault Unit :=
  if name.isEmpty then
    .error (.unbuilt "failed to validate request: A non-empty name is required")
  else .ok ()

/-! ## Answers -/

/-- The words that go with a status of a refusal. -/
def statusWords (status : Nat) : String :=
  match status with
  | 400 => "Bad Request"
  | 401 => "Unauthorized"
  | 402 => "Payment Required"
  | 403 => "Forbidden"
  | 404 => "Not Found"
  | 405 => "Method Not Allowed"
  | 406 => "Not Acceptable"
  | 407 => "Proxy Authentication Required"
  | 408 => "Request Timeout"
  | 409 => "Conflict"
  | 410 => "Gone"
  | 411 => "Length Required"
  | 412 => "Precondition Failed"
  | 413 => "Payload Too Large"
  | 414 => "URI Too Long"
  | 415 => "Unsupported Media Type"
  | 416 => "Range Not Satisfiable"
  | 417 => "Expectation Failed"
  | 418 => "I'm a teapot"
  | 421 => "Misdirected Request"
  | 422 => "Unprocessable Entity"
  | 423 => "Locked"
  | 424 => "Failed Dependency"
  | 425 => "Too Early"
  | 426 => "Upgrade Required"
  | 428 => "Precondition Required"
  | 429 => "Too Many Requests"
  | 431 => "Request Header Fields Too Large"
  | 451 => "Unavailable For Legal Reasons"
  | 500 => "Internal Server Error"
  | 501 => "Not Implemented"
  | 502 => "Bad Gateway"
  | 503 => "Service Unavailable"
  | 504 => "Gateway Timeout"
  | 505 => "HTTP Version Not Supported"
  | 506 => "Variant Also Negotiates"
  | 507 => "Insufficient Storage"
  | 508 => "Loop Detected"
  | 510 => "Not Extended"
  | 511 => "Network Authentication Required"
  | _ => "<unknown status code>"

/-- Whether an answer is a refusal. -/
def Response.isRefusal (response : Response) : Bool :=
  400 ≤ response.status && response.status ≤ 599

/-- The refusal that an answer amounts to. -/
def Response.refusal (response : Response) : Refusal :=
  match Refusal.schema.ofText response.text with
  | .ok refusal => refusal
  | .error _ =>
    { status := s!"{response.status} {statusWords response.status}"
      message := Text.quoted response.text
      reason := "Failed to parse error data"
      code := response.status }

/-- The text of an answer that is no refusal. -/
def Response.check (response : Response) : Except CallFault String :=
  if response.isRefusal then .error (.refused response.refusal) else .ok response.text

/-- The value that an answer gives. -/
def Response.value {α : Type} (schema : Json.Schema α) (response : Response) : Except CallFault α := do
  let text ← response.check
  (schema.ofText text).mapError fun fault => .unreadable fault.message

end NodeImages.Api
