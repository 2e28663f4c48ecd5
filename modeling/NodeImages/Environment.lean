import NodeImages.Text.Characters

/-!
# References to the environment

A text may refer to variables: `$NAME`, `${NAME}` and `${NAME:-default}` stand for the value of a
variable, and `$$` for one dollar. A value that is put in is not looked at again, and neither is a
default. A variable that is set counts as set even when it is empty; one that is not set and has no
default is a failure. A dollar with nothing after it that could be a name stands for itself, and so does
an opening brace that is never closed.
-/

namespace NodeImages

/-- The variables that are set, with their values. -/
structure Environment where
  bindings : List (String × String)
  deriving Repr, Inhabited

namespace Environment

/-- No variable is set. -/
def empty : Environment := ⟨[]⟩

/-- What follows a given start of a text. -/
def afterStart? : List Char → List Char → Option (List Char)
  | [], text => some text
  | a :: start, b :: text => if a = b then afterStart? start text else none
  | _ :: _, [] => none

/-- The value of a variable, if it is set. A variable is kept as one text, with an equals sign between its name and
    its value, and is found by what comes before any of the equals signs in it. -/
def get? (env : Environment) (name : String) : Option String :=
  if name.isEmpty then none
  else
    env.bindings.findSome? fun (bound, value) =>
      (afterStart? (name ++ "=").toList (bound ++ "=" ++ value).toList).map String.ofList

/-- The words for a variable that is needed but not set. -/
def unset (name : List Char) : String :=
  "error looking key '" ++ String.ofList name ++ "' up: environment variable not found"

/-- Whether a character may be part of a name. -/
def isNameChar (c : Char) : Bool :=
  Text.isAlphanumeric c || c == '_'

/-- The text before the first `:-` and the text after it. -/
def splitDefault : List Char → Option (List Char × List Char)
  | [] => none
  | ':' :: '-' :: rest => some ([], rest)
  | c :: rest => (splitDefault rest).map fun (name, value) => (c :: name, value)

/-- The name and the default of a reference in braces. A reference that begins with `:-` has no default
    and is all name. -/
def reference (inside : List Char) : List Char × Option (List Char) :=
  match splitDefault inside with
  | some ([], _) | none => (inside, none)
  | some (name, value) => (name, some value)

/-- What a reference stands for. -/
def resolve (env : Environment) (name : List Char) (fallback : Option (List Char)) :
    Except String (List Char) :=
  match env.get? (String.ofList name), fallback with
  | some value, _ => .ok value.toList
  | none, some value => .ok value
  | none, none => .error (unset name)

/-- The characters of a text with all references put in. -/
def expandChars (env : Environment) : List Char → Except String (List Char)
  | [] => .ok []
  | '$' :: '\x7b' :: rest =>
    if '\x7d' ∈ rest then do
      let (name, fallback) := reference (rest.takeWhile (· ≠ '\x7d'))
      let value ← env.resolve name fallback
      return value ++ (← expandChars env ((rest.dropWhile (· ≠ '\x7d')).drop 1))
    else do
      return '$' :: '\x7b' :: (← expandChars env rest)
  | '$' :: '$' :: rest => do
    return '$' :: (← expandChars env rest)
  | '$' :: c :: rest =>
    if isNameChar c then do
      let value ← env.resolve (c :: rest.takeWhile isNameChar) none
      return value ++ (← expandChars env (rest.dropWhile isNameChar))
    else do
      return '$' :: (← expandChars env (c :: rest))
  | c :: rest => do
    return c :: (← expandChars env rest)
  termination_by text => text.length
  decreasing_by
    all_goals simp only [List.length_cons, List.length_drop]
    · have := (List.dropWhile_sublist (l := rest) (· ≠ '\x7d')).length_le
      omega
    · omega
    · omega
    · have := (List.dropWhile_sublist (l := rest) isNameChar).length_le
      omega
    · omega
    · omega

/-- A text with all references put in. -/
def expand (env : Environment) (text : String) : Except String String :=
  (env.expandChars text.toList).map String.ofList

end Environment

end NodeImages
