import NodeImages.Dictionary

/-!
# JSON values

The values that documents, requests and answers are made of. An object keeps its members in the order
and number in which they stand; a value that a program holds, and not a text, has its members in
ascending order of their names, each name once (`Json.canonical`).

Numbers come in two kinds. Integers are exact and lie between -2^63 and 2^64 - 1; all other numbers are
double precision floats, kept as their bits so that values can be compared.
-/

namespace NodeImages

/-- A JSON value. -/
inductive Json
  | null
  | bool (value : Bool)
  | int (value : Int)
  | float (bits : UInt64)
  | str (value : String)
  | arr (items : List Json)
  | obj (members : List (String × Json))
  /-- A text or a number that its reader cannot represent, with the reason. -/
  | unreadable (isText : Bool) (reason : String)
  /-- An object that stands in a text but of which its reader cannot represent the name of a member, with the
      members before that one and the reason. -/
  | torn (members : List (String × Json)) (reason : String)
  deriving Inhabited, BEq, Repr

namespace Json

mutual

/-- The value with the members of every object in ascending order of their names. Of several members
    of one name the last one counts. -/
def canonical : Json → Json
  | .arr items => .arr (canonicalItems items)
  | .obj members => .obj (canonicalMembers members [])
  | value => value

/-- The items of an array, each made canonical. -/
def canonicalItems : List Json → List Json
  | [] => []
  | item :: rest => canonical item :: canonicalItems rest

/-- The members of an object, each made canonical and added to those gathered before it. -/
def canonicalMembers : List (String × Json) → List (String × Json) → List (String × Json)
  | [], done => done
  | (name, value) :: rest, done => canonicalMembers rest (Dictionary.insertEntry name (canonical value) done)

end

/-- The member of a given name. Of several the first one is found. -/
def get? (value : Json) (name : String) : Option Json :=
  match value with
  | .obj members => members.lookup name
  | _ => none

/-- An object of the members that are given, leaving out the absent ones. -/
def objOf (members : List (String × Option Json)) : Json :=
  .obj (members.filterMap fun (name, value) => value.map (name, ·))

/-- An array of texts. -/
def strs (texts : List String) : Json :=
  .arr (texts.map .str)

/-- An object with a member for every entry of a dictionary. -/
def ofDictionary (dictionary : Dictionary Json) : Json :=
  .obj dictionary.entries

/-- The text, or null. -/
def strOrNull (text : Option String) : Json :=
  match text with
  | some t => .str t
  | none => .null

end Json

end NodeImages
