import RdmaKvCache.Common.Types

/-!
# JSON values

The requests to the inference server and its answers are values of a JSON library.
Indexing a value that is `null` makes it an object or an array, a missing member or
element becomes `null`, and indexing or converting any other value of the wrong type
throws.  How texts are written and parsed is up to the library.
-/

namespace RdmaKvCache

/-- A `double` is given by its bits. -/
inductive Json where
  | null
  | boolean (value : Bool)
  | integer (value : Int64)
  | unsigned (value : UInt64)
  | float (bits : UInt64)
  | string (value : ByteString)
  | array (elements : List Json)
  | object (members : List (String × Json))

/-- What the library throws. -/
inductive JsonError where
  | parseError
  | invalidUtf8
  | badIndex
  | badConversion
  deriving DecidableEq

/-- `toInt` is what a `double` is when it is converted to an `int`. -/
structure JsonLibrary where
  dump : Json → Except JsonError ByteString
  parse : ByteString → Except JsonError Json
  toInt : UInt64 → Int32

namespace Json

/-- The value at a key, in an object that may be changed. -/
def atKey (key : String) : Json → Except JsonError Json
  | .null => .ok .null
  | .object members => .ok ((members.lookup key).getD .null)
  | _ => .error .badIndex

/-- The value at an index, in an array that may be changed. -/
def atIndex (index : Nat) : Json → Except JsonError Json
  | .null => .ok .null
  | .array elements => .ok ((elements[index]?).getD .null)
  | _ => .error .badIndex

def getInt (library : JsonLibrary) : Json → Except JsonError Int32
  | .boolean value => .ok (if value then 1 else 0)
  | .integer value => .ok value.toInt32
  | .unsigned value => .ok value.toUInt32.toInt32
  | .float bits => .ok (library.toInt bits)
  | _ => .error .badConversion

def getString : Json → Except JsonError ByteString
  | .string value => .ok value
  | _ => .error .badConversion

def ofInt (value : Int32) : Json :=
  .integer value.toInt64

def ofText (text : String) : Json :=
  .string (.ofText text)

/-! ## Members of members -/

def member (key : String) : Json → Option Json
  | .object members => members.lookup key
  | _ => none

/-- The value the keys lead to. -/
def atPath : List String → Json → Option Json
  | [], json => some json
  | key :: rest, json => (json.member key).bind (atPath rest)

end Json

end RdmaKvCache
