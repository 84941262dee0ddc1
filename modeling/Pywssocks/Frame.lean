-- What a WebSocket frame is to the server: the value `json.loads` makes of it,
-- and the few Python operations `_handle_websocket` and `_message_dispatcher`
-- apply to that value (subscript, `.get`, `==`, and `in` on a dict of strings).
import Mathlib.Data.Rat.Init

namespace pywssocks.server

/-! ## Values -/

/-- A value inside the object a frame parses to. The server only compares such a value
with a string, `True` or `False`, or looks it up in a dict, so an array or an object
inside a frame is kept as its kind alone: both are unhashable. A number keeps its
exact value (an `int`, or a finite `float`); `NaN` and the infinities, which `json.loads`
accepts, are `nonfinite`. -/
inductive JsonValue where
  | null
  | bool (b : Bool)
  | num (x : Rat)
  | nonfinite
  | str (s : String)
  | array
  | object
  deriving DecidableEq, Repr

/-- What `json.loads(msg)` returns: an object with its items in order, or any other
JSON value (a string, a number, an array, `null`, ...), on which every subscript and
every `.get` raises. A frame that is not JSON is `none` in an `Option Frame`. -/
inductive Frame where
  | object (fields : List (String × JsonValue))
  | other
  deriving DecidableEq, Repr

namespace JsonValue

/-- `v == True` in Python: `True == 1 == 1.0`. -/
def eqTrue : JsonValue → Bool
  | .bool b => b
  | .num x => x == 1
  | _ => false

/-- `v == False` in Python: `False == 0 == 0.0`. -/
def eqFalse : JsonValue → Bool
  | .bool b => !b
  | .num x => x == 0
  | _ => false

/-- `v` as a key of a dict whose keys are strings, for `v in d` and `d[v]`: the string it
is, `some none` for any other hashable value (in no such dict), and `none` when `v` is
unhashable and the test raises `TypeError`. -/
def asKey : JsonValue → Option (Option String)
  | .str s => some (some s)
  | .array | .object => none
  | _ => some none

end JsonValue

namespace Frame

/-- The value of `key` in the object; a repeated key keeps its last value, as the dict
`json.loads` builds does. -/
def lookup (fields : List (String × JsonValue)) (key : String) : Option JsonValue :=
  fields.reverse.lookup key

/-- `data[key]`: `none` when it raises (`KeyError`, or `TypeError` on a non-object). -/
def subscript : Frame → String → Option JsonValue
  | .object fs, k => lookup fs k
  | .other, _ => none

/-- `data.get(key, None)`: `none` when it raises (`AttributeError` on a non-object). -/
def get : Frame → String → Option JsonValue
  | .object fs, k => some ((lookup fs k).getD .null)
  | .other, _ => none

/-- The auth message a client sends first, whose `type`, `token` and `reverse`
`_handle_websocket` reads (server.py 501-508):
`{"type": "auth", "token": token, "reverse": reverse}`. -/
def authMessage (token : String) (reverse : Bool) : Frame :=
  .object [("type", .str "auth"), ("token", .str token), ("reverse", .bool reverse)]

end Frame

end pywssocks.server
