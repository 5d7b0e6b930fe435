import PhotonTCP.Foundation.Dict
import PhotonTCP.Packet.Types

/-!
# JSON documents

What the application layer's codecs write and read.  Writing is `json.dumps` with
`ensure_ascii=False`, then UTF-8; reading (`json.loads` of the decoded text) is a parameter of
whatever uses it, a function from bytes to a `JsonValue` or the text of the error.

* `JsonValue` — a value.  Of an array or an object inside a document only the text matters.
* `jsonDumps` — a mapping as bytes.

Writing is modelled because lengths depend on it: whether a message fits its frame is decided by the
bytes that `json.dumps` makes of it, and a character may become six of them.  Reading is not, since
nothing here depends on what a decoder does with bytes that no encoder has written, except that it
may raise; results that need more ask for it, namely that it reads back what was written.
-/

namespace PhotonTCP

/-- A JSON value. -/
inductive JsonValue where
  | null
  | bool (value : Bool)
  | int (value : ℤ)
  | float (text : String)
  | str (value : String)
  | array (text : String)
  | object (text : String)
deriving DecidableEq

/-- What a document is: a mapping, or something else. -/
inductive JsonDocument where
  | mapping (fields : Dict String JsonValue)
  | other (value : JsonValue)

/-- `json.loads` of a byte string that is first decoded as UTF-8. -/
abbrev JsonLoads := Bytes → Except String JsonDocument

/-- A character in a JSON string. -/
def escapeChar (c : Char) : String :=
  if c = '"' then "\\\""
  else if c = '\\' then "\\\\"
  else if c = '\n' then "\\n"
  else if c = '\r' then "\\r"
  else if c = '\t' then "\\t"
  else if c.toNat = 8 then "\\b"
  else if c.toNat = 12 then "\\f"
  else if c.toNat < 32 then
    "\\u00" ++ String.ofList [Nat.digitChar (c.toNat / 16), Nat.digitChar (c.toNat % 16)]
  else c.toString

/-- A string in quotation marks. -/
def quoteString (s : String) : String := "\"" ++ String.join (s.toList.map escapeChar) ++ "\""

/-- The text of a value. -/
def JsonValue.text : JsonValue → String
  | null => "null"
  | bool true => "true"
  | bool false => "false"
  | int value => toString value
  | float text => text
  | str value => quoteString value
  | array text => text
  | object text => text

/-- The name of the value's Python type. -/
def JsonValue.typeName : JsonValue → String
  | null => "NoneType"
  | bool _ => "bool"
  | int _ => "int"
  | float _ => "float"
  | str _ => "str"
  | array _ => "list"
  | object _ => "dict"

/-- `json.dumps(obj, ensure_ascii=False).encode("utf-8")`. -/
def jsonDumps (obj : Dict String JsonValue) : Bytes :=
  let fields := obj.entries.map fun e => quoteString e.1 ++ ": " ++ e.2.text
  ("\x7b" ++ ", ".intercalate fields ++ "\x7d").toUTF8.toList

end PhotonTCP
