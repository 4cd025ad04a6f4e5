import TrusteeBank.Cryptography
import TrusteeBank.Lib.Object

/-!
# `JSON.stringify`

The text of a value with the keys of an object in their own order, as request bodies and tokens
are written. A property that is `undefined` is omitted, and a bigint cannot be written.
-/

set_option autoImplicit false

namespace TrusteeBank

mutual

/-- `JSON.stringify(v)`; `none` is `undefined`. -/
def jsonStringify : JsValue → Except ApiError (Option String)
  | .undefined => .ok none
  | .null => .ok (some "null")
  | .bool b => .ok (some (if b then "true" else "false"))
  | .number n => .ok (some (toString n))
  | .decimal text => .ok (some text)
  | .bigint _ => .error (.thrown "TypeError" "Do not know how to serialize a BigInt")
  | .string s => .ok (some (quoteJson s))
  | .array items => do
    let texts ← jsonItems items
    return some ("[" ++ ",".intercalate texts ++ "]")
  | .object fields => do
    let texts ← jsonFields fields
    return some ("\x7b" ++ ",".intercalate texts ++ "\x7d")

def jsonItems : List JsValue → Except ApiError (List String)
  | [] => .ok []
  | v :: vs => do
    let text ← jsonStringify v
    let texts ← jsonItems vs
    return text.getD "null" :: texts

def jsonFields : List (String × JsValue) → Except ApiError (List String)
  | [] => .ok []
  | (key, v) :: fields => do
    let text ← jsonStringify v
    let texts ← jsonFields fields
    return match text with
      | some text => (quoteJson key ++ ":" ++ text) :: texts
      | none => texts

end

end TrusteeBank
