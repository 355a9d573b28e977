import Zecurity.PostureEvaluation
import Zecurity.Users

/-!
What the SCIM endpoints share (`controller/internal/scim`): bodies as `encoding/json` decodes them
into `map[string]any`, the texts of their words, and errors.

An object is the list of its fields in the order in which a loop visits them, which Go leaves open.
-/

namespace Zecurity.ScimJson

open Users (WorkspaceId)

abbrev ConnectionId := String

structure Scope where
  workspaceId : WorkspaceId
  connectionId : ConnectionId

inductive Json
  | null
  | bool (b : Bool)
  | num (text : String)
  | str (s : String)
  | arr (items : List Json)
  | obj (fields : List (String × Json))

abbrev Object := List (String × Json)

def Json.str? : Json → Option String
  | .str s => some s
  | _ => none

def Json.bool? : Json → Option Bool
  | .bool b => some b
  | _ => none

/-- `s, _ := o[name].(string)` -/
def text (o : Object) (name : String) : String := ((o.lookup name).bind Json.str?).getD ""

/-- `strings.ToLower`, as far as it can give a word of ASCII letters: two characters outside of
ASCII have one as their lower case. -/
def toLower (s : String) : String :=
  .ofList (s.toList.map fun c =>
    if c.toNat = 0x130 then 'i' else if c.toNat = 0x212A then 'k' else c.toLower)

/-- `strings.ToUpper`, in the same way. -/
def toUpper (s : String) : String :=
  .ofList (s.toList.map fun c =>
    if c.toNat = 0x131 then 'I' else if c.toNat = 0x17F then 'S' else c.toUpper)

structure SCIMError where
  status : ℕ
  scimType : String
  detail : String

end Zecurity.ScimJson
