import Literate.Number.Binary64
import Literate.Text.Blank
import Literate.Text.Code
import Literate.Text.Quoted

/-! JSON values, and two ways to write them: as a document, and inside of messages. -/

namespace Literate

inductive Json where
  | null
  | bool (b : Bool)
  | int (n : Int)
  | real (x : Binary64)
  | string (s : Wording)
  | array (items : List Json)
  /-- keys in the order of their first occurrence, each once -/
  | object (fields : List (Wording × Json))
  deriving Repr, Inhabited

namespace Json

mutual

def beq : Json → Json → Bool
  | null, null => true
  | bool a, bool b => a == b
  | int a, int b => a == b
  | real a, real b => a == b
  | string a, string b => a == b
  | array as, array bs => beqItems as bs
  | object as, object bs => beqFields as bs
  | _, _ => false

def beqItems : List Json → List Json → Bool
  | [], [] => true
  | a :: as, b :: bs => beq a b && beqItems as bs
  | _, _ => false

def beqFields : List (Wording × Json) → List (Wording × Json) → Bool
  | [], [] => true
  | (k, a) :: as, (l, b) :: bs => k == l && beq a b && beqFields as bs
  | _, _ => false

end

instance : BEq Json := ⟨beq⟩

def field? (key : String) : Json → Option Json
  | object fields => fields.lookup (codes key)
  | _ => none

def quoted (s : Wording) : String := String.ofList (Text.quoted (s.map Code.toNat))

mutual

/-- The text of a value in a message: quotes as texts have them, and words for the constants. -/
def shown : Json → String
  | null => "None"
  | bool b => if b then "True" else "False"
  | int n => toString n
  | real x => x.text
  | string s => quoted s
  | array items => "[" ++ Text.join ", " (shownItems items) ++ "]"
  | object fields => "\x7b" ++ Text.join ", " (shownFields fields) ++ "\x7d"

def shownItems : List Json → List String
  | [] => []
  | v :: vs => shown v :: shownItems vs

def shownFields : List (Wording × Json) → List String
  | [] => []
  | (k, v) :: vs => (quoted k ++ ": " ++ shown v) :: shownFields vs

end
end Json
end Literate
