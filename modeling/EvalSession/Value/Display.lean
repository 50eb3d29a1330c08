import EvalSession.Decimal
import EvalSession.Text.Quoted

/-!
# Values as text of the evaluated language

`literal` writes a value as a literal of the evaluated language; `display` differs from it only on strings, which it
gives as they are.
-/
namespace EvalSession.Value

mutual

def literal : Value → List Char
  | .null => "None".toList
  | .bool true => "True".toList
  | .bool false => "False".toList
  | .int n => (toString n).toList
  | .float x => x.text.toList
  | .string s => Text.Quoted.quote s.toList
  | .list items => '[' :: (literalItems items ++ [']'])
  | .object fields => '\x7b' :: (literalFields fields ++ ['\x7d'])

def literalItems : List Value → List Char
  | [] => []
  | [v] => literal v
  | v :: rest => literal v ++ ',' :: ' ' :: literalItems rest

def literalFields : List (String × Value) → List Char
  | [] => []
  | [(k, v)] => Text.Quoted.quote k.toList ++ ':' :: ' ' :: literal v
  | (k, v) :: rest => Text.Quoted.quote k.toList ++ ':' :: ' ' :: (literal v ++ ',' :: ' ' :: literalFields rest)

end

def display : Value → List Char
  | .string s => s.toList
  | v => literal v

end EvalSession.Value
