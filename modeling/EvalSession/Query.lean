import EvalSession.Text.Template

/-!
# Queries to a kernel

The expressions that a kernel evaluates to list the names of a scope and to describe a value. Each evaluates to a
JSON text. The scope or the code is inserted verbatim between the last parentheses.
-/
namespace EvalSession.Query

/-- The scope of names at top level, which no parsed scope spells. -/
def globalScope : String := "globals()"

def globalNames : String :=
  "__import__('json').dumps(\x7b'names': sorted(set(globals()) | set(dir(__import__('builtins')))), 'keys': []\x7d)"

set_option maxRecDepth 2000 in
def namesTemplate : Template "scope" :=
  .ofLines
    ["(lambda o: __import__('json').dumps(\x7b\x7b'names': sorted(dir(o)), ",
      "'keys': sorted(k for k in o if isinstance(k, str)) ",
      "if isinstance(o, __import__('collections.abc').abc.Mapping) else []\x7d\x7d))(\x7bscope\x7d)"]
    (Template.isSome_readPieces [_, _, _] (by decide +kernel))

set_option maxRecDepth 2000 in
def inspectionTemplate : Template "code" :=
  .ofLines
    ["(lambda o: __import__('json').dumps(\x7b\x7b'string': repr(o), 'type': type(o).__name__, ",
      "'constructorList': [c.__name__ for c in (o.__mro__ if isinstance(o, type) else type(o).__mro__)], ",
      "'length': len(o) if isinstance(o, __import__('collections.abc').abc.Sized) else None\x7d\x7d, ",
      "default=str))(\x7bcode\x7d)"]
    (Template.isSome_readPieces [_, _, _, _] (by decide +kernel))

/-- Lists the names of a scope and, of a mapping, its textual keys. -/
def names (scope : String) : String := if scope = globalScope then globalNames else namesTemplate.fill scope

/-- Describes the value of some code. -/
def inspection (code : String) : String := inspectionTemplate.fill code

end EvalSession.Query
