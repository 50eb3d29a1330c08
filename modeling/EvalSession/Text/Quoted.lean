import EvalSession.Text.Class

/-!
# Quoted text

A text as a quoted literal of the evaluated language. Single quotes enclose it unless it holds a single quote and no
double quote. The quote and the backslash are escaped, and so is every unprintable character, in the shortest of the
forms of two, four and eight hex digits that holds it.
-/
namespace EvalSession.Text.Quoted

def delimiter (s : List Char) : Char :=
  if s.contains '\'' && !s.contains '"' then '"' else '\''

def escape (quote c : Char) : List Char :=
  if c == quote || c == '\\' then ['\\', c]
  else if c == '\t' then ['\\', 't']
  else if c == '\n' then ['\\', 'n']
  else if c == '\r' then ['\\', 'r']
  else if isPrintable c then [c]
  else if c.toNat < 0x100 then '\\' :: 'x' :: hex 2 c.toNat
  else if c.toNat < 0x10000 then '\\' :: 'u' :: hex 4 c.toNat
  else '\\' :: 'U' :: hex 8 c.toNat

def quote (s : List Char) : List Char :=
  let q := delimiter s
  q :: (s.flatMap (escape q) ++ [q])

end EvalSession.Text.Quoted
