import EvalSession.Literal.Token

/-!
# Terms of the evaluated language

Reads the tokens of an expression as a term. Literals keep their structure; every other expression is `compound`, of
which the grammar is checked and the height of its tree is kept.

The reading functions share one fuel, of which every call and every item of a sequence takes one; `fuelFor` is more than
any text of that length can use up. What bounds them is `room`: the levels of the stack that are left to the parser, of
which only what nests takes any.
-/
namespace EvalSession.Literal

inductive Term where
  | text (units : List Nat)
  | bytes (octets : List Nat)
  | number (kind : Number)
  | none
  | bool
  | ellipsis
  | list (items : List Term)
  | tuple (items : List Term)
  | set (items : List Term)
  | dict (entries : List (Term × Term))
  | emptySet
  /-- A number with a sign. -/
  | signed (operand : Term)
  /-- A sum or difference of two terms. -/
  | sum (left right : Term)
  | name (s : List Char)
  | compound (height : Nat)
  deriving Repr, Inhabited

mutual

def Term.height : Term → Nat
  | .list items => heightOver items
  | .tuple items => heightOver items
  | .set items => heightOver items
  | .dict entries => heightOverEntries entries
  | .emptySet => 1
  | .signed t => t.height + 1
  | .sum l r => max l.height r.height + 1
  | .compound h => h
  | _ => 0

/-- The height of a tree whose root has these branches. -/
def heightOver : List Term → Nat
  | [] => 0
  | t :: rest => max (t.height + 1) (heightOver rest)

def heightOverEntries : List (Term × Term) → Nat
  | [] => 0
  | (k, v) :: rest => max (max k.height v.height + 1) (heightOverEntries rest)

end

abbrev Parsed (α : Type) := Lexed (α × List Token)

def keywords : List String :=
  ["False", "None", "True", "and", "as", "assert", "async", "await", "break", "class", "continue", "def", "del",
    "elif", "else", "except", "finally", "for", "from", "global", "if", "import", "in", "is", "lambda", "nonlocal",
    "not", "or", "pass", "raise", "return", "try", "while", "with", "yield"]

def isKeyword (s : List Char) : Bool := keywords.contains (String.ofList s)

def sym (s : String) : Token := .symbol s.toList

def word (s : String) : Token := .name s.toList

def expect (t : Token) : List Token → Lexed (List Token)
  | u :: rest => if t = u then .ok rest else .error .malformed
  | [] => .error .malformed

def startsWith (t : Token) (ts : List Token) : Bool := ts.head? == some t

/-- A comprehension goes on here. -/
def startsClause (ts : List Token) : Bool := startsWith (word "for") ts || startsWith (word "async") ts

def isQuotedToken : Token → Bool
  | .text _ => true
  | .bytes _ => true
  | .formatted => true
  | _ => false

/-- Quoted texts one after the other, joined; texts and octets do not mix. -/
def joinQuoted : List Token → Parsed Term
  | .text a :: rest =>
    if rest.head?.any isQuotedToken then
      (joinQuoted rest).bind fun (t, r) =>
        match t with
        | .text b => .ok (.text (a ++ b), r)
        | .compound h => .ok (.compound h, r)
        | _ => .error .malformed
    else .ok (.text a, rest)
  | .bytes a :: rest =>
    if rest.head?.any isQuotedToken then
      (joinQuoted rest).bind fun (t, r) =>
        match t with
        | .bytes b => .ok (.bytes (a ++ b), r)
        | _ => .error .malformed
    else .ok (.bytes a, rest)
  | .formatted :: rest =>
    if rest.head?.any isQuotedToken then
      (joinQuoted rest).bind fun (t, r) =>
        match t with
        | .bytes _ => .error .malformed
        | _ => .ok (.compound 2, r)
    else .ok (.compound 2, rest)
  | _ => .error .malformed

def tightness : List Char → Option Nat
  | ['|'] => some 0
  | ['^'] => some 1
  | ['&'] => some 2
  | ['<', '<'] => some 3
  | ['>', '>'] => some 3
  | ['+'] => some 4
  | ['-'] => some 4
  | ['*'] => some 5
  | ['/'] => some 5
  | ['/', '/'] => some 5
  | ['%'] => some 5
  | ['@'] => some 5
  | _ => none

/-- The heights left when all operators that bind so tightly have been applied, from the left; each operand but the first
comes with the operator before it. -/
def contract (tight first : Nat) : List (Nat × Nat) → Nat × List (Nat × Nat)
  | [] => (first, [])
  | (t, h) :: rest =>
    if t = tight then contract tight (max first h + 1) rest
    else (first, (t, (contract tight h rest).1) :: (contract tight h rest).2)

/-- A single sum or difference is kept, of more operators only the height. -/
def joinOperands (first : Term) : List (List Char × Term) → Term
  | [] => first
  | [(s, t)] => if s = ['+'] || s = ['-'] then .sum first t else .compound (max first.height t.height + 1)
  | more =>
    let heights := more.map fun (s, t) => ((tightness s).getD 0, t.height)
    .compound ([5, 4, 3, 2, 1, 0].foldl (fun (h, rest) tight => contract tight h rest) (first.height, heights)).1

/-- What stands between operands that are on one level of the tree. -/
inductive Joint where
  | disjunction
  | conjunction
  | comparison

def comparisons : List String := ["<", ">", "==", ">=", "<=", "!="]

def Joint.take? : Joint → List Token → Option (List Token)
  | .disjunction, .name s :: rest => if s = "or".toList then some rest else none
  | .conjunction, .name s :: rest => if s = "and".toList then some rest else none
  | .comparison, .symbol s :: rest => if comparisons.contains (String.ofList s) then some rest else none
  | .comparison, .name s :: rest =>
    match String.ofList s, rest with
    | "in", _ => some rest
    | "is", .name n :: more => if n = "not".toList then some more else some rest
    | "is", _ => some rest
    | "not", .name n :: more => if n = "in".toList then some more else none
    | _, _ => none
  | _, _ => none

def joinLevel : List Term → Term
  | [t] => t
  | ts => .compound (heightOver ts)

/-- How items stand between brackets: one alone, several with commas, or one with the clauses of a comprehension. -/
inductive Form where
  | single
  | several
  | generated
  deriving DecidableEq

def deeper {α : Type} (levels room : Nat) (read : Nat → Lexed α) : Lexed α :=
  if levels ≤ room then read (room - levels) else .error (.tooDeep .part)

/-- What stands between brackets is so many levels below them. -/
def bracketLevels : Nat := 29

def closesHere (ts : List Token) : Bool := startsWith (sym ")") ts || startsWith (sym "]") ts || startsWith (sym "\x7d") ts

def bindsName : List Token → Bool
  | .name n :: .symbol [':', '='] :: _ => !isKeyword n
  | _ => false

mutual

/-- A whole expression: a choice, a function, or a disjunction. -/
def readTest : Nat → Nat → List Token → Parsed Term
  | 0, _, _ => .error .malformed
  | fuel + 1, room, ts =>
    if startsWith (word "lambda") ts then
      (readParameters fuel room (ts.drop 1)).bind fun (parameters, rest) =>
        (expect (sym ":") rest).bind fun rest =>
          deeper 2 room fun room =>
            (readTest fuel room rest).map fun (body, r) => (.compound (max parameters body.height + 1), r)
    else
      (readJoined fuel room .disjunction ts).bind fun (a, rest) =>
        if startsWith (word "if") rest then
          (readJoined fuel room .disjunction (rest.drop 1)).bind fun (b, rest) =>
            (expect (word "else") rest).bind fun rest =>
              deeper 1 room fun room => (readTest fuel room rest).map fun (c, r) => (.compound (heightOver [a, b, c]), r)
        else .ok (a, rest)
termination_by structural fuel => fuel

/-- The parameters of a function up to its colon, with the height of their tree. -/
def readParameters : Nat → Nat → List Token → Parsed Nat
  | 0, _, _ => .error .malformed
  | fuel + 1, room, ts =>
    if startsWith (sym ":") ts then .ok (0, ts)
    else
      let body := match ts with
        | .symbol s :: rest => if s = "*".toList || s = "**".toList then rest else ts
        | _ => ts
      match body with
      | .name n :: rest =>
        if isKeyword n then .error .malformed
        else
          let default : Parsed Nat :=
            if startsWith (sym "=") rest then
              deeper 8 room fun room => (readTest fuel room (rest.drop 1)).map fun (t, r) => (t.height + 1, r)
            else .ok (1, rest)
          default.bind fun (h, rest) =>
            if startsWith (sym ",") rest then (readParameters fuel room (rest.drop 1)).map fun (more, r) => (max h more, r)
            else if startsWith (sym ":") rest then .ok (h, rest) else .error .malformed
      | .symbol s :: rest =>
        if s = ",".toList || s = "/".toList then
          readParameters fuel room (if startsWith (sym ",") rest then rest.drop 1 else rest)
        else .error .malformed
      | _ => .error .malformed
termination_by structural fuel => fuel

def readJoined : Nat → Nat → Joint → List Token → Parsed Term
  | 0, _, _, _ => .error .malformed
  | fuel + 1, room, joint, ts => (readOperands fuel room joint ts).map fun (operands, r) => (joinLevel operands, r)
termination_by structural fuel => fuel

def readOperands : Nat → Nat → Joint → List Token → Parsed (List Term)
  | 0, _, _, _ => .error .malformed
  | fuel + 1, room, joint, ts =>
    let operand : Parsed Term :=
      match joint with
      | .disjunction => readJoined fuel room .conjunction ts
      | .conjunction => readNot fuel room ts
      | .comparison => readBinary fuel room ts
    operand.bind fun (a, rest) =>
      match joint.take? rest with
      | some rest => (readOperands fuel room joint rest).map fun (more, r) => (a :: more, r)
      | none => .ok ([a], rest)
termination_by structural fuel => fuel

def readNot : Nat → Nat → List Token → Parsed Term
  | 0, _, _ => .error .malformed
  | fuel + 1, room, ts =>
    if startsWith (word "not") ts then
      deeper 1 room fun room => (readNot fuel room (ts.drop 1)).map fun (a, r) => (.compound (a.height + 1), r)
    else readJoined fuel room .comparison ts
termination_by structural fuel => fuel

def readBinary : Nat → Nat → List Token → Parsed Term
  | 0, _, _ => .error .malformed
  | fuel + 1, room, ts => (readFactors fuel room ts).map fun ((first, more), r) => (joinOperands first more, r)
termination_by structural fuel => fuel

def readFactors : Nat → Nat → List Token → Parsed (Term × List (List Char × Term))
  | 0, _, _ => .error .malformed
  | fuel + 1, room, ts =>
    (readUnary fuel room ts).bind fun (a, rest) =>
      match rest with
      | .symbol s :: more =>
        if (tightness s).isSome then (readFactors fuel room more).map fun ((b, others), r) => ((a, (s, b) :: others), r)
        else .ok ((a, []), rest)
      | _ => .ok ((a, []), rest)
termination_by structural fuel => fuel

def readUnary : Nat → Nat → List Token → Parsed Term
  | 0, _, _ => .error .malformed
  | fuel + 1, room, ts =>
    match ts with
    | .symbol s :: rest =>
      if s = ['+'] || s = ['-'] then deeper 1 room fun room => (readUnary fuel room rest).map fun (a, r) => (.signed a, r)
      else if s = ['~'] then
        deeper 1 room fun room => (readUnary fuel room rest).map fun (a, r) => (.compound (a.height + 1), r)
      else readPower fuel room ts
    | _ => readPower fuel room ts
termination_by structural fuel => fuel

def readPower : Nat → Nat → List Token → Parsed Term
  | 0, _, _ => .error .malformed
  | fuel + 1, room, ts =>
    let waiting := startsWith (word "await") ts
    (readAtom fuel room (if waiting then ts.drop 1 else ts)).bind fun (a, rest) =>
      (readTrailers fuel room a rest).bind fun (a, rest) =>
        let base : Term := if waiting then .compound (a.height + 1) else a
        if startsWith (sym "**") rest then
          deeper 2 room fun room =>
            (readUnary fuel room (rest.drop 1)).map fun (b, r) => (.compound (heightOver [base, b]), r)
        else .ok (base, rest)
termination_by structural fuel => fuel

def readTrailers : Nat → Nat → Term → List Token → Parsed Term
  | 0, _, _, _ => .error .malformed
  | fuel + 1, room, a, ts =>
    match ts with
    | .symbol ['.'] :: .name n :: rest =>
      if isKeyword n then .error .malformed else readTrailers fuel room (.compound (a.height + 1)) rest
    | .symbol ['('] :: .symbol [')'] :: rest =>
      readTrailers fuel room (match a with
        | .name n => if n = "set".toList then .emptySet else .compound 1
        | _ => .compound (a.height + 1)) rest
    | .symbol ['('] :: rest =>
      (deeper bracketLevels room fun room => readArguments fuel room true rest).bind fun (h, r) =>
        readTrailers fuel room (.compound (max a.height h + 1)) r
    | .symbol ['['] :: rest =>
      (deeper bracketLevels room fun room => readSubscripts fuel room rest).bind fun (hs, r) =>
        let h := match hs with
          | [h] => h
          | hs => hs.foldl max 0 + 1
        readTrailers fuel room (.compound (max a.height h + 1)) r
    | _ => .ok (a, ts)
termination_by structural fuel => fuel

/-- The arguments of a call, of which there is at least one, and its closing bracket, with the height of the tallest. Only
an argument that stands alone may be a comprehension. -/
def readArguments : Nat → Nat → Bool → List Token → Parsed Nat
  | 0, _, _, _ => .error .malformed
  | fuel + 1, room, first, ts =>
    let argument : Parsed Nat := match ts with
      | .symbol s :: rest =>
        if s = "*".toList || s = "**".toList then (readTest fuel room rest).map fun (t, r) => (t.height + 1, r)
        else (readTest fuel room ts).map fun (t, r) => (t.height, r)
      | .name n :: .symbol ['='] :: rest =>
        if isKeyword n then .error .malformed else (readTest fuel room rest).map fun (t, r) => (t.height + 1, r)
      | _ => (readNamed fuel room ts).map fun (t, r) => (t.height, r)
    argument.bind fun (h, rest) =>
      match rest with
      | .symbol [')'] :: r => .ok (h, r)
      | .symbol [','] :: .symbol [')'] :: r => .ok (h, r)
      | .symbol [','] :: r => (readArguments fuel room false r).map fun (more, r) => (max h more, r)
      | _ =>
        if first && startsClause rest then
          (readClauses fuel room rest).bind fun (clauses, rest) =>
            (expect (sym ")") rest).map fun r => (max h clauses + 1, r)
        else .error .malformed
termination_by structural fuel => fuel

/-- The subscripts of an access, of which there is at least one, and its closing bracket, with their heights. -/
def readSubscripts : Nat → Nat → List Token → Parsed (List Nat)
  | 0, _, _ => .error .malformed
  | fuel + 1, room, ts =>
    let subscript : Parsed Nat :=
      if startsWith (sym "*") ts then (readBinary fuel room (ts.drop 1)).map fun (t, r) => (t.height + 2, r)
      else readSlice fuel room ts
    subscript.bind fun (h, rest) =>
      match rest with
      | .symbol [']'] :: r => .ok ([h], r)
      | .symbol [','] :: .symbol [']'] :: r => .ok ([h, 0], r)
      | .symbol [','] :: r => (readSubscripts fuel room r).map fun (more, r) => (h :: more, r)
      | _ => .error .malformed
termination_by structural fuel => fuel

/-- One subscript: an expression, or up to three of them between colons. -/
def readSlice : Nat → Nat → List Token → Parsed Nat
  | 0, _, _ => .error .malformed
  | fuel + 1, room, ts =>
    let bound (ts : List Token) : Parsed Nat :=
      if startsWith (sym ":") ts || startsWith (sym "]") ts || startsWith (sym ",") ts then .ok (0, ts)
      else (readTest fuel room ts).map fun (t, r) => (t.height + 1, r)
    if startsWith (sym "]") ts || startsWith (sym ",") ts then .error .malformed
    else if bindsName ts then (readNamed fuel room ts).map fun (t, r) => (t.height, r)
    else
      (bound ts).bind fun (a, rest) =>
        if startsWith (sym ":") rest then
          (bound (rest.drop 1)).bind fun (b, rest) =>
            if startsWith (sym ":") rest then (bound (rest.drop 1)).map fun (c, r) => (max a (max b c), r)
            else .ok (max a b, rest)
        else .ok (a - 1, rest)
termination_by structural fuel => fuel

/-- An expression that may be bound to a name on the way. -/
def readNamed : Nat → Nat → List Token → Parsed Term
  | 0, _, _ => .error .malformed
  | fuel + 1, room, ts =>
    if bindsName ts then (readTest fuel room (ts.drop 2)).map fun (t, r) => (.compound (t.height + 1), r)
    else readTest fuel room ts
termination_by structural fuel => fuel

def readClauses : Nat → Nat → List Token → Parsed Nat
  | 0, _, _ => .error .malformed
  | fuel + 1, room, ts =>
    (expect (word "for") (if startsWith (word "async") ts then ts.drop 1 else ts)).bind fun rest =>
      (readTargets fuel room rest).bind fun (targets, rest) =>
        let target := match targets with
          | [h] => h
          | hs => hs.foldl max 0 + 1
        (expect (word "in") rest).bind fun rest =>
          (readJoined fuel room .disjunction rest).bind fun (source, rest) =>
            (readConditions fuel room rest).bind fun (conditions, rest) =>
              let height := max target (max source.height conditions) + 1
              if startsClause rest then (readClauses fuel room rest).map fun (more, r) => (max height more, r)
              else .ok (height, rest)
termination_by structural fuel => fuel

def readTargets : Nat → Nat → List Token → Parsed (List Nat)
  | 0, _, _ => .error .malformed
  | fuel + 1, room, ts =>
    let starred := startsWith (sym "*") ts
    (readBinary fuel room (if starred then ts.drop 1 else ts)).bind fun (t, rest) =>
      let height := if starred then t.height + 1 else t.height
      if startsWith (sym ",") rest then
        if startsWith (word "in") (rest.drop 1) then .ok ([height, 0], rest.drop 1)
        else (readTargets fuel room (rest.drop 1)).map fun (more, r) => (height :: more, r)
      else .ok ([height], rest)
termination_by structural fuel => fuel

def readConditions : Nat → Nat → List Token → Parsed Nat
  | 0, _, _ => .error .malformed
  | fuel + 1, room, ts =>
    if startsWith (word "if") ts then
      (readJoined fuel room .disjunction (ts.drop 1)).bind fun (t, rest) =>
        (readConditions fuel room rest).map fun (more, r) => (max t.height more, r)
    else .ok (0, ts)
termination_by structural fuel => fuel

def readAtom : Nat → Nat → List Token → Parsed Term
  | 0, _, _ => .error .malformed
  | fuel + 1, room, ts =>
    match ts with
    | .number k :: rest => .ok (.number k, rest)
    | .symbol ['.', '.', '.'] :: rest => .ok (.ellipsis, rest)
    | .name n :: rest =>
      match String.ofList n with
      | "None" => .ok (.none, rest)
      | "True" => .ok (.bool, rest)
      | "False" => .ok (.bool, rest)
      | _ => if isKeyword n then .error .malformed else .ok (.name n, rest)
    | .symbol ['('] :: .symbol [')'] :: rest => .ok (.tuple [], rest)
    | .symbol ['('] :: rest =>
      deeper bracketLevels room fun room =>
        if startsWith (word "yield") rest then readYield fuel room (rest.drop 1)
        else
          (readSequence fuel room rest).bind fun ((items, form), after) =>
            if startsWith (sym "*") rest && form = .single then .error .malformed
            else (expect (sym ")") after).map fun r =>
              (match items, form with
                | [a], .single => a
                | [a], .generated => a
                | _, _ => .tuple items, r)
    | .symbol ['['] :: .symbol [']'] :: rest => .ok (.list [], rest)
    | .symbol ['['] :: rest =>
      deeper bracketLevels room fun room =>
        (readSequence fuel room rest).bind fun ((items, form), rest) =>
          (expect (sym "]") rest).map fun r =>
            (match items, form with
              | [a], .generated => a
              | _, _ => .list items, r)
    | .symbol ['\x7b'] :: .symbol ['\x7d'] :: rest => .ok (.dict [], rest)
    | .symbol ['\x7b'] :: rest => deeper bracketLevels room fun room => readBraces fuel room rest
    | _ => joinQuoted ts
termination_by structural fuel => fuel

/-- What is handed out of a generator, from behind the word for that on, and a closing bracket. -/
def readYield : Nat → Nat → List Token → Parsed Term
  | 0, _, _ => .error .malformed
  | fuel + 1, room, ts =>
    if startsWith (sym ")") ts then .ok (.compound 0, ts.drop 1)
    else if startsWith (word "from") ts then
      (readTest fuel room (ts.drop 1)).bind fun (t, rest) =>
        (expect (sym ")") rest).map fun r => (.compound (t.height + 1), r)
    else
      (readSequence fuel room ts).bind fun ((items, form), rest) =>
        let height : Nat := match items, form with
          | [a], .single => a.height + 1
          | _, _ => heightOver items + 1
        if form = .generated then .error .malformed
        else (expect (sym ")") rest).map fun r => (.compound height, r)
termination_by structural fuel => fuel

def readSequence : Nat → Nat → List Token → Parsed (List Term × Form)
  | 0, _, _ => .error .malformed
  | fuel + 1, room, ts =>
    let starred := startsWith (sym "*") ts
    let item : Parsed Term :=
      if starred then (readBinary fuel room (ts.drop 1)).map fun (t, r) => (.compound (t.height + 1), r)
      else readNamed fuel room ts
    item.bind fun (a, rest) => readMore fuel room starred a rest
termination_by structural fuel => fuel

def readMore : Nat → Nat → Bool → Term → List Token → Parsed (List Term × Form)
  | 0, _, _, _, _ => .error .malformed
  | fuel + 1, room, starred, a, rest =>
    if startsClause rest then
      if starred then .error .malformed
      else (readClauses fuel room rest).map fun (h, r) => (([.compound (max a.height h + 1)], .generated), r)
    else if startsWith (sym ",") rest then
      if closesHere (rest.drop 1) then .ok (([a], .several), rest.drop 1)
      else
        (readSequence fuel room (rest.drop 1)).bind fun ((items, form), r) =>
          if form = .generated then .error .malformed else .ok ((a :: items, .several), r)
    else .ok (([a], .single), rest)
termination_by structural fuel => fuel

def readBraces : Nat → Nat → List Token → Parsed Term
  | 0, _, _ => .error .malformed
  | fuel + 1, room, ts =>
    let dict (first : Option Term) (ts : List Token) : Parsed Term :=
      (readEntries fuel room true first ts).map fun ((entries, form), r) =>
        (match entries, form with
          | [(a, _)], .generated => a
          | _, _ => .dict entries, r)
    let set (items : Parsed (List Term × Form)) : Parsed Term :=
      items.map fun ((items, form), r) =>
        (match items, form with
          | [a], .generated => a
          | _, _ => .set items, r)
    let content : Parsed Term :=
      if startsWith (sym "**") ts then dict none ts
      else if startsWith (sym "*") ts || bindsName ts then set (readSequence fuel room ts)
      else
        (readTest fuel room ts).bind fun (a, rest) =>
          if startsWith (sym ":") rest then dict (some a) rest else set (readMore fuel room false a rest)
    content.bind fun (t, rest) => (expect (sym "\x7d") rest).map fun r => (t, r)
termination_by structural fuel => fuel

/-- The entries of a dictionary; the key of the first may have been read before. -/
def readEntries : Nat → Nat → Bool → Option Term → List Token → Parsed (List (Term × Term) × Form)
  | 0, _, _, _, _ => .error .malformed
  | fuel + 1, room, first, key, ts =>
    let value (k : Term) (ts : List Token) : Parsed (Term × Term) :=
      (expect (sym ":") ts).bind fun rest => (readTest fuel room rest).map fun (v, r) => ((k, v), r)
    let spread : Bool := key.isNone && startsWith (sym "**") ts
    let entry : Parsed (Term × Term) :=
      match key with
      | some k => value k ts
      | none =>
        if spread then (readBinary fuel room (ts.drop 1)).map fun (t, r) => ((.compound 0, .compound t.height), r)
        else (readTest fuel room ts).bind fun (k, rest) => value k rest
    entry.bind fun ((k, v), rest) =>
      if startsClause rest then
        if first && !spread then
          (readClauses fuel room rest).map fun (h, r) =>
            (([(.compound (max (max k.height v.height) h + 1), .none)], .generated), r)
        else .error .malformed
      else if startsWith (sym ",") rest then
        if startsWith (sym "\x7d") (rest.drop 1) then .ok (([(k, v)], .several), rest.drop 1)
        else
          (readEntries fuel room false none (rest.drop 1)).map fun ((entries, _), r) => (((k, v) :: entries, .several), r)
      else .ok (([(k, v)], .single), rest)
termination_by structural fuel => fuel

end

def fuelFor (ts : List Token) : Nat := 24 * ts.length + 24

/-- Expressions with commas between them make a tuple. -/
def readItems : Nat → Nat → List Token → Parsed (List Term × Form)
  | 0, _, _ => .error .malformed
  | fuel + 1, room, ts =>
    (readTest (fuelFor ts) room ts).bind fun (a, rest) =>
      if startsWith (sym ",") rest then
        match rest.drop 1 with
        | [] => .ok (([a], .several), [])
        | .newline :: more => .ok (([a], .several), .newline :: more)
        | more => (readItems fuel room more).map fun ((items, _), r) => ((a :: items, .several), r)
      else .ok (([a], .single), rest)

/-- The term of the tokens. Blanks at the start of a line are at fault where the text before them is whole. -/
def readTokens (room : Nat) (ts : List Token) : Lexed Term :=
  if ts = [.indent] then .error .indented
  else
    (readItems (ts.length + 1) room ts).bind fun ((items, form), rest) =>
      match rest.dropWhile (· == .newline) with
      | [] =>
        match items, form with
        | [a], .single => .ok a
        | _, _ => .ok (.tuple items)
      | [.indent] => .error .indented
      | _ => .error .malformed

def readTerm (depths : Depths) (text : List Char) : Lexed Term :=
  (tokens text).bind fun ts => (readTokens depths.parts ts).bind fun t =>
    if t.height ≤ depths.terms then .ok t else .error (.tooDeep .term)

end EvalSession.Literal
