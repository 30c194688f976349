import CallLog.Expression.Literal
import CallLog.Text.NormalForm

/-!
# The grammar of expressions

`Grammar.read?` gives the expression that some characters are, as far as their form goes. What the
form does not say is said by `CallLog.Expression.Scope`.

Every level of the grammar is a parser on tokens. A part that may hold any expression again is read
by one of the `Parsers`, so that no level mentions itself; `Grammar.parsers` closes the circle. Each
time the circle is gone round a token is read, so the length of the text bounds how often that
happens.
-/

namespace CallLog

namespace Expression

/-- A parser for a part of an expression: what it makes of some tokens, and the tokens that are
left. -/
abbrev Parser := List Token → Option (Expression × List Token)

/-- The parsers for the parts of an expression that may hold any expression again. -/
structure Parsers where
  expression : Parser
  /-- operands of `or` and `and` -/
  disjunction : Parser
  negation : Parser
  /-- operands of comparisons -/
  operand : Parser
  factor : Parser
  primary : Parser
  /-- the source of a field of a text -/
  source : List Char → Option Expression

namespace Grammar

/-! ## Tokens and names -/

/-- The words that are no names. -/
def keywords : List String :=
  ["None", "True", "False", "and", "as", "assert", "async", "await", "break", "class", "continue",
   "def", "del", "elif", "else", "except", "finally", "for", "from", "global", "if", "import", "in",
   "is", "lambda", "nonlocal", "not", "or", "pass", "raise", "return", "try", "while", "with",
   "yield"]

/-- The name that a word is. -/
def name? (w : String) : Option String :=
  if keywords.contains w then none else some (String.ofList (Text.normalForm w.toList))

/-- The tokens after a symbol. -/
def symbol (s : String) : List Token → Option (List Token)
  | .symbol t :: ts => if t = s then some ts else none
  | _ => none

/-- The tokens after a keyword. -/
def keyword (w : String) : List Token → Option (List Token)
  | .word v :: ts => if v = w then some ts else none
  | _ => none

/-- Whether a symbol comes next. -/
def atSymbol (s : String) (ts : List Token) : Bool :=
  (symbol s ts).isSome

/-- Whether the loops of a comprehension come next. -/
def atClauses (ts : List Token) : Bool :=
  (keyword "for" ts).isSome || (keyword "async" ts).isSome

/-- A name and the tokens after it. -/
def nameFirst : List Token → Option (String × List Token)
  | .word w :: ts => (name? w).map fun n => (n, ts)
  | _ => none

/-- The name in front of a symbol, and the tokens after the symbol. -/
def nameBefore (s : String) (ts : List Token) : Option (String × List Token) := do
  let (n, ts) ← nameFirst ts
  return (n, ← symbol s ts)

/-! ## Lists of parts -/

/-- Parts between commas up to a closing symbol, and the tokens after it; a comma may follow the
last part. The number bounds the number of parts. -/
def itemsUpTo (item : Parser) (close : String) : Nat → List Token →
    Option (List Expression × List Token)
  | 0, _ => none
  | n + 1, ts =>
    match symbol close ts with
    | some ts => some ([], ts)
    | none => do
      let (e, ts) ← item ts
      match symbol "," ts with
      | some ts => do
        let (es, ts) ← itemsUpTo item close n ts
        return (e :: es, ts)
      | none => return ([e], ← symbol close ts)

/-- Operands joined by operators, from the left. -/
def chain (operand : Parser) (op? : List Token → Option (BinaryOperator × List Token)) :
    Nat → Expression → Parser
  | 0, e, ts => some (e, ts)
  | n + 1, e, ts =>
    match op? ts with
    | some (op, ts) => do
      let (f, ts) ← operand ts
      chain operand op? n (.binary op e f) ts
    | none => some (e, ts)

/-- Operands after a keyword, as often as it comes. -/
def repeated (operand : Parser) (word : String) : Nat → List Token →
    Option (List Expression × List Token)
  | 0, ts => some ([], ts)
  | n + 1, ts =>
    match keyword word ts with
    | some ts => do
      let (e, ts) ← operand ts
      let (es, ts) ← repeated operand word n ts
      return (e :: es, ts)
    | none => some ([], ts)

/-! ## Texts -/

mutual

/-- A part of a text with fields. -/
def ofPart (p : Parsers) : TextPart → Option Expression
  | .literal cs => some (.constant (.text (String.ofList cs)))
  | .field source conversion format => do
    return .shown (← p.source source) conversion (← ofParts p format)

/-- Some parts of a text with fields. -/
def ofParts (p : Parsers) : List TextPart → Option (List Expression)
  | [] => some []
  | part :: parts => do return (← ofPart p part) :: (← ofParts p parts)

end

/-- The texts that come next. -/
def textsFirst : List Token → List (TextStyle × List Char) × List Token
  | .text style body :: ts =>
    let (texts, ts) := textsFirst ts
    ((style, body) :: texts, ts)
  | ts => ([], ts)

/-- The parts of a text that is no sequence of bytes. -/
def textParts (p : Parsers) (style : TextStyle) (body : List Char) : Option (List Expression) :=
  if style.isJoined then (Literal.parts? style.isRaw body).bind (ofParts p)
  else (Literal.characters? style body).map fun cs => [.constant (.text (String.ofList cs))]

/-- The characters of parts that have no fields. -/
def plainText : List Expression → String
  | .constant (.text s) :: es => s ++ plainText es
  | _ :: es => plainText es
  | [] => ""

/-- Texts that follow each other, as one. Bytes and characters do not mix. -/
def ofTexts (p : Parsers) (texts : List (TextStyle × List Char)) : Option Expression :=
  if texts.all fun t => t.1.isBytes then do
    let bodies ← texts.mapM fun (style, body) => Literal.characters? style body
    return .constant (.bytes (bodies.flatten.map fun c => UInt8.ofNat c.toNat))
  else if texts.any fun t => t.1.isBytes then none
  else do
    let pieces ← texts.mapM fun (style, body) => textParts p style body
    if texts.any fun t => t.1.isJoined then return .joined pieces.flatten
    else return .constant (.text (plainText pieces.flatten))

/-! ## Comprehensions -/

/-- A target of a loop. -/
def target (p : Parsers) (ts : List Token) : Option (Expression × List Token) :=
  match symbol "*" ts with
  | some ts => (p.primary ts).map fun (e, ts) => (.starred e, ts)
  | none => p.primary ts

/-- The targets of a loop, of which there is one, or some with commas. The truth value says whether
a comma was read. -/
def targetsWithin (p : Parsers) : Nat → Bool → List Token →
    Option ((List Expression × Bool) × List Token)
  | 0, _, _ => none
  | n + 1, hasComma, ts =>
    if hasComma && (keyword "in" ts).isSome then some (([], true), ts)
    else do
      let (e, ts) ← target p ts
      match symbol "," ts with
      | some ts => do
        let ((es, _), ts) ← targetsWithin p n true ts
        return ((e :: es, true), ts)
      | none => return (([e], hasComma), ts)

/-- What a loop gives its items to. -/
def targets (p : Parsers) (ts : List Token) : Option (Expression × List Token) := do
  match ← targetsWithin p (ts.length + 1) false ts with
  | (([e], false), ts) => return (e, ts)
  | ((es, _), ts) => return (.tuple es, ts)

/-- The loops of a comprehension. -/
def clauses (p : Parsers) : Nat → List Token → Option (List Expression × List Token)
  | 0, _ => none
  | n + 1, ts =>
    if atClauses ts then do
      let isAsync := (keyword "async" ts).isSome
      let ts ← keyword "for" ((keyword "async" ts).getD ts)
      let (t, ts) ← targets p ts
      let (iterable, ts) ← p.disjunction (← keyword "in" ts)
      let (conditions, ts) ← repeated p.disjunction "if" ts.length ts
      let (more, ts) ← clauses p n ts
      return (.clause isAsync t iterable conditions :: more, ts)
    else some ([], ts)

/-- A comprehension whose element is read, up to a closing symbol. -/
def comprehensionAfter (p : Parsers) (kind : ComprehensionKind) (close : String) (e : Expression)
    (ts : List Token) : Option (Expression × List Token) := do
  match ← clauses p (ts.length + 1) ts with
  | (.clause isAsync t iterable conditions :: more, ts) =>
    return (.comprehension kind e iterable isAsync t conditions more, ← symbol close ts)
  | _ => none

/-! ## Parts in brackets -/

/-- An expression that may be given a name. -/
def naming (p : Parsers) (ts : List Token) : Option (Expression × List Token) :=
  match nameBefore ":=" ts with
  | some (n, ts) => (p.expression ts).map fun (e, ts) => (.assign n e, ts)
  | none => p.expression ts

/-- An expression that may be given a name, or the items of a container. -/
def item (p : Parsers) (ts : List Token) : Option (Expression × List Token) :=
  match symbol "*" ts with
  | some ts => (p.operand ts).map fun (e, ts) => (.starred e, ts)
  | none => naming p ts

/-- An expression, or the items of a container. -/
def plainItem (p : Parsers) (ts : List Token) : Option (Expression × List Token) :=
  match symbol "*" ts with
  | some ts => (p.operand ts).map fun (e, ts) => (.starred e, ts)
  | none => p.expression ts

/-- What is handed out after `yield`, up to the closing bracket. -/
def yielded (p : Parsers) (ts : List Token) : Option (Expression × List Token) :=
  match keyword "from" ts with
  | some ts => do
    let (e, ts) ← p.expression ts
    return (.yieldFrom e, ← symbol ")" ts)
  | none =>
    match symbol ")" ts with
    | some ts => some (.yield (.constant .nothing), ts)
    | none => do
      let (e, rest) ← plainItem p ts
      match symbol "," rest, e with
      | some rest, e => do
        let (es, rest) ← itemsUpTo (plainItem p) ")" rest.length rest
        return (.yield (.tuple (e :: es)), rest)
      | none, .starred _ => none
      | none, e => return (.yield e, ← symbol ")" rest)

/-- What follows an opening round bracket: an expression, a tuple or a generator. -/
def inRound (p : Parsers) (ts : List Token) : Option (Expression × List Token) :=
  match symbol ")" ts, keyword "yield" ts with
  | some ts, _ => some (.tuple [], ts)
  | none, some ts => yielded p ts
  | none, none => do
    let (e, rest) ← item p ts
    match symbol "," rest, e with
    | some rest, e => do
      let (es, rest) ← itemsUpTo (item p) ")" rest.length rest
      return (.tuple (e :: es), rest)
    | none, .starred _ => none
    | none, e =>
      if atClauses rest then comprehensionAfter p .generator ")" e rest
      else return (e, ← symbol ")" rest)

/-- The items up to a closing symbol after a first one, or a comprehension of it. -/
def display (p : Parsers) (kind : ComprehensionKind) (whole : List Expression → Expression)
    (close : String) (e : Expression) (ts : List Token) : Option (Expression × List Token) :=
  match symbol "," ts, e with
  | some ts, e => do
    let (es, ts) ← itemsUpTo (item p) close ts.length ts
    return (whole (e :: es), ts)
  | none, .starred _ => do return (whole [e], ← symbol close ts)
  | none, e =>
    if atClauses ts then comprehensionAfter p kind close e ts
    else do return (whole [e], ← symbol close ts)

/-- What follows an opening square bracket: a list. -/
def inSquare (p : Parsers) (ts : List Token) : Option (Expression × List Token) :=
  match symbol "]" ts with
  | some ts => some (.list [], ts)
  | none => do
    let (e, ts) ← item p ts
    display p .list .list "]" e ts

/-- An entry of a dictionary. -/
def entry (p : Parsers) (ts : List Token) : Option (Expression × List Token) :=
  match symbol "**" ts with
  | some ts => (p.operand ts).map fun (e, ts) => (.spread e, ts)
  | none => do
    let (k, ts) ← p.expression ts
    let (v, ts) ← p.expression (← symbol ":" ts)
    return (.pair k v, ts)

/-- The entries after the first one. -/
def entriesAfter (p : Parsers) (e : Expression) (ts : List Token) :
    Option (Expression × List Token) :=
  match symbol "," ts with
  | some ts => do
    let (es, ts) ← itemsUpTo (entry p) "\x7d" ts.length ts
    return (.dict (e :: es), ts)
  | none => do return (.dict [e], ← symbol "\x7d" ts)

/-- What follows an opening curly bracket: a dictionary or a set. -/
def inCurly (p : Parsers) (ts : List Token) : Option (Expression × List Token) :=
  if atSymbol "\x7d" ts then some (.dict [], ts.drop 1)
  else if atSymbol "**" ts then do
    let (e, ts) ← entry p ts
    entriesAfter p e ts
  else if atSymbol "*" ts || (nameBefore ":=" ts).isSome then do
    let (e, ts) ← item p ts
    display p .set .set "\x7d" e ts
  else do
    let (e, ts) ← p.expression ts
    match symbol ":" ts with
    | none => display p .set .set "\x7d" e ts
    | some ts => do
      let (v, ts) ← p.expression ts
      if atClauses ts then comprehensionAfter p .dict "\x7d" (.pair e v) ts
      else entriesAfter p (.pair e v) ts

/-! ## Subscripts and calls -/

/-- A bound of a range, which may be left out. -/
def bound (p : Parsers) (ts : List Token) : Option (Expression × List Token) :=
  if [":", ",", "]"].any fun s => atSymbol s ts then some (.constant .nothing, ts)
  else p.expression ts

/-- A range whose start is read and whose first colon comes next. -/
def rangeAfter (p : Parsers) (start : Expression) (ts : List Token) :
    Option (Expression × List Token) := do
  let (stop, ts) ← bound p (← symbol ":" ts)
  match symbol ":" ts with
  | some ts => do
    let (stride, ts) ← bound p ts
    return (.slice start stop stride, ts)
  | none => return (.slice start stop (.constant .nothing), ts)

/-- An index or a range. -/
def index (p : Parsers) (ts : List Token) : Option (Expression × List Token) :=
  if atSymbol ":" ts then rangeAfter p (.constant .nothing) ts
  else if atSymbol "*" ts then
    (p.expression (ts.drop 1)).map fun (e, ts) => (.starred e, ts)
  else if (nameBefore ":=" ts).isSome then naming p ts
  else do
    let (e, ts) ← p.expression ts
    if atSymbol ":" ts then rangeAfter p e ts else return (e, ts)

/-- The index that follows an opening square bracket after a value. -/
def subscriptIndex (p : Parsers) (ts : List Token) : Option (Expression × List Token) := do
  let (e, ts) ← index p ts
  match symbol "," ts, e with
  | some ts, e => do
    let (es, ts) ← itemsUpTo (index p) "]" ts.length ts
    return (.tuple (e :: es), ts)
  | none, .starred _ => return (.tuple [e], ← symbol "]" ts)
  | none, e => return (e, ← symbol "]" ts)

/-- What may come among the arguments of a call. -/
inductive Phase where
  | positional
  /-- after an argument by name -/
  | named
  /-- after the entries of a dictionary -/
  | spread
  deriving DecidableEq

/-- An argument of a call, and what may come after it. -/
def argument (p : Parsers) (phase : Phase) (ts : List Token) :
    Option ((Expression × Phase) × List Token) :=
  match symbol "*" ts, symbol "**" ts, nameBefore "=" ts with
  | some ts, _, _ => do
    let (e, ts) ← p.expression ts
    if phase = .spread then none else return ((.starred e, phase), ts)
  | none, some ts, _ => do
    let (e, ts) ← p.expression ts
    return ((.spread e, .spread), ts)
  | none, none, some (n, ts) => do
    let (e, ts) ← p.expression ts
    return ((.named n e, if phase = .spread then .spread else .named), ts)
  | none, none, none => do
    let (e, ts) ← naming p ts
    if phase = .positional then return ((e, phase), ts) else none

/-- An argument of a call with those after it, up to the closing bracket. -/
def argumentsAfter (p : Parsers) : Nat → Phase → Expression → List Token →
    Option (List Expression × List Token)
  | 0, _, _, _ => none
  | n + 1, phase, e, ts =>
    match symbol ")" ts, symbol "," ts with
    | some ts, _ => some ([e], ts)
    | none, none => none
    | none, some ts =>
      if atSymbol ")" ts then some ([e], ts.drop 1)
      else do
        let ((f, phase), ts) ← argument p phase ts
        let (es, ts) ← argumentsAfter p n phase f ts
        return (e :: es, ts)

/-- Whether an argument may be the element of a generator that is the only argument. -/
def isElement : Expression → Bool
  | .starred _ | .spread _ | .named .. => false
  | _ => true

/-- What follows the opening bracket of a call: arguments, or the parts of a generator. -/
def arguments (p : Parsers) (ts : List Token) : Option (List Expression × List Token) :=
  match symbol ")" ts with
  | some ts => some ([], ts)
  | none => do
    let ((e, phase), ts) ← argument p .positional ts
    if atClauses ts && isElement e then
      let (g, ts) ← comprehensionAfter p .generator ")" e ts
      return ([g], ts)
    else argumentsAfter p (ts.length + 1) phase e ts

/-! ## Atoms and what follows them -/

/-- A name, a constant, a text, or something in brackets. -/
def atom (p : Parsers) : Parser
  | .word w :: ts =>
    if w = "None" then some (.constant .nothing, ts)
    else if w = "True" then some (.constant (.truth true), ts)
    else if w = "False" then some (.constant (.truth false), ts)
    else (name? w).map fun n => (.name n, ts)
  | .number c :: ts => some (.constant c, ts)
  | .text style body :: ts =>
    let (texts, rest) := textsFirst ts
    (ofTexts p ((style, body) :: texts)).map fun e => (e, rest)
  | .symbol s :: ts =>
    match s with
    | "..." => some (.constant .ellipsis, ts)
    | "(" => inRound p ts
    | "[" => inSquare p ts
    | "\x7b" => inCurly p ts
    | _ => none
  | _ => none

/-- The members, subscripts and calls that follow an expression. -/
def trailers (p : Parsers) : Nat → Expression → Parser
  | 0, e, ts => some (e, ts)
  | n + 1, e, ts =>
    match ts with
    | .symbol "." :: ts => do
      let (field, ts) ← nameFirst ts
      trailers p n (.member e field) ts
    | .symbol "[" :: ts => do
      let (i, ts) ← subscriptIndex p ts
      trailers p n (.subscript e i) ts
    | .symbol "(" :: ts => do
      let (given, ts) ← arguments p ts
      trailers p n (.call e given) ts
    | ts => some (e, ts)

/-- An atom with its members, subscripts and calls. -/
def primary (p : Parsers) (ts : List Token) : Option (Expression × List Token) := do
  let (e, rest) ← atom p ts
  trailers p rest.length e rest

/-! ## Operators -/

/-- The operator that comes next, if it is one of some. -/
def operator (ops : List (String × BinaryOperator)) : List Token →
    Option (BinaryOperator × List Token)
  | .symbol s :: ts => (ops.lookup s).map fun op => (op, ts)
  | _ => none

/-- A power, whose right operand may have a sign. -/
def power (p : Parsers) (ts : List Token) : Option (Expression × List Token) := do
  let (e, rest) ← match keyword "await" ts with
    | some ts => (primary p ts).map fun (e, ts) => (.wait e, ts)
    | none => primary p ts
  match symbol "**" rest with
  | some rest => do
    let (f, rest) ← p.factor rest
    return (.binary .power e f, rest)
  | none => return (e, rest)

/-- The operator in front of an operand that a symbol is. -/
def sign? : String → Option UnaryOperator
  | "+" => some .plus
  | "-" => some .minus
  | "~" => some .invert
  | _ => none

/-- An operand of a product, which may have a sign. -/
def factor (p : Parsers) (ts : List Token) : Option (Expression × List Token) :=
  match ts with
  | .symbol s :: rest =>
    match sign? s with
    | some op => (p.factor rest).map fun (e, rest) => (.unary op e, rest)
    | none => power p ts
  | ts => power p ts

/-- The operators between operands, those that bind the tightest first. -/
def levels : List (List (String × BinaryOperator)) :=
  [[("*", .multiply), ("/", .divide), ("//", .floorDivide), ("%", .remainder),
    ("@", .matrixMultiply)],
   [("+", .add), ("-", .subtract)],
   [("<<", .shiftLeft), (">>", .shiftRight)],
   [("&", .and)],
   [("^", .xor)],
   [("|", .or)]]

/-- A parser for operands that are joined by some operators. -/
def joinedBy (operand : Parser) (ops : List (String × BinaryOperator)) : Parser := fun ts => do
  let (e, rest) ← operand ts
  chain operand (operator ops) rest.length e rest

/-- An operand of a comparison. -/
def operand (p : Parsers) : Parser :=
  levels.foldl joinedBy (factor p)

/-- The comparison that comes next. -/
def comparison? : List Token → Option (Comparison × List Token)
  | .symbol s :: ts =>
    let table : List (String × Comparison) := [("==", .equal), ("!=", .unequal), ("<", .less),
      ("<=", .lessOrEqual), (">", .greater), (">=", .greaterOrEqual)]
    (table.lookup s).map fun c => (c, ts)
  | .word "in" :: ts => some (.isIn, ts)
  | .word "not" :: .word "in" :: ts => some (.notIn, ts)
  | .word "is" :: .word "not" :: ts => some (.notSame, ts)
  | .word "is" :: ts => some (.same, ts)
  | _ => none

/-- The comparisons that come next, with their right operands. -/
def comparisons (p : Parsers) : Nat → List Token →
    Option (List (Comparison × Expression) × List Token)
  | 0, ts => some ([], ts)
  | n + 1, ts =>
    match comparison? ts with
    | some (c, ts) => do
      let (e, ts) ← operand p ts
      let (cs, ts) ← comparisons p n ts
      return ((c, e) :: cs, ts)
    | none => some ([], ts)

/-- A comparison, or the negation of one. -/
def negation (p : Parsers) (ts : List Token) : Option (Expression × List Token) :=
  match keyword "not" ts with
  | some ts => (p.negation ts).map fun (e, ts) => (.unary .negate e, ts)
  | none => do
    let (e, rest) ← operand p ts
    match ← comparisons p rest.length rest with
    | ([], rest) => return (e, rest)
    | (cs, rest) => return (.compare e (cs.map Prod.fst) (cs.map Prod.snd), rest)

/-- Operands joined by a keyword. -/
def joinedByWord (operand : Parser) (word : String) (whole : List Expression → Expression) :
    Parser := fun ts => do
  let (e, rest) ← operand ts
  match ← repeated operand word rest.length rest with
  | ([], rest) => return (e, rest)
  | (es, rest) => return (whole (e :: es), rest)

/-- Operands joined by `and`, these joined by `or`. -/
def disjunction (p : Parsers) : Parser :=
  joinedByWord (joinedByWord (negation p) "and" .all) "or" .any

/-! ## Anonymous functions -/

/-- The parameters that are read, and what they say about those to come. -/
structure ParamState where
  params : List LambdaParam := []
  defaults : List Expression := []
  hasSlash : Bool := false
  hasStar : Bool := false
  /-- whether a star asks for a parameter by name -/
  isPending : Bool := false

/-- The state after a parameter. -/
def ParamState.add (st : ParamState) (n : String) (kind : ParamKind)
    (default : Option Expression) : ParamState :=
  { st with
    params := st.params ++ [⟨n, kind, default.isSome⟩]
    defaults := st.defaults ++ default.toList
    isPending := false }

/-- The state after a mark that ends the parameters by position only. -/
def ParamState.slash? (st : ParamState) : Option ParamState :=
  if st.params.isEmpty || st.hasSlash || st.hasStar then none
  else some { st with
    hasSlash := true
    params := st.params.map fun p => { p with kind := .positional } }

/-- A parameter by position or by name. -/
def plainParam (p : Parsers) (st : ParamState) (ts : List Token) :
    Option (ParamState × List Token) := do
  let (n, ts) ← nameFirst ts
  let kind : ParamKind := if st.hasStar then .named else .either
  match symbol "=" ts with
  | some ts => do
    let (e, ts) ← p.expression ts
    return (st.add n kind (some e), ts)
  | none => if !st.hasStar && !st.defaults.isEmpty then none else return (st.add n kind none, ts)

/-- The tokens after a comma, if there is one, or before the colon that ends the parameters. -/
def afterParam (ts : List Token) : Option (List Token) :=
  (symbol "," ts).orElse fun _ => if atSymbol ":" ts then some ts else none

/-- The parameters of an anonymous function up to the colon. -/
def paramsWithin (p : Parsers) :
    Nat → ParamState → List Token → Option (ParamState × List Token)
  | 0, _, _ => none
  | n + 1, st, ts =>
    match ts with
    | .symbol ":" :: ts => if st.isPending then none else some (st, ts)
    | .symbol "/" :: ts => do paramsWithin p n (← st.slash?) (← afterParam ts)
    | .symbol "*" :: .symbol "," :: ts =>
      if st.hasStar then none
      else paramsWithin p n { st with hasStar := true, isPending := true } ts
    | .symbol "*" :: ts => do
      let (w, ts) ← nameFirst ts
      if st.hasStar then none
      else paramsWithin p n { st.add w .rest none with hasStar := true } (← afterParam ts)
    | .symbol "**" :: ts => do
      let (w, ts) ← nameFirst ts
      let ts ← symbol ":" (← afterParam ts)
      if st.isPending then none else return (st.add w .others none, ts)
    | ts => do
      let (st, ts) ← plainParam p st ts
      paramsWithin p n st (← afterParam ts)

/-! ## Expressions -/

/-- An anonymous function, a condition with two outcomes, or operands. -/
def expression (p : Parsers) (ts : List Token) : Option (Expression × List Token) :=
  match keyword "lambda" ts with
  | some ts => do
    let (st, ts) ← paramsWithin p (ts.length + 1) {} ts
    let (e, ts) ← p.expression ts
    return (.lambda st.params st.defaults e, ts)
  | none => do
    let (e, ts) ← disjunction p ts
    match keyword "if" ts with
    | none => return (e, ts)
    | some ts => do
      let (test, ts) ← disjunction p ts
      let (no, ts) ← p.expression (← keyword "else" ts)
      return (.conditional test e no, ts)

/-- The expression that a text in round brackets is. -/
def inBrackets (p : Parsers) (source : List Char) : Option Expression := do
  let (e, ts) ← p.expression (← Token.scan ('(' :: source ++ [')']))
  if ts.isEmpty then return e else none

/-- The parsers for texts of a length. -/
def parsers : Nat → Parsers
  | 0 =>
    let failing : Parser := fun _ => none
    ⟨failing, failing, failing, failing, failing, failing, fun _ => none⟩
  | n + 1 =>
    let p := parsers n
    ⟨expression p, disjunction p, negation p, operand p, factor p, primary p, inBrackets p⟩

/-- Whether only ends of lines are left. -/
def isOver (ts : List Token) : Bool :=
  ts.all (· == .newline)

/-- Expressions between commas; more than one, or one with a comma, are a tuple. -/
def whole (p : Parsers) (ts : List Token) : Option Expression := do
  let (e, ts) ← p.expression ts
  match symbol "," ts with
  | none => if isOver ts then return e else none
  | some ts => more (ts.length + 1) [e] ts
where
  /-- The expressions after a comma, given those before it. -/
  more : Nat → List Expression → List Token → Option Expression
    | 0, _, _ => none
    | n + 1, es, ts =>
      if isOver ts then some (.tuple es)
      else do
        let (e, ts) ← p.expression ts
        match symbol "," ts with
        | some ts => more n (es ++ [e]) ts
        | none => if isOver ts then return .tuple (es ++ [e]) else none

/-- The expression that some characters are, as far as their form goes. -/
def read? (cs : List Char) : Option Expression := do
  whole (parsers (2 * cs.length + 2)) (← Token.scan cs)

end Grammar

end Expression

end CallLog
