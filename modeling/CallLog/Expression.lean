import CallLog.ParamKind

/-!
# Expressions

An annotation may be written as text. The text is an expression of the language that the logged
programs are written in: names, constants, displays of containers, members, subscripts, calls,
operators, comprehensions and anonymous functions.

Where the parts of an expression have forms of their own, these are constructors too: the entries of
a dictionary are `pair` and `spread`, the arguments of a call are `starred`, `spread` and `named`,
the loops of a comprehension after its first one are `clause`, and the fields of a text with fields
are `shown`. They stand nowhere else.
-/

namespace CallLog

/-- A constant that is written out. -/
inductive Constant where
  | nothing
  | truth (b : Bool)
  | ellipsis
  | int (n : Nat)
  /-- a number with a fraction or an exponent -/
  | float
  /-- an imaginary number -/
  | imaginary
  | text (s : String)
  | bytes (bs : List UInt8)
  deriving Repr, DecidableEq

/-- An operator before its operand. -/
inductive UnaryOperator where
  | plus
  | minus
  | invert
  | negate
  deriving Repr, DecidableEq

/-- An operator between two operands. -/
inductive BinaryOperator where
  | or
  | xor
  | and
  | shiftLeft
  | shiftRight
  | add
  | subtract
  | multiply
  | divide
  | floorDivide
  | remainder
  | matrixMultiply
  | power
  deriving Repr, DecidableEq

/-- A comparison between two operands. -/
inductive Comparison where
  | equal
  | unequal
  | less
  | lessOrEqual
  | greater
  | greaterOrEqual
  | same
  | notSame
  | isIn
  | notIn
  deriving Repr, DecidableEq

/-- What a comprehension makes of its elements. -/
inductive ComprehensionKind where
  | generator
  | list
  | set
  | dict
  deriving Repr, DecidableEq

/-- A parameter of an anonymous function. -/
structure LambdaParam where
  name : String
  kind : ParamKind
  hasDefault : Bool := false
  deriving Repr, DecidableEq

/-- An expression that an annotation is written in. -/
inductive Expression where
  | constant (c : Constant)
  | name (n : String)
  | member (e : Expression) (field : String)
  | subscript (e index : Expression)
  /-- a range of indexes; a bound that is left out is the constant for nothing -/
  | slice (start stop stride : Expression)
  | tuple (items : List Expression)
  | list (items : List Expression)
  | set (items : List Expression)
  | dict (entries : List Expression)
  /-- an entry of a dictionary -/
  | pair (key value : Expression)
  /-- the items of another container in place of one item -/
  | starred (e : Expression)
  /-- the entries of another dictionary in place of one entry -/
  | spread (e : Expression)
  /-- an argument given by name -/
  | named (n : String) (e : Expression)
  | call (callee : Expression) (arguments : List Expression)
  | unary (op : UnaryOperator) (e : Expression)
  | binary (op : BinaryOperator) (a b : Expression)
  /-- the first operand that does not hold, or the last one -/
  | all (operands : List Expression)
  /-- the first operand that holds, or the last one -/
  | any (operands : List Expression)
  /-- comparisons of neighbours, all of which have to hold -/
  | compare (first : Expression) (comparisons : List Comparison) (operands : List Expression)
  | conditional (test yes no : Expression)
  | lambda (params : List LambdaParam) (defaults : List Expression) (body : Expression)
  /-- an element, which is a `pair` for a dictionary, for each turn of a loop over an iterable, of
  which some conditions admit some items, and of the further loops of some clauses -/
  | comprehension (kind : ComprehensionKind) (element iterable : Expression) (isAsync : Bool)
      (target : Expression) (conditions clauses : List Expression)
  /-- a further loop over the items of an iterable, of which some conditions admit some -/
  | clause (isAsync : Bool) (target iterable : Expression) (conditions : List Expression)
  /-- a value that is given a name on the way -/
  | assign (n : String) (e : Expression)
  /-- a text with fields -/
  | joined (parts : List Expression)
  /-- a field of a text: its value, how it is converted, and its format -/
  | shown (e : Expression) (conversion : Option Char) (format : List Expression)
  | wait (e : Expression)
  | yield (e : Expression)
  | yieldFrom (e : Expression)
  deriving Repr, Inhabited

end CallLog
