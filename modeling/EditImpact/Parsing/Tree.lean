/-!
Syntax trees as far as declarations need them: which nodes are functions, classes and bindings of a
name to a value, what their parts are called, and where each node stands in the text.
-/

namespace EditImpact.Parsing

/-- A stretch of a text: offsets of its first character and of the first one after it, and the
line of its first character, counted from one. -/
structure Span where
  start : Nat
  stop : Nat
  line : Nat
  deriving DecidableEq, Repr

/-- The part of a text that a span covers. -/
def Span.text (span : Span) (source : List Char) : List Char :=
  (source.drop span.start).take (span.stop - span.start)

inductive Kind where
  | function
  | arrow
  | classDefinition
  | binding
  | plain
  deriving DecidableEq, Repr

/-- The parts of a node that are looked up by name. -/
inductive Field where
  | name
  | params
  | returns
  | value
  deriving DecidableEq, Repr

inductive Tree where
  | node (kind : Kind) (field : Option Field) (span : Span) (children : List Tree)
  deriving Repr

namespace Tree

def kind : Tree → Kind
  | node kind _ _ _ => kind

def field : Tree → Option Field
  | node _ field _ _ => field

def span : Tree → Span
  | node _ _ span _ => span

def children : Tree → List Tree
  | node _ _ _ children => children

def withField (field : Field) : Tree → Tree
  | node kind _ span children => node kind (some field) span children

/-- The first child that is the given part. -/
def child? (tree : Tree) (field : Field) : Option Tree :=
  tree.children.find? fun child => child.field == some field

end Tree

end EditImpact.Parsing
