import SourceLint.Syntax.Token

/-!
# Syntax trees

A parsed program is a tree of nodes.  Every node has a label that says what it is, the stretch of text
it covers and its children in the order in which they are visited: what documents or marks a node
comes first, its parts follow in the order of the text, except that conditions on type parameters
precede everything that follows the parameters.

* **`NodeKind`** — the seventeen kinds of nodes that rules may look at.
* **`Label`** — one constructor for each of these kinds, with the facts that rules ask about, and
  `part` for every other piece of syntax.
* **`Node`** — the trees; `Node.kind?` is the kind of a node if it has one.
-/

namespace SourceLint.Syntax

/-! ### Names -/

/-- The arguments that may follow a name of a path. -/
inductive PathArguments where
  | absent
  /-- Arguments in angle brackets, or angle brackets that hold none. -/
  | angled (isEmpty : Bool)
  /-- The arguments and the result of a function type. -/
  | parenthesized
deriving DecidableEq, Inhabited

/-- One name of a path. -/
structure PathSegment where
  /-- The name as it is written, with the mark of a raw identifier. -/
  name : String
  arguments : PathArguments
deriving DecidableEq, Inhabited

/-- A path: names separated by double colons. -/
structure Path where
  /-- Whether a double colon precedes the first name. -/
  global : Bool
  /-- The names in the order of the text. -/
  segments : List PathSegment
deriving DecidableEq, Inhabited

namespace Path

/-- The last name of the path. -/
def lastName? (p : Path) : Option String :=
  p.segments.getLast?.map (·.name)

/-- The path is nothing but the given name. -/
def isName (p : Path) (name : String) : Bool :=
  !p.global && p.segments == [⟨name, .absent⟩]

/-- No name of the path has arguments. -/
def isPlain (p : Path) : Bool :=
  p.segments.all fun s => s.arguments == .absent

end Path

/-- A path that may be looked up in a type, as in `<T as Trait>::name`. -/
structure TypedPath where
  /-- Whether a type in angle brackets precedes the names. -/
  qualified : Bool
  path : Path
deriving DecidableEq, Inhabited

/-- An attribute. -/
structure Attribute where
  path : Path
  /-- The tokens between its brackets, if it has the form of a call. -/
  arguments : Option (List TokenTree)
deriving Inhabited

/-- A named part of a type: a field or an associated item. -/
structure Member where
  /-- The name as it is written; empty for a field without one. -/
  name : String
  /-- Where its visibility is written, if it has one. -/
  visibility : Option Span
deriving DecidableEq, Inhabited

/-- What an implementation says about itself before its body. -/
structure ImplHeader where
  /-- The trait, if there is one; the flag is set for a negative implementation. -/
  implemented : Option (Bool × Path)
  /-- The type, if it is written as a path. -/
  selfType : Option TypedPath
deriving DecidableEq, Inhabited

/-! ### Kinds -/

/-- The kinds of nodes that rules may look at. -/
inductive NodeKind where
  | module
  | struct
  | enum
  | union
  | trait
  | typeAlias
  | impl
  | function
  | implFunction
  | implConst
  | implType
  | field
  | call
  | methodCall
  | macroCall
  | closure
  | block
deriving DecidableEq, Inhabited

namespace NodeKind

/-- All kinds. -/
def all : List NodeKind :=
  [.module, .struct, .enum, .union, .trait, .typeAlias, .impl, .function, .implFunction, .implConst,
    .implType, .field, .call, .methodCall, .macroCall, .closure, .block]

/-- The short name of a kind. -/
def name : NodeKind → String
  | .module => "module"
  | .struct => "struct"
  | .enum => "enum"
  | .union => "union"
  | .trait => "trait"
  | .typeAlias => "type_alias"
  | .impl => "impl"
  | .function => "fn"
  | .implFunction => "impl_fn"
  | .implConst => "impl_const"
  | .implType => "impl_type"
  | .field => "field"
  | .call => "call"
  | .methodCall => "method_call"
  | .macroCall => "macro"
  | .closure => "closure"
  | .block => "block"

/-- The kind with the given short name. -/
def ofName? (text : String) : Option NodeKind :=
  all.find? fun k => k.name == text

end NodeKind

/-! ### Labels -/

/-- Operators between two expressions. -/
inductive BinaryOperator where
  | add | sub | mul | div | rem
  | and | or
  | bitXor | bitAnd | bitOr
  | shiftLeft | shiftRight
  | equal | less | atMost | notEqual | atLeast | greater
  /-- An arithmetic operator joined with an assignment. -/
  | update
deriving DecidableEq, Inhabited

/-- The forms of expressions other than calls and closures. -/
inductive ExpressionForm where
  | array
  | assignment
  | asyncBlock
  | awaited
  | binary (operator : BinaryOperator)
  | blockExpression
  | breakOut
  | cast
  | constBlock
  | continueOn
  | fieldAccess
  | forLoop
  | conditional
  | indexing
  | inferred
  | letCondition
  | literal
  | endlessLoop
  | macroUse
  | matching
  | parenthesized
  | path (path : TypedPath)
  | range
  | rawReference
  | reference
  | repetition
  | returning
  | structLiteral
  | propagation
  | tryBlock
  | tuple
  | unary
  | unsafeBlock
  | whileLoop
  | yielding
  /-- Syntax whose parts are not kept. -/
  | unstructured
deriving DecidableEq, Inhabited

/-- The forms of types. -/
inductive TypeForm where
  | array
  | bareFunction
  | implTrait
  | inferred
  | macroUse
  | never
  | parenthesized
  | path (path : TypedPath)
  | pointer
  | reference
  | slice
  /-- Bounds; `dyn` when they follow that word, `single` when there is exactly one and no plus. -/
  | traitObject (dyn single : Bool)
  | tuple
  | unstructured
deriving DecidableEq, Inhabited

/-- The forms of patterns. -/
inductive PatternForm where
  | identifier
  | constBlock
  | literal
  | macroUse
  | alternatives
  | parenthesized
  | path
  /-- A range with or without its bounds. -/
  | range (hasLower hasUpper : Bool)
  | reference
  | rest
  | slice
  | struct
  | tuple
  | tupleStruct
  | typed
  | wildcard
  | unstructured
deriving DecidableEq, Inhabited

/-- The forms of statements. -/
inductive StatementForm where
  | binding
  | item
  | expression
  | macroUse
deriving DecidableEq, Inhabited

/-- Pieces of syntax that are no node kind of their own. -/
inductive Part where
  | file
  | statements
  | attribute (content : Attribute)
  | statement (form : StatementForm)
  | expression (form : ExpressionForm)
  | type (form : TypeForm)
  | pattern (form : PatternForm)
  /-- An item, or an item in the body of a trait, an implementation or a foreign block. -/
  | item
  /-- The items of a body. -/
  | items
  /-- The fields of a struct, a union or a variant. -/
  | fields
  | variant
  /-- Parameters, bounds and conditions. -/
  | generics
  /-- The head of a function. -/
  | signature
  | path
  | callee
  | receiver
  | arguments
  /-- The expression that gives a constant or a closure its value. -/
  | value
  | arm
deriving Inhabited

/-- What a node is. -/
inductive Label where
  | module (name : String)
  | struct (name : String)
  | enum (name : String)
  | union (name : String)
  | trait (name : String)
  | typeAlias (name : String)
  | impl (header : ImplHeader)
  | function (name : String)
  /-- A function in an implementation; `receiverOnly` when it has no parameter besides the receiver. -/
  | implFunction (member : Member) (receiverOnly : Bool)
  | implConst (member : Member)
  | implType (member : Member)
  | field (member : Member)
  /-- A call, with its callee if that is a path. -/
  | call (callee : Option TypedPath)
  | methodCall (method : String)
  | macroCall (path : Path)
  | closure (parameters : Nat)
  | block
  | part (part : Part)
deriving Inhabited

/-- The kind of nodes with this label. -/
def Label.kind? : Label → Option NodeKind
  | .module _ => some .module
  | .struct _ => some .struct
  | .enum _ => some .enum
  | .union _ => some .union
  | .trait _ => some .trait
  | .typeAlias _ => some .typeAlias
  | .impl _ => some .impl
  | .function _ => some .function
  | .implFunction _ _ => some .implFunction
  | .implConst _ => some .implConst
  | .implType _ => some .implType
  | .field _ => some .field
  | .call _ => some .call
  | .methodCall _ => some .methodCall
  | .macroCall _ => some .macroCall
  | .closure _ => some .closure
  | .block => some .block
  | .part _ => none

/-! ### Trees -/

/-- A syntax tree. -/
inductive Node where
  | mk (label : Label) (span : Span) (children : List Node)
deriving Inhabited

namespace Node

/-- What the node is. -/
def label : Node → Label
  | mk l _ _ => l

/-- The stretch of text that the node covers. -/
def span : Node → Span
  | mk _ s _ => s

/-- The parts of the node, in the order in which they are visited. -/
def children : Node → List Node
  | mk _ _ cs => cs

/-- The kind of the node, if it has one. -/
def kind? (n : Node) : Option NodeKind :=
  n.label.kind?

/-- The attribute that the node is, if it is one. -/
def attribute? (n : Node) : Option Attribute :=
  match n.label with
  | .part (.attribute a) => some a
  | _ => none

/-- The attributes of the node, those inside its body after those before it. -/
def attributes (n : Node) : List Attribute :=
  n.children.filterMap attribute?

/-- The form of the node, if it is an expression other than a call or a closure. -/
def expression? (n : Node) : Option ExpressionForm :=
  match n.label with
  | .part (.expression form) => some form
  | _ => none

/-- The form of the node, if it is a type. -/
def type? (n : Node) : Option TypeForm :=
  match n.label with
  | .part (.type form) => some form
  | _ => none

/-- The form of the node, if it is a pattern. -/
def pattern? (n : Node) : Option PatternForm :=
  match n.label with
  | .part (.pattern form) => some form
  | _ => none

/-- The path that the node is, if it is an expression that names something. -/
def pathExpression? (n : Node) : Option TypedPath :=
  match n.label with
  | .part (.expression (.path p)) => some p
  | _ => none

end Node

end SourceLint.Syntax
