import TinyC.Proofs.ScriptLanguage.Word

/-!
# The grammar of expressions

How the words of a line stand for an expression in the script's language, as far
as scripts go:

    expression  = comparison, or comparison if comparison else expression
    comparison  = sum, then any number of: < sum, == sum
    sum         = product, then any number of: + product, - product
    product     = factor, then any number of: * factor, // factor, % factor
    factor      = + factor, or - factor, or primary
    primary     = atom, then any number of: . name, ( arguments )
    atom        = name, or integer, or texts, or ( expression ), or a tuple

Texts in a row are one string.  A tuple has no items or a comma behind the first
one, and arguments and items may have a star before them and a comma behind the
last.  Names in a tree are in normal form.

The relation `Reads` has the words before and after what is read, and says
nothing on how a reading is found.
-/

namespace TinyC.ScriptLanguage

/-! ## Trees -/

/-- A sign before an operand. -/
inductive Sign
  | plus
  | minus
  deriving DecidableEq, Repr

/-- An operator between two operands. -/
inductive Operator
  | add
  | sub
  | mul
  | floorDiv
  | mod
  deriving DecidableEq, Repr

/-- An operator of which several in a row make one condition. -/
inductive Comparison
  | less
  | equal
  deriving DecidableEq, Repr

/-- The layers between comparisons and factors. -/
inductive Layer
  | sum
  | product
  deriving DecidableEq, Repr

/-- The word with which a sign is written. -/
def Sign.word : Sign → Word
  | .plus => .sign "+"
  | .minus => .sign "-"

/-- The word with which an operator is written. -/
def Operator.word : Operator → Word
  | .add => .sign "+"
  | .sub => .sign "-"
  | .mul => .sign "*"
  | .floorDiv => .sign "//"
  | .mod => .sign "%"

/-- The layer of an operator. -/
def Operator.layer : Operator → Layer
  | .add | .sub => .sum
  | .mul | .floorDiv | .mod => .product

/-- The word with which a comparison is written. -/
def Comparison.word : Comparison → Word
  | .less => .sign "<"
  | .equal => .sign "=="

/-- An expression. -/
inductive Tree
  | integer (value : Nat)
  | text (value : String)
  | name (name : String)
  | member (object : Tree) (name : String)
  | call (function : Tree) (arguments : List Tree)
  | signed (sign : Sign) (operand : Tree)
  | binary (operator : Operator) (left right : Tree)
  | compared (first : Tree) (others : List (Comparison × Tree))
  | conditional (value condition otherwise : Tree)
  | tuple (items : List Tree)
  | starred (items : Tree)
  deriving Repr

/-- An expression and what it is compared with, which may be nothing. -/
def Tree.comparing (first : Tree) (others : List (Comparison × Tree)) : Tree :=
  if others.isEmpty then first else .compared first others

/-! ## Readings -/

/-- What stands in a row with commas. -/
inductive ItemKind
  /-- An item of a tuple. -/
  | element
  /-- An argument of a call. -/
  | argument
  deriving DecidableEq, Repr

/-- What is read.  The parts that go on with something know what was read before them. -/
inductive Position
  | expression
  | comparison
  | comparisons
  | layer (layer : Layer)
  | operand (layer : Layer)
  | operations (layer : Layer) (left : Tree)
  | factor
  | primary
  | trailers (object : Tree)
  | atom
  | texts
  | arguments
  | item (kind : ItemKind)
  | others (kind : ItemKind)

/-- What is found at a position. -/
def Position.Result : Position → Type
  | .comparisons => List (Comparison × Tree)
  | .texts => String
  | .arguments | .others _ => List Tree
  | _ => Tree

/-- The words are read at the position with the result, before the rest. -/
inductive Reads : (position : Position) → List Word → position.Result → List Word → Prop
  | expression {words rest tree} : Reads .comparison words tree rest →
      Reads .expression words tree rest
  | conditional {words condition alternative rest value test otherwise} :
      Reads .comparison words value (.keyword "if" :: condition) →
      Reads .comparison condition test (.keyword "else" :: alternative) →
      Reads .expression alternative otherwise rest →
      Reads .expression words (Tree.conditional value test otherwise) rest
  | comparison {words mid rest first others} : Reads (.layer .sum) words first mid →
      Reads .comparisons mid others rest →
      Reads .comparison words (Tree.comparing first others) rest
  | noComparison {rest} : Reads .comparisons rest ([] : List (Comparison × Tree)) rest
  | moreComparisons {comparison : Comparison} {word words mid rest tree others} :
      comparison.word = word → Reads (.layer .sum) words tree mid →
      Reads .comparisons mid others rest →
      Reads .comparisons (word :: words) ((comparison, tree) :: others) rest
  | layer {layer words mid rest first tree} : Reads (.operand layer) words first mid →
      Reads (.operations layer first) mid tree rest → Reads (.layer layer) words tree rest
  | summand {words rest tree} : Reads (.layer .product) words tree rest →
      Reads (.operand .sum) words tree rest
  | multiplicand {words rest tree} : Reads .factor words tree rest →
      Reads (.operand .product) words tree rest
  | noOperation {layer left rest} : Reads (.operations layer left) rest left rest
  | moreOperations {operator : Operator} {layer word words mid rest left right tree} :
      operator.layer = layer → operator.word = word → Reads (.operand layer) words right mid →
      Reads (.operations layer (.binary operator left right)) mid tree rest →
      Reads (.operations layer left) (word :: words) tree rest
  | signed {sign : Sign} {word words rest operand} : sign.word = word →
      Reads .factor words operand rest →
      Reads .factor (word :: words) (Tree.signed sign operand) rest
  | factor {words rest tree} : Reads .primary words tree rest → Reads .factor words tree rest
  | primary {words mid rest object tree} : Reads .atom words object mid →
      Reads (.trailers object) mid tree rest → Reads .primary words tree rest
  | noTrailer {object rest} : Reads (.trailers object) rest object rest
  | member {name words rest object tree} :
      Reads (.trailers (.member object (Script.normalName name))) words tree rest →
      Reads (.trailers object) (.sign "." :: .name name :: words) tree rest
  | call {words mid rest object trees tree} :
      Reads .arguments words trees (.sign ")" :: mid) →
      Reads (.trailers (.call object trees)) mid tree rest →
      Reads (.trailers object) (.sign "(" :: words) tree rest
  | name {name rest} : Reads .atom (.name name :: rest) (Tree.name (Script.normalName name)) rest
  | integer {value rest} : Reads .atom (.integer value :: rest) (Tree.integer value) rest
  | text {words rest value} : Reads .texts words value rest →
      Reads .atom words (Tree.text value) rest
  | group {words rest tree} : Reads .expression words tree (.sign ")" :: rest) →
      Reads .atom (.sign "(" :: words) tree rest
  | noItem {rest} : Reads .atom (.sign "(" :: .sign ")" :: rest) (Tree.tuple []) rest
  | tuple {words mid rest first trees} : Reads (.item .element) words first (.sign "," :: mid) →
      Reads (.others .element) (.sign "," :: mid) trees (.sign ")" :: rest) →
      Reads .atom (.sign "(" :: words) (Tree.tuple (first :: trees)) rest
  | lastText {value rest} : Reads .texts (.text value :: rest) value rest
  | moreTexts {value others : String} {words rest} : Reads .texts words others rest →
      Reads .texts (.text value :: words) (value ++ others) rest
  | noArgument {rest} : Reads .arguments rest ([] : List Tree) rest
  | arguments {words mid rest first trees} : Reads (.item .argument) words first mid →
      Reads (.others .argument) mid trees rest → Reads .arguments words (first :: trees) rest
  | item {kind words rest tree} : Reads .expression words tree rest →
      Reads (.item kind) words tree rest
  | starredElement {words rest tree} : Reads (.layer .sum) words tree rest →
      Reads (.item .element) (.sign "*" :: words) (Tree.starred tree) rest
  | starredArgument {words rest tree} : Reads .expression words tree rest →
      Reads (.item .argument) (.sign "*" :: words) (Tree.starred tree) rest
  | noOther {kind rest} : Reads (.others kind) rest ([] : List Tree) rest
  | comma {kind rest} : Reads (.others kind) (.sign "," :: rest) ([] : List Tree) rest
  | moreOthers {kind words mid rest first trees} : Reads (.item kind) words first mid →
      Reads (.others kind) mid trees rest →
      Reads (.others kind) (.sign "," :: words) (first :: trees) rest

/-! ## Readings of single operands -/

namespace Reads

variable {words rest : List Word} {tree : Tree}

theorem product_of_factor (hreads : Reads .factor words tree rest) :
    Reads (.layer .product) words tree rest :=
  .layer (.multiplicand hreads) .noOperation

theorem sum_of_product (hreads : Reads (.layer .product) words tree rest) :
    Reads (.layer .sum) words tree rest :=
  .layer (.summand hreads) .noOperation

theorem expression_of_sum (hreads : Reads (.layer .sum) words tree rest) :
    Reads .expression words tree rest :=
  .expression (.comparison hreads .noComparison)

theorem expression_of_factor (hreads : Reads .factor words tree rest) :
    Reads .expression words tree rest :=
  hreads.product_of_factor.sum_of_product.expression_of_sum

theorem factor_of_atom (hreads : Reads .atom words tree rest) : Reads .factor words tree rest :=
  .factor (.primary hreads .noTrailer)

/-- An operation on factors, in brackets. -/
theorem factor_of_operation (operator : Operator) {mid : List Word} {left right : Tree}
    (hleft : Reads .factor words left (operator.word :: mid))
    (hright : Reads .factor mid right (.sign ")" :: rest)) :
    Reads .factor (.sign "(" :: words) (.binary operator left right) rest := by
  have hlayer : Reads (.layer .sum) words (.binary operator left right) (.sign ")" :: rest) := by
    cases hoperator : operator.layer with
    | sum =>
        exact .layer (.summand hleft.product_of_factor)
          (.moreOperations hoperator rfl (.summand hright.product_of_factor) .noOperation)
    | product =>
        exact sum_of_product (.layer (.multiplicand hleft)
          (.moreOperations hoperator rfl (.multiplicand hright) .noOperation))
  exact factor_of_atom (.group hlayer.expression_of_sum)

/-- A call of a function by its name. -/
theorem factor_of_call (name : String) {trees : List Tree}
    (hreads : Reads .arguments words trees (.sign ")" :: rest)) :
    Reads .factor (.name name :: .sign "(" :: words)
      (.call (.name (Script.normalName name)) trees) rest :=
  .factor (.primary .name (.call hreads .noTrailer))

end Reads

end TinyC.ScriptLanguage
