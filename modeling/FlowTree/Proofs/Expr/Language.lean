import FlowTree.Expr.Grammar

/-! # The language of expressions

Which texts are expressions, and what they stand for, said without a reader. `Derives part cs e x rest`:
the text `cs` begins with a part of the grammar, whose tree is `e` and whose extent is `x`, and `rest`
follows it. Blanks belong to the token after them, so that they may stand before every token; those at
the end of a text are left to `Sentence`. -/

namespace FlowTree.Grammar

/-- What the limits bound. -/
structure Extent where
  /-- The most parentheses that are open at once. -/
  depth : Nat := 0
  /-- The most operators in one chain of prefix operators. -/
  chain : Nat := 0
  /-- The characters outside string literals. Of a literal its opening quote counts, not its contents and
      not its closing quote. -/
  length : Nat := 0

namespace Extent

/-- The extent of a text with `n` more characters outside of literals. -/
def widen (n : Nat) (x : Extent) : Extent :=
  { x with length := n + x.length }

/-- The extent of two texts, the one after the other. -/
def join (x y : Extent) : Extent :=
  ⟨max x.depth y.depth, max x.chain y.chain, x.length + y.length⟩

/-- The extent of a text in parentheses. -/
def enclose (x : Extent) : Extent :=
  ⟨x.depth + 1, x.chain, x.length + 2⟩

/-- The extent of a text with a chain of `n` prefix operators before it. -/
def lead (n : Nat) (x : Extent) : Extent :=
  { x with chain := max n x.chain }

/-- The extent keeps the limits. -/
def WithinLimits (x : Extent) : Prop :=
  x.depth ≤ 64 ∧ x.chain ≤ 64 ∧ x.length ≤ 2048

end Extent

/-! ### Tokens -/

/-- The characters that may stand between tokens. -/
def blanks : List Char := [' ', '\t', '\r', '\n']

/-- A text begins with `n` blanks. -/
inductive Blanks : Nat → List Char → List Char → Prop
  | none {cs} : Blanks 0 cs cs
  | more {n c cs rest} (hc : c ∈ blanks) (h : Blanks n cs rest) : Blanks (n + 1) (c :: cs) rest

/-- One or more decimal digits. -/
def IsDigits (cs : List Char) : Prop :=
  cs ≠ [] ∧ ∀ c ∈ cs, c.isDigit = true

/-- The part of a numeral before its exponent. -/
inductive Mantissa : List Char → Prop
  | whole {ds} (h : IsDigits ds) : Mantissa ds
  | point {ds fs} (h : IsDigits ds) (hf : ∀ c ∈ fs, c.isDigit = true) : Mantissa (ds ++ '.' :: fs)
  | fraction {fs} (h : IsDigits fs) : Mantissa ('.' :: fs)

/-- The exponent of a numeral, which may be missing. -/
inductive Exponent : List Char → Prop
  | absent : Exponent []
  | present {c sign ds} (hc : c = 'e' ∨ c = 'E') (hs : sign = [] ∨ sign = ['+'] ∨ sign = ['-'])
      (h : IsDigits ds) : Exponent (c :: sign ++ ds)

/-- A number token. -/
def Numeral (cs : List Char) : Prop :=
  ∃ m x, Mantissa m ∧ Exponent x ∧ cs = m ++ x

/-- What a character stands for after a backslash. -/
inductive Escape : Char → Char → Prop
  | newline : Escape 'n' '\n'
  | tab : Escape 't' '\t'
  | return : Escape 'r' '\r'
  | other {c} (h : c ≠ 'n' ∧ c ≠ 't' ∧ c ≠ 'r') : Escape c c

/-- How the contents of a string literal are written between quotes `q`, and what they stand for. -/
inductive Contents (q : Char) : List Char → List Char → Prop
  | nil : Contents q [] []
  | plain {c cs s} (hb : c ≠ '\\') (hq : c ≠ q) (h : Contents q cs s) : Contents q (c :: cs) (c :: s)
  | escaped {c d cs s} (hd : Escape c d) (h : Contents q cs s) : Contents q ('\\' :: c :: cs) (d :: s)

/-- The words of the language. -/
def words : List (List Char × Literal) :=
  [(['t', 'r', 'u', 'e'], .bool true), (['f', 'a', 'l', 's', 'e'], .bool false),
    (['n', 'u', 'l', 'l'], .null), (['u', 'n', 'd', 'e', 'f', 'i', 'n', 'e', 'd'], .null)]

/-- The text goes on with a letter, a digit or an underscore. -/
def ContinuesWord (cs : List Char) : Prop :=
  ∃ c, cs.head? = some c ∧ (Text.isAlphanumeric c = true ∨ c = '_')

/-- A text begins with a literal, `n` of whose characters count. -/
inductive LiteralAt : List Char → Literal → Nat → List Char → Prop
  | number {token f rest} (h : Numeral token) (hf : Decimal.readFloat? token = some f) :
      LiteralAt (token ++ rest) (.number f) token.length rest
  | string {q body s rest} (hq : q = '\'' ∨ q = '"') (h : Contents q body s) :
      LiteralAt (q :: (body ++ q :: rest)) (.string (String.ofList s)) 1 rest
  | word {word l rest} (h : (word, l) ∈ words) (hr : ¬ContinuesWord rest) :
      LiteralAt (word ++ rest) l word.length rest

/-- How a prefix operator is written. -/
def prefixSign : PrefixOp → Char
  | .not => '!'
  | .neg => '-'
  | .plus => '+'

/-- A text begins with a chain of prefix operators, which takes `n` characters. -/
inductive Prefixes : List PrefixOp → Nat → List Char → List Char → Prop
  | nil {cs} : Prefixes [] 0 cs cs
  | cons {op ops n m cs mid rest} (hb : Blanks n cs (prefixSign op :: mid)) (h : Prefixes ops m mid rest) :
      Prefixes (op :: ops) (n + 1 + m) cs rest

/-- How a binary operator is written. -/
def binarySign : BinaryOp → List Char
  | .or => ['|', '|']
  | .and => ['&', '&']
  | .strictEqual => ['=', '=', '=']
  | .strictNotEqual => ['!', '=', '=']
  | .equal => ['=', '=']
  | .notEqual => ['!', '=']
  | .lessOrEqual => ['<', '=']
  | .greaterOrEqual => ['>', '=']
  | .less => ['<']
  | .greater => ['>']
  | .add => ['+']
  | .sub => ['-']
  | .mul => ['*']
  | .div => ['/']
  | .rem => ['%']

/-- The levels of binary operators, the loosest first. -/
def precedence : List (List BinaryOp) :=
  [[.or], [.and], [.strictEqual, .strictNotEqual, .equal, .notEqual],
    [.lessOrEqual, .greaterOrEqual, .less, .greater], [.add, .sub], [.mul, .div, .rem]]

/-! ### Phrases -/

/-- The parts of the grammar. -/
inductive Part where
  /-- An expression with binary operators of the given levels, the loosest first. Without levels it is an
      operand with a chain of prefix operators before it. -/
  | levels (ls : List (List BinaryOp))
  /-- A literal, or an expression in parentheses. -/
  | primary

/-- A text begins with a part of the grammar. A level is left-recursive: the operand to the right of an
    operator has tighter operators only. -/
inductive Derives : Part → List Char → Expr → Extent → List Char → Prop
  | literal {n k cs mid l rest} (hb : Blanks n cs mid) (hl : LiteralAt mid l k rest) :
      Derives .primary cs (.literal l) { length := n + k } rest
  | parens {n m cs inside e x mid rest} (hopen : Blanks n cs ('(' :: inside))
      (h : Derives (.levels precedence) inside e x mid) (hclose : Blanks m mid (')' :: rest)) :
      Derives .primary cs e (x.enclose.widen (n + m)) rest
  | chain {ops n cs mid e x rest} (hp : Prefixes ops n cs mid) (h : Derives .primary mid e x rest) :
      Derives (.levels []) cs (ops.foldr .unary e) ((x.lead ops.length).widen n) rest
  | operand {ops ls cs e x rest} (h : Derives (.levels ls) cs e x rest) :
      Derives (.levels (ops :: ls)) cs e x rest
  | binary {ops ls op n cs left x mid after right y rest} (h : Derives (.levels (ops :: ls)) cs left x mid)
      (hop : op ∈ ops) (hb : Blanks n mid (binarySign op ++ after)) (hr : Derives (.levels ls) after right y rest) :
      Derives (.levels (ops :: ls)) cs (.binary left op right) (x.join (y.widen (n + (binarySign op).length))) rest

/-- The whole text is an expression with the tree `e` and the extent `x`. -/
def Sentence (cs : List Char) (e : Expr) (x : Extent) : Prop :=
  ∃ n y rest, Derives (.levels precedence) cs e y rest ∧ Blanks n rest [] ∧ x = y.widen n

end FlowTree.Grammar
