import Provision.Template.Token
import Provision.Template.Tree

/-!
Reading tokens as a tree. Operators bind in this order, loosest first: `if … else`, `or`, `and`, `not`,
comparison, sum, joining, product, power, sign; then come attributes, items and calls, and filters and
tests. Every function takes an amount of fuel that bounds the depth of the tree it reads.
-/

namespace Provision.Template

/-- Tokens still to be read, and the line of the last one that was. -/
structure Unread where
  tokens : List Token
  line : Nat

/-- A reader of tokens. -/
abbrev TokenReader := StateT Unread (Except Error)

namespace Grammar

/-- The template is not well formed here. -/
def bad {α : Type} (detail : String) : TokenReader α := throw (malformed detail)

/-- The next token; a fault in its place is a failure. -/
def peek : TokenReader (Option TokenKind) := do
  let s ← get
  match s.tokens with
  | [] => return none
  | ⟨.fault e, _⟩ :: _ => throw (e.at s.line)
  | t :: _ => return some t.kind

/-- Pass the next token. -/
def advance : TokenReader Unit := do
  let s ← get
  match s.tokens with
  | [] => return ()
  | t :: rest => set (⟨rest, t.line⟩ : Unread)

/-- The line of the next token. -/
def here : TokenReader Nat := do
  let s ← get
  return match s.tokens with
    | [] => s.line
    | t :: _ => t.line

/-- Take the next token if it is the one. -/
def takeIf (wanted : TokenKind → Bool) : TokenReader Bool := do
  match ← peek with
  | some t => if wanted t then advance; return true else return false
  | none => return false

def isSign (s : String) : TokenKind → Bool
  | .sign t => s == t
  | _ => false

def isWord (s : String) : TokenKind → Bool
  | .name t => s == t
  | _ => false

def isStatementEnd : TokenKind → Bool
  | .statementEnd => true
  | _ => false

def isExpressionEnd : TokenKind → Bool
  | .expressionEnd => true
  | _ => false

def takeSign (s : String) : TokenReader Bool := takeIf (isSign s)
def takeWord (s : String) : TokenReader Bool := takeIf (isWord s)

/-- The next token must be the one. -/
def expect (wanted : TokenKind → Bool) (what : String) : TokenReader Unit := do
  if ← takeIf wanted then return () else bad ("expected " ++ what)

def expectSign (s : String) : TokenReader Unit := expect (isSign s) s
def expectWord (s : String) : TokenReader Unit := expect (isWord s) s
def expectEnd : TokenReader Unit := expect isStatementEnd "end of block"

/-- Whether the next token is the one. -/
def sees (wanted : TokenKind → Bool) : TokenReader Bool := do
  return (← peek).any wanted

def expectName : TokenReader String := do
  match ← peek with
  | some (.name s) => advance; return s
  | _ => bad "expected identifier"

/-- Names that cannot be assigned to. -/
def reserved : List String := ["true", "True", "false", "False", "none", "None", "loop", "self"]

/-- A name that can be assigned to. -/
def assignableName : TokenReader String := do
  let s ← expectName
  if reserved.contains s then bad ("cannot assign to reserved variable name " ++ s)
  return s

/-- The operator between two operands of a level, and whether its result is negated. -/
def takeOperator (level : Nat) : TokenReader (Option (BinaryOp × Bool)) := do
  let found (op : BinaryOp) : TokenReader (Option (BinaryOp × Bool)) := do
    advance
    return some (op, false)
  match level, ← peek with
  | 0, some (.name "or") => found .or
  | 1, some (.name "and") => found .and
  | 3, some (.sign "==") => found .eq
  | 3, some (.sign "!=") => found .ne
  | 3, some (.sign "<") => found .lt
  | 3, some (.sign "<=") => found .le
  | 3, some (.sign ">") => found .gt
  | 3, some (.sign ">=") => found .ge
  | 3, some (.name "in") => found .contains
  | 3, some (.name "not") => do
    advance
    expectWord "in"
    return some (.contains, true)
  | 4, some (.sign "+") => found .add
  | 4, some (.sign "-") => found .sub
  | 5, some (.sign "~") => found .concat
  | 6, some (.sign "*") => found .mul
  | 6, some (.sign "/") => found .div
  | 6, some (.sign "//") => found .floorDiv
  | 6, some (.sign "%") => found .rem
  | 7, some (.sign "**") => found .pow
  | _, _ => return none

/-- The constant that a name stands for. -/
def constant? : String → Option Value
  | "true" => some (.bool true)
  | "True" => some (.bool true)
  | "false" => some (.bool false)
  | "False" => some (.bool false)
  | "none" => some .none
  | "None" => some .none
  | _ => none

/-- Whether a token can start the argument of a test that has no brackets. -/
def startsArgument : TokenKind → Bool
  | .name s => !(["and", "or", "else", "is", "if", "not", "in"].contains s)
  | .text _ => true
  | .int _ => true
  | .float _ => true
  | .sign s => ["+", "-", "[", "\x7b"].contains s
  | _ => false

mutual

/-- An expression with a choice around it. -/
def expr : Nat → TokenReader Expr
  | 0 => bad "template exceeds maximum recursion limits"
  | fuel + 1 => do
    let e ← level fuel 0
    choices fuel e

/-- The choices that follow an expression. -/
def choices : Nat → Expr → TokenReader Expr
  | 0, _ => bad "template exceeds maximum recursion limits"
  | fuel + 1, yes => do
    if ← takeWord "if" then
      let test ← level fuel 0
      if ← takeWord "else" then
        let no ← expr fuel
        choices fuel (.choice test yes (some no) no.line)
      else choices fuel (.choice test yes none yes.line)
    else return yes

/-- An expression whose operators bind at least as tightly as a level says. -/
def level : Nat → Nat → TokenReader Expr
  | 0, _ => bad "template exceeds maximum recursion limits"
  | fuel + 1, n => do
    if n = 2 then
      if ← takeWord "not" then
        let e ← level fuel 2
        return .not e e.line
      else level fuel 3
    else if n = 8 then
      let e ← signed fuel
      filters fuel e
    else
      let a ← level fuel (n + 1)
      operations fuel n a

/-- The operations of a level that follow an operand. -/
def operations : Nat → Nat → Expr → TokenReader Expr
  | 0, _, _ => bad "template exceeds maximum recursion limits"
  | fuel + 1, n, a => do
    match ← takeOperator n with
    | none => return a
    | some (op, negated) =>
      let b ← level fuel (n + 1)
      let e := Expr.binary op a b b.line
      operations fuel n (if negated then .not e e.line else e)

/-- An operand with minus signs in front of it. -/
def signed : Nat → TokenReader Expr
  | 0 => bad "template exceeds maximum recursion limits"
  | fuel + 1 => do
    if ← takeSign "-" then
      let e ← signed fuel
      return .negate e e.line
    else
      let e ← primary fuel
      accesses fuel e

/-- A name, a constant, or something in brackets. -/
def primary : Nat → TokenReader Expr
  | 0 => bad "template exceeds maximum recursion limits"
  | fuel + 1 => do
    let line ← here
    match ← peek with
    | some (.name s) =>
      advance
      match constant? s with
      | some v => return .const v line
      | none => return .name s line
    | some (.text s) => advance; return .const (.ofString s) line
    | some (.int n) => advance; return .const (.int n) line
    | some (.float x) => advance; return .const (.float x) line
    | some (.sign "(") =>
      advance
      if ← takeSign ")" then return .list [] line
      let e ← expr fuel
      if ← takeSign "," then
        let rest ← items fuel ")"
        return .list (e :: rest) (lastLine line (e :: rest))
      expectSign ")"
      return e
    | some (.sign "[") =>
      advance
      let es ← items fuel "]"
      return .list es (lastLine line es)
    | some (.sign "\x7b") =>
      advance
      let es ← entries fuel
      return .map es (lastLine line (es.map Prod.snd))
    | _ => bad "unexpected token"

/-- Expressions with commas between them, up to a closing bracket. -/
def items : Nat → String → TokenReader (List Expr)
  | 0, _ => bad "template exceeds maximum recursion limits"
  | fuel + 1, close => do
    if ← takeSign close then return []
    let e ← expr fuel
    if ← takeSign close then return [e]
    expectSign ","
    return e :: (← items fuel close)

/-- Entries of a map with commas between them, up to the closing bracket. -/
def entries : Nat → TokenReader (List (Expr × Expr))
  | 0 => bad "template exceeds maximum recursion limits"
  | fuel + 1 => do
    if ← takeSign "\x7d" then return []
    let key ← expr fuel
    expectSign ":"
    let value ← expr fuel
    if ← takeSign "\x7d" then return [(key, value)]
    expectSign ","
    return (key, value) :: (← entries fuel)

/-- The attributes, items and calls that follow an expression. -/
def accesses : Nat → Expr → TokenReader Expr
  | 0, _ => bad "template exceeds maximum recursion limits"
  | fuel + 1, e => do
    if ← takeSign "." then
      let line ← here
      match ← peek with
      | some (.int n) =>
        advance
        accesses fuel (.item e (.const (.int n) line) line)
      | _ =>
        let s ← expectName
        accesses fuel (.attr e s e.line)
    else if ← takeSign "[" then
      let e' ← subscript fuel e
      accesses fuel e'
    else if ← takeSign "(" then
      let args ← arguments fuel false
      accesses fuel (.call e args (lastLine e.line (args.map Argument.expr)))
    else return e

/-- An expression that may be left out before a colon or the closing bracket. -/
def bound : Nat → TokenReader (Option Expr)
  | 0 => bad "template exceeds maximum recursion limits"
  | fuel + 1 => do
    if (← sees (isSign ":")) || (← sees (isSign "]")) then return none
    let e ← expr fuel
    return some e

/-- What stands in the brackets after an expression: a key, or the bounds of a slice. -/
def subscript : Nat → Expr → TokenReader Expr
  | 0, _ => bad "template exceeds maximum recursion limits"
  | fuel + 1, e => do
    let start ← bound fuel
    if ← takeSign ":" then
      let stop ← bound fuel
      let step ← if ← takeSign ":" then bound fuel else pure none
      expectSign "]"
      return .slice e start stop step (lastLine e.line (start.toList ++ stop.toList ++ step.toList))
    else
      expectSign "]"
      match start with
      | some key => return .item e key key.line
      | none => bad "empty subscript"

/-- Arguments up to the closing bracket; `named` says whether one with a name came before. -/
def arguments : Nat → Bool → TokenReader (List Argument)
  | 0, _ => bad "template exceeds maximum recursion limits"
  | fuel + 1, named => do
    if ← takeSign ")" then return []
    let (arg, named) ← argument fuel named
    if ← takeSign ")" then return [arg]
    expectSign ","
    return arg :: (← arguments fuel named)

/-- One argument. -/
def argument : Nat → Bool → TokenReader (Argument × Bool)
  | 0, _ => bad "template exceeds maximum recursion limits"
  | fuel + 1, named => do
    if ← takeSign "**" then
      let e ← expr fuel
      return (.spreadNamed e, true)
    else if ← takeSign "*" then
      let e ← expr fuel
      return (.spread e, named)
    else
      let e ← expr fuel
      match e with
      | .name s _ =>
        if ← takeSign "=" then
          let v ← level fuel 0
          return (.named s v, true)
        else if named then bad "non-keyword arg after keyword arg"
        else return (.plain e, named)
      | e => if named then bad "non-keyword arg after keyword arg" else return (.plain e, named)

/-- The arguments of a filter or a test, if there are any in brackets. -/
def bracketed : Nat → TokenReader (List Argument)
  | 0 => bad "template exceeds maximum recursion limits"
  | fuel + 1 => do
    if ← takeSign "(" then arguments fuel false else return []

/-- The filters and tests that follow an expression. -/
def filters : Nat → Expr → TokenReader Expr
  | 0, _ => bad "template exceeds maximum recursion limits"
  | fuel + 1, e => do
    if ← takeSign "|" then
      let s ← expectName
      let args ← bracketed fuel
      filters fuel (.filter s (some e) args (lastLine e.line (args.map Argument.expr)))
    else if ← takeWord "is" then
      let negated ← takeWord "not"
      let s ← expectName
      let args ←
        if ← sees (isSign "(") then bracketed fuel
        else if ← sees startsArgument then
          let a ← signed fuel
          pure [Argument.plain a]
        else pure []
      let t := Expr.test s e args (lastLine e.line (args.map Argument.expr))
      filters fuel (if negated then .not t t.line else t)
    else return e

/-- Filters with bars between them, up to the end of the statement. -/
def filterChain : Nat → Option Expr → TokenReader Expr
  | 0, _ => bad "template exceeds maximum recursion limits"
  | fuel + 1, soFar => do
    let line ← here
    let s ← expectName
    let args ← bracketed fuel
    let start := (soFar.map Expr.line).getD line
    let e := Expr.filter s soFar args (lastLine start (args.map Argument.expr))
    if ← sees isStatementEnd then return e
    expectSign "|"
    filterChain fuel (some e)

/-- Targets with commas between them. -/
def target : Nat → TokenReader Target
  | 0 => bad "template exceeds maximum recursion limits"
  | fuel + 1 => do
    let line ← here
    let (ts, several) ← targets fuel
    match ts, several with
    | [t], false => return t
    | ts, _ => return .several ts line

/-- Targets, and whether there was a comma. -/
def targets : Nat → TokenReader (List Target × Bool)
  | 0 => bad "template exceeds maximum recursion limits"
  | fuel + 1 => do
    let ends (t : TokenKind) : Bool :=
      isSign ")" t || isExpressionEnd t || isStatementEnd t || isWord "in" t || isSign "=" t
    if ← sees ends then return ([], false)
    let t ←
      if ← takeSign "(" then
        let t ← target fuel
        expectSign ")"
        pure t
      else
        let s ← assignableName
        pure (Target.name s)
    if ← takeSign "," then
      let (ts, _) ← targets fuel
      return (t :: ts, true)
    else return ([t], false)

/-- The attributes that follow the name of a target. -/
def targetAttrs : Nat → Expr → Target → TokenReader Target
  | 0, _, _ => bad "template exceeds maximum recursion limits"
  | fuel + 1, e, t => do
    if ← takeSign "." then
      let s ← expectName
      targetAttrs fuel (.attr e s e.line) (.attr e s)
    else return t

/-- Statements and data up to a statement that starts with one of the given words. The word is still to be
read. Without one, all that is left is read. -/
def body : Nat → List String → TokenReader (List Stmt)
  | 0, _ => bad "template exceeds maximum recursion limits"
  | fuel + 1, ends => do
    match ← peek with
    | none => return []
    | some (.data s) =>
      advance
      return .data s :: (← body fuel ends)
    | some .expressionStart =>
      advance
      let e ← expr fuel
      expect isExpressionEnd "end of variable block"
      return .print e :: (← body fuel ends)
    | some .statementStart =>
      advance
      match ← peek with
      | none => bad "unexpected end of input, expected keyword"
      | some (.name s) =>
        if ends.contains s then return []
        advance
        let stmt ← statement fuel s
        expectEnd
        return stmt :: (← body fuel ends)
      | some _ => bad "expected statement"
    | some _ => bad "unexpected token"

/-- The end of the statement's head, the body, and the word that ends it. -/
def bodyUntil : Nat → String → TokenReader (List Stmt)
  | 0, _ => bad "template exceeds maximum recursion limits"
  | fuel + 1, word => do
    expectEnd
    let stmts ← body fuel [word]
    advance
    return stmts

/-- The branches of a condition whose first word was read. -/
def condition : Nat → TokenReader Stmt
  | 0 => bad "template exceeds maximum recursion limits"
  | fuel + 1 => do
    let test ← expr fuel
    expectEnd
    let yes ← body fuel ["endif", "else", "elif"]
    let next ← peek
    advance
    match next with
    | some (.name "else") =>
      let no ← bodyUntil fuel "endif"
      return .branch test yes no
    | some (.name "elif") =>
      let no ← condition fuel
      return .branch test yes [no]
    | _ => return .branch test yes []

/-- Assignments with commas between them, up to the end of the statement. -/
def assignments : Nat → TokenReader (List (Target × Expr))
  | 0 => bad "template exceeds maximum recursion limits"
  | fuel + 1 => do
    if ← sees isStatementEnd then return []
    let t ←
      if ← takeSign "(" then
        let t ← target fuel
        expectSign ")"
        pure t
      else
        let s ← assignableName
        pure (Target.name s)
    expectSign "="
    let e ← expr fuel
    if ← sees isStatementEnd then return [(t, e)]
    expectSign ","
    return (t, e) :: (← assignments fuel)

/-- Parameters up to the closing bracket; after one with a default all have one. -/
def parameters : Nat → Bool → TokenReader (List Parameter)
  | 0, _ => bad "template exceeds maximum recursion limits"
  | fuel + 1, defaulted => do
    if ← takeSign ")" then return []
    let s ← assignableName
    let standard ←
      if ← takeSign "=" then
        let e ← expr fuel
        pure (some e)
      else if defaulted then bad "expected ="
      else pure none
    let p : Parameter := ⟨s, standard⟩
    if ← takeSign ")" then return [p]
    expectSign ","
    return p :: (← parameters fuel standard.isSome)

/-- The names that a statement takes from another template. -/
def importedNames : Nat → TokenReader Unit
  | 0 => bad "template exceeds maximum recursion limits"
  | fuel + 1 => do
    let _ ← assignableName
    if ← takeWord "as" then
      let _ ← assignableName
    if ← takeSign "," then
      if ← sees isStatementEnd then return () else importedNames fuel
    else return ()

/-- Whether the other template is to see this one's names. -/
def contextWords : TokenReader Unit := do
  if (← takeWord "with") || (← takeWord "without") then expectWord "context"

/-- A statement whose first word was read. -/
def statement : Nat → String → TokenReader Stmt
  | 0, _ => bad "template exceeds maximum recursion limits"
  | fuel + 1, word => do
    match word with
    | "for" =>
      let t ← target fuel
      expectWord "in"
      let e ← level fuel 0
      let cond ← if ← takeWord "if" then
          let c ← expr fuel
          pure (some c)
        else pure none
      let recursive ← takeWord "recursive"
      expectEnd
      let stmts ← body fuel ["endfor", "else"]
      let otherwise ← if ← takeWord "else" then
          expectEnd
          body fuel ["endfor"]
        else pure []
      advance
      return .forEach t e cond recursive stmts otherwise
    | "if" => condition fuel
    | "with" =>
      let assigned ← assignments fuel
      let stmts ← bodyUntil fuel "endwith"
      return .within assigned stmts
    | "set" =>
      let bracket ← takeSign "("
      let t ←
        if bracket then
          let t ← target fuel
          expectSign ")"
          pure t
        else
          let line ← here
          let s ← assignableName
          if ← takeSign "," then
            let (ts, _) ← targets fuel
            pure (Target.several (.name s :: ts) line)
          else targetAttrs fuel (.name s line) (.name s)
      if !bracket && (← sees isStatementEnd) then
        let stmts ← bodyUntil fuel "endset"
        return .assignBlock t none stmts
      else if !bracket && (← takeSign "|") then
        let f ← filterChain fuel none
        let stmts ← bodyUntil fuel "endset"
        return .assignBlock t (some f) stmts
      else
        expectSign "="
        let e ← expr fuel
        return .assign t e
    | "autoescape" =>
      let e ← expr fuel
      let stmts ← bodyUntil fuel "endautoescape"
      return .escaping e stmts
    | "filter" =>
      let f ← filterChain fuel none
      let stmts ← bodyUntil fuel "endfilter"
      return .filterBlock f stmts
    | "block" =>
      let s ← expectName
      let stmts ← bodyUntil fuel "endblock"
      if ← sees isStatementEnd then return .block s stmts
      let s' ← expectName
      if s = s' then return .block s stmts else bad "mismatching name on block"
    | "extends" =>
      let e ← expr fuel
      return .extend e
    | "include" =>
      let e ← expr fuel
      let missing ← takeWord "ignore"
      if missing then expectWord "missing"
      contextWords
      return .insert e missing
    | "import" =>
      let e ← expr fuel
      expectWord "as"
      let _ ← assignableName
      contextWords
      return .insert e false
    | "from" =>
      let e ← expr fuel
      expectWord "import"
      importedNames fuel
      contextWords
      return .insert e false
    | "macro" =>
      let s ← expectName
      expectSign "("
      let ps ← parameters fuel false
      let stmts ← bodyUntil fuel "endmacro"
      return .define s ps stmts
    | "call" =>
      let ps ← if ← takeSign "(" then parameters fuel false else pure []
      let e ← expr fuel
      match e with
      | .call f args line =>
        let stmts ← bodyUntil fuel "endcall"
        return .callBlock ps f args line stmts
      | _ => bad "expected call expression in call block"
    | "do" =>
      let e ← expr fuel
      match e with
      | .call _ _ _ => return .perform e
      | _ => bad "expected call expression in do block"
    | s => bad ("unknown statement " ++ s)

end

mutual

/-- The names of the blocks in a statement. -/
def blockNames : Stmt → List String
  | .forEach _ _ _ _ b o => blockNamesOf b ++ blockNamesOf o
  | .branch _ y n => blockNamesOf y ++ blockNamesOf n
  | .within _ b => blockNamesOf b
  | .assignBlock _ _ b => blockNamesOf b
  | .escaping _ b => blockNamesOf b
  | .filterBlock _ b => blockNamesOf b
  | .block s b => s :: blockNamesOf b
  | .define _ _ b => blockNamesOf b
  | .callBlock _ _ _ _ b => blockNamesOf b
  | _ => []

def blockNamesOf : List Stmt → List String
  | [] => []
  | s :: rest => blockNames s ++ blockNamesOf rest

end

/-- Whether a name comes up twice. -/
def hasDuplicate : List String → Bool
  | [] => false
  | s :: rest => rest.contains s || hasDuplicate rest

/-- The tree of a template. -/
def ofTemplate (s : String) : Except Error (List Stmt) := do
  let tokens := Token.ofTemplate s
  let (stmts, _) ← (body (16 * tokens.length + 64) []).run ⟨tokens, 1⟩
  if hasDuplicate (blockNamesOf stmts) then throw (malformed "block defined twice")
  return stmts

end Grammar
end Provision.Template
