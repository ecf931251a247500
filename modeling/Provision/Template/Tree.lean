import Provision.Template.Operator

/-!
Templates as trees. An expression carries the line on which it ends; that is the line which a failure of
the expression names.
-/

namespace Provision.Template

mutual

/-- An expression. -/
inductive Expr where
  | name (id : String) (line : Nat)
  | const (v : Value) (line : Nat)
  | list (items : List Expr) (line : Nat)
  | map (entries : List (Expr × Expr)) (line : Nat)
  | negate (e : Expr) (line : Nat)
  | not (e : Expr) (line : Nat)
  | binary (op : BinaryOp) (a b : Expr) (line : Nat)
  /-- The second where the first is true, else the third, or silently nothing. -/
  | choice (test yes : Expr) (no : Option Expr) (line : Nat)
  /-- A filter, on a value or on the text of the block that it heads. -/
  | filter (name : String) (subject : Option Expr) (args : List Argument) (line : Nat)
  | test (name : String) (subject : Expr) (args : List Argument) (line : Nat)
  | attr (e : Expr) (name : String) (line : Nat)
  | item (e key : Expr) (line : Nat)
  | slice (e : Expr) (start stop step : Option Expr) (line : Nat)
  | call (f : Expr) (args : List Argument) (line : Nat)

/-- An argument of a call. -/
inductive Argument where
  | plain (e : Expr)
  | named (name : String) (e : Expr)
  /-- All items of a list. -/
  | spread (e : Expr)
  /-- All entries of a map. -/
  | spreadNamed (e : Expr)

end

/-- The line on which an expression ends. -/
def Expr.line : Expr → Nat
  | name _ n => n
  | const _ n => n
  | list _ n => n
  | map _ n => n
  | negate _ n => n
  | not _ n => n
  | binary _ _ _ n => n
  | choice _ _ _ n => n
  | filter _ _ _ n => n
  | test _ _ _ n => n
  | attr _ _ n => n
  | item _ _ n => n
  | slice _ _ _ _ n => n
  | call _ _ n => n

instance : Inhabited Expr := ⟨.const .none 0⟩

/-- The expression of an argument. -/
def Argument.expr : Argument → Expr
  | plain e => e
  | named _ e => e
  | spread e => e
  | spreadNamed e => e

/-- The line on which the last of several expressions ends. -/
def lastLine (line : Nat) (es : List Expr) : Nat := (es.getLast?.map Expr.line).getD line

/-- What a value is assigned to. -/
inductive Target where
  | name (id : String)
  | attr (e : Expr) (name : String)
  | several (targets : List Target) (line : Nat)
deriving Inhabited

/-- A parameter with its default. -/
structure Parameter where
  name : String
  standard : Option Expr
deriving Inhabited

/-- A statement. -/
inductive Stmt where
  | data (s : String)
  | print (e : Expr)
  | forEach (target : Target) (items : Expr) (condition : Option Expr) (recursive : Bool)
      (body otherwise : List Stmt)
  | branch (test : Expr) (yes no : List Stmt)
  | within (assignments : List (Target × Expr)) (body : List Stmt)
  | assign (target : Target) (e : Expr)
  | assignBlock (target : Target) (filter : Option Expr) (body : List Stmt)
  | escaping (mode : Expr) (body : List Stmt)
  | filterBlock (filter : Expr) (body : List Stmt)
  | block (name : String) (body : List Stmt)
  | extend (e : Expr)
  | insert (e : Expr) (mayBeMissing : Bool)
  | define (name : String) (parameters : List Parameter) (body : List Stmt)
  | callBlock (parameters : List Parameter) (f : Expr) (args : List Argument) (line : Nat)
      (body : List Stmt)
  | perform (e : Expr)
deriving Inhabited

end Provision.Template
