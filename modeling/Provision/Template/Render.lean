import Provision.Template.Filter
import Provision.Template.Grammar

/-!
Rendering templates. The state of a rendering holds the text so far, the frames of names that are
visible, and the things that change and are held by number: shared names, loops and routines.

What does not exist may be tested and given a default, but it can be neither printed, compared, joined,
looped over nor asked whether it is true.
-/

namespace Provision.Template

/-- Names that are visible in a part of a template. -/
structure Frame where
  locals : Keyed String Value := []
  /-- Shared names that are visible here too. -/
  base : Option Nat := none
  /-- Shared names that routines defined here see. -/
  closure : Option Nat := none
  loop : Option Nat := none

/-- A running loop. -/
structure Loop where
  index : Nat
  length : Nat
  depth : Nat
  previous : Value
  following : Value
  /-- What the loop was last asked to compare. -/
  seen : Option (List Value)
  /-- What a recursive loop does with each item. -/
  again : Option (Target × List Stmt)

/-- A piece of template with parameters. -/
structure Routine where
  name : String
  parameters : List Parameter
  body : List Stmt
  closure : Nat

/-- The state of a rendering. -/
structure Rendering where
  context : List (Value × Value)
  out : String := ""
  frames : List Frame := [{}]
  depth : Nat := 1
  escaping : Bool := false
  spaces : Array (Keyed String Value) := #[]
  loops : Array Loop := #[]
  routines : Array Routine := #[]
  blocks : List (String × List Stmt) := []

/-- A step of a rendering. -/
abbrev Render := StateT Rendering (Except Error)

namespace Render

/-- Place a failure on a line, unless it has one. -/
def atLine {α : Type} (line : Nat) (r : Outcome α) : Render α :=
  match r with
  | .ok a => pure a
  | .error e => throw (e.at line)

/-- Fail on a line. -/
def failAt {α : Type} (line : Nat) (kind : ErrorKind) (detail : String) : Render α :=
  throw ((Error.of kind detail).at line)

/-! ### Names -/

/-- The shared names with a number. -/
def space (id : Nat) : Render (Keyed String Value) := return ((← get).spaces[id]?).getD []

def newSpace (names : Keyed String Value) : Render Nat := do
  let s ← get
  set { s with spaces := s.spaces.push names }
  return s.spaces.size

def setSpace (id : Nat) (names : Keyed String Value) : Render Unit :=
  modify fun s => { s with spaces := s.spaces.setIfInBounds id names }

/-- The value of a name in a frame. -/
def inFrame (s : Rendering) (name : String) (f : Frame) : Option Value :=
  (Keyed.get? f.locals name).or <|
    (match f.loop with
      | some id => if name = "loop" then some (Value.loop id) else none
      | none => none).or <|
    f.base.bind fun id => Keyed.get? ((s.spaces[id]?).getD []) name

/-- The functions that are always there. -/
def functions : List String := ["range", "dict", "namespace", "replace_char"]

/-- The value of a name. -/
def lookup (name : String) : Render (Option Value) := do
  let s ← get
  return ((s.frames.findSome? (inFrame s name)).or
    (Keyed.get? s.context (Value.ofString name))).or <|
      if functions.contains name then some (.builtin name) else none

/-- Give a name a value in the innermost frame. -/
def store (name : String) (v : Value) : Render Unit := do
  let s ← get
  match s.frames with
  | [] => return ()
  | f :: rest =>
    set { s with frames := { f with locals := Keyed.insert f.locals name v } :: rest }
    match f.closure with
    | some id => setSpace id (Keyed.insert (← space id) name v)
    | none => return ()

/-- How many frames may be open, routines counting as several. -/
def maxDepth : Nat := 500

/-- Run a step inside a further frame. -/
def inNewFrame {α : Type} (line : Nat) (f : Frame) (step : Render α) : Render α := do
  let s ← get
  if maxDepth ≤ s.depth then failAt line .invalidOperation "recursion limit exceeded"
  set { s with frames := f :: s.frames, depth := s.depth + 1 }
  let a ← step
  modify fun t => { t with frames := t.frames.tail, depth := s.depth }
  return a

/-- Run a step that sees nothing but the context and some shared names. -/
def inRoutine {α : Type} (line closure : Nat) (step : Render α) : Render α := do
  let s ← get
  if maxDepth ≤ s.depth + 5 then failAt line .invalidOperation "recursion limit exceeded"
  set { s with frames := [{ base := some closure }], depth := s.depth + 6 }
  let a ← step
  modify fun t => { t with frames := s.frames, depth := s.depth }
  return a

/-- All names that are visible, outer ones first. -/
def visible : Render (Keyed String Value) := do
  let s ← get
  return s.frames.reverse.foldl (fun names f =>
    let base := (f.base.bind fun id => s.spaces[id]?).getD []
    let loop := match f.loop with
      | some id => [("loop", Value.loop id)]
      | none => []
    Keyed.union (Keyed.union (Keyed.union names base) (Keyed.ofList loop)) f.locals) []

/-- The shared names for routines defined in the innermost frame. -/
def closure : Render Nat := do
  let names ← visible
  let s ← get
  match s.frames with
  | [] => newSpace names
  | f :: rest =>
    match f.closure with
    | some id =>
      setSpace id (Keyed.union names (← space id))
      return id
    | none =>
      let id ← newSpace names
      modify fun t => { t with frames := { f with closure := some id } :: rest }
      return id

/-! ### Text -/

def write (text : String) : Render Unit := modify fun s => { s with out := s.out ++ text }

/-- The text that a step writes, which is taken out of the output. -/
def capture (step : Render Unit) : Render Value := do
  let before := (← get).out
  modify fun s => { s with out := "" }
  step
  let s ← get
  set { s with out := before }
  return .text s.out s.escaping

/-- What a thing that changes looks like now. -/
def resolve (v : Value) : Render Value := do
  match v with
  | .space id => return .ofFields (← space id)
  | .loop id =>
    match (← get).loops[id]? with
    | some l => return .ofString ("<loop " ++ toString l.index ++ "/" ++ toString l.length ++ ">")
    | none => return v
  | v => return v

/-- Print a value, which must exist. -/
def print (line : Nat) (v : Value) : Render Unit := do
  atLine line (BinaryOp.demand v)
  let v ← resolve v
  write (if (← get).escaping then v.printEscaped else v.print)

/-- Whether a value that exists counts as true. -/
def truth (line : Nat) (v : Value) : Render Bool := do
  atLine line (BinaryOp.demand v)
  return v.isTrue

/-! ### Parts of values -/

/-- What a loop knows of itself. -/
def loopAttr? (l : Loop) (name : String) : Option Value :=
  match name with
  | "index0" => some (.ofNat l.index)
  | "index" => some (.ofNat (l.index + 1))
  | "length" => some (.ofNat l.length)
  | "revindex" => some (.ofNat (l.length - l.index))
  | "revindex0" => some (.ofNat (l.length - l.index - 1))
  | "first" => some (.bool (l.index = 0))
  | "last" => some (.bool (l.index + 1 = l.length))
  | "depth" => some (.ofNat (l.depth + 1))
  | "depth0" => some (.ofNat l.depth)
  | "previtem" => some l.previous
  | "nextitem" => some l.following
  | _ => none

/-- The value that another has under a name. -/
def attr? (v : Value) (name : String) : Render (Option Value) := do
  match v with
  | .space id => return Keyed.get? (← space id) name
  | .loop id => return ((← get).loops[id]?).bind fun l => loopAttr? l name
  | .routine id routineName =>
    match name with
    | "name" => return some (.ofString routineName)
    | "arguments" =>
      return ((← get).routines[id]?).map fun r =>
        .ofList (r.parameters.map fun p => .ofString p.name)
    | _ => return none
  | v => return v.attr? name

/-- The value that another has at a key. -/
def item? (v key : Value) : Render (Option Value) := do
  match v, key with
  | .space _, .text s _ => attr? v s
  | .loop _, .text s _ => attr? v s
  | .routine _ _, .text s _ => attr? v s
  | v, key => return v.item? key

/-- A part that may be absent; a part of what does not exist is an error. -/
def partOr (line : Nat) (v : Value) (part : Option Value) : Render Value :=
  match part with
  | some w => pure w
  | none => if v.isUndefined then atLine line refuseUndefined else pure (.undefined false)

/-! ### Functions -/

/-- A whole number of a range. -/
def rangeBound (v : Value) : Outcome Int :=
  ArgumentReader.intWithin "i64" minInt64 maxInt64 v

/-- The whole numbers from `low` up or down to but without `high`. -/
def range (low high step : Int) : Outcome Value :=
  if step = 0 then refuse "cannot create range with step of 0"
  else
    let span := if 0 < step then high - low else low - high
    let count := ((span + (step.natAbs : Int) - 1) / step.natAbs).toNat
    if 100000 < count then refuse "range has too many elements"
    else .ok (.list ((List.range count).map fun (k : Nat) => .int (low + k * step)) true)

/-- The result of a function of the engine. -/
def callBuiltin (name : String) (args : List Value) : Render Value := do
  match name with
  | "range" =>
    atLine 0 <| ArgumentReader.run (do
      let first ← rangeBound (← ArgumentReader.next)
      let second ← ArgumentReader.givenAs? rangeBound
      let step := (← ArgumentReader.givenAs? rangeBound).getD 1
      match second with
      | some high => range first high step
      | none => range 0 first step) args
  | "dict" =>
    atLine 0 <| ArgumentReader.runOn (.apart args) (do
      let base ← match ← ArgumentReader.next? with
        | some (.map entries _) => pure entries
        | some (.undefined _) => pure []
        | none => pure []
        | some v => refuse ("cannot convert " ++ v.kind.word ++ " to map")
      let named := (← get).named
      set ({ positional := (← get).positional, named := [] } : Arguments)
      return .map (Keyed.union base named) false)
  | "namespace" =>
    let fields ← atLine 0 <| ArgumentReader.runOn (.apart args) (do
      let base ← match ← ArgumentReader.next? with
        | some (.map entries _) => pure entries
        | some (.undefined _) => pure []
        | none => pure []
        | some v => refuse ("expected object or keyword arguments, got " ++ v.kind.word)
      let named := (← get).named
      set ({ positional := (← get).positional, named := [] } : Arguments)
      return Keyed.union base named)
    return .space (← newSpace (Keyed.ofList (fields.map fun e => (e.1.print, e.2))))
  | _ =>
    match args with
    | [] => atLine 0 ArgumentReader.missing
    | v :: rest => atLine 0 (Filter.apply name v rest)

/-- Fail on a line if a step fails without one. A step that has no line of its own counts as on line 0. -/
def placing {α : Type} (line : Nat) (step : Render α) : Render α := fun s =>
  match step.run s with
  | .ok r => .ok r
  | .error e => .error (if e.line = some 0 then { e with line := some line } else e.at line)

/-- The values of parameters. -/
def bindParameters (routine : Routine) (args : List Value) : Outcome (List (String × Value)) := do
  let given := Arguments.apart args
  if routine.parameters.length < given.positional.length then
    throw ⟨.tooManyArguments, none, none⟩
  let known := routine.parameters.map Parameter.name
  let rec go : List String → List Value → Outcome (List (String × Value))
    | [], _ => .ok []
    | p :: ps, positional =>
      match positional, Keyed.get? given.named (Value.ofString p) with
      | _ :: _, some _ => .error (.of .tooManyArguments ("duplicate argument \x60" ++ p ++ "\x60"))
      | v :: rest, none => return (p, v) :: (← go ps rest)
      | [], some v => return (p, v) :: (← go ps [])
      | [], none => return (p, .undefined false) :: (← go ps [])
  let bound ← go known given.positional
  match given.named.find? fun e => !(known ++ ["caller"]).contains e.1.print with
  | some e => throw (.of .tooManyArguments ("unknown keyword argument \x60" ++ e.1.print ++ "\x60"))
  | none => return bound ++ (given.named.filter fun e => e.1.print = "caller").map fun e => ("caller", e.2)

/-- How many items of the arguments of a loop are compared. -/
def changed (id : Nat) (args : List Value) : Render Value := do
  let s ← get
  match s.loops[id]? with
  | none => return .bool true
  | some l =>
    let same := match l.seen with
      | some old => Value.sameItems old args
      | none => false
    set { s with loops := s.loops.setIfInBounds id { l with seen := some args } }
    return .bool (!same)

/-- One of several values by the index of a loop. -/
def cycle (id : Nat) (args : List Value) : Render Value := do
  match (← get).loops[id]? with
  | none => return .undefined false
  | some l => return .orUndefined args[l.index % max 1 args.length]?

/-- Assign to a target that needs no attribute. -/
def assignNames : Target → Value → Render Unit
  | .name id, v => store id v
  | .attr _ _, _ => pure ()
  | .several ts line, v => do
    let items ← match v with
      | .text _ _ => failAt line .cannotUnpack "value is not iterable"
      | v =>
        match v.iterate? with
        | some items =>
          if v.isUndefined || v.isNone then failAt line .cannotUnpack "value is not iterable"
          else pure items
        | none => failAt line .cannotUnpack "value is not iterable"
    if items.length ≠ ts.length then
      failAt line .cannotUnpack ("sequence of wrong length (expected " ++ toString ts.length ++
        ", got " ++ toString items.length ++ ")")
    else assignEach ts items
where
  assignEach : List Target → List Value → Render Unit
    | t :: ts, v :: vs => do
      assignNames t v
      assignEach ts vs
    | _, _ => pure ()

mutual

/-- The value of an expression. -/
def eval : Nat → Expr → Render Value
  | 0, e => failAt e.line .invalidOperation "recursion limit exceeded"
  | fuel + 1, e => do
    match e with
    | .name id _ => return .orUndefined (← lookup id)
    | .const v _ => return v
    | .list items _ =>
      let vs ← items.mapM (eval fuel)
      return .ofList vs
    | .map entries _ =>
      let vs ← entries.mapM fun e => do
        let k ← eval fuel e.1
        let v ← eval fuel e.2
        return (k, v)
      return .ofEntries vs
    | .negate a line =>
      let v ← eval fuel a
      atLine line (Template.negate v)
    | .not a line =>
      let v ← eval fuel a
      return .bool (!(← truth line v))
    | .binary .and a b _ =>
      let v ← eval fuel a
      if ← truth a.line v then eval fuel b else return v
    | .binary .or a b _ =>
      let v ← eval fuel a
      if ← truth a.line v then return v else eval fuel b
    | .binary op a b line =>
      let x ← eval fuel a
      let y ← eval fuel b
      atLine line (op.apply (← resolve x) (← resolve y))
    | .choice test yes no _ =>
      let v ← eval fuel test
      if ← truth test.line v then eval fuel yes
      else
        match no with
        | some no => eval fuel no
        | none => return .undefined true
    | .filter name subject args line =>
      let v ← match subject with
        | some e => eval fuel e
        | none => pure (.undefined false)
      let vs ← arguments fuel args
      atLine line (Filter.apply name (← resolve v) vs)
    | .test name subject args line =>
      let v ← eval fuel subject
      let vs ← arguments fuel args
      return .bool (← atLine line (Test.apply name v vs))
    | .attr a name line =>
      let v ← eval fuel a
      partOr line v (← attr? v name)
    | .item a key line =>
      let v ← eval fuel a
      let k ← eval fuel key
      partOr line v (← item? v k)
    | .slice a start stop step line =>
      let v ← eval fuel a
      let bound (e : Option Expr) : Render Value :=
        match e with
        | some e => eval fuel e
        | none => pure .none
      let i ← bound start
      let j ← bound stop
      let k ← bound step
      atLine line (BinaryOp.demand v)
      atLine line (sliceValue v i j k)
    | .call f args line => callExpr fuel f args [] line

/-- The value of a call; `extra` are named arguments that the template does not spell out. -/
def callExpr : Nat → Expr → List Argument → List (Value × Value) → Nat → Render Value
  | 0, _, _, _, line => failAt line .invalidOperation "recursion limit exceeded"
  | fuel + 1, f, args, extra, line => do
    match f with
    | .name "super" _ => failAt line .invalidOperation "cannot super outside of block"
    | .name "loop" _ =>
      let vs ← arguments fuel args
      match vs with
      | [v] => capture (recurse fuel line v)
      | _ => failAt line .invalidOperation "loop() takes one argument"
    | .name id _ =>
      let vs ← arguments fuel args
      let vs := withNamed vs extra
      match ← lookup id with
      | some v => callValue fuel line v vs
      | none => failAt line .unknownFunction (id ++ " is unknown")
    | .attr (.name "self" _) name _ =>
      match (← get).blocks.lookup name with
      | some stmts => capture (inNewFrame line {} (exec fuel stmts))
      | none => failAt line .unknownBlock ("block '" ++ name ++ "' not found")
    | .attr e name _ =>
      let v ← eval fuel e
      let vs ← arguments fuel args
      let vs := withNamed vs extra
      match v, name with
      | .loop id, "cycle" => cycle id vs
      | .loop id, "changed" => changed id vs
      | v, name =>
        match ← attr? v name with
        | some w => callValue fuel line w vs
        | none => failAt line .unknownMethod (v.kind.word ++ " has no method named " ++ name)
    | e =>
      let v ← eval fuel e
      let vs ← arguments fuel args
      callValue fuel line v (withNamed vs extra)
where
  /-- Put further named arguments to those of a call. -/
  withNamed (vs : List Value) (extra : List (Value × Value)) : List Value :=
    if extra.isEmpty then vs
    else
      let given := Arguments.apart vs
      given.positional ++ [.map (Keyed.union given.named extra) true]

/-- The values of arguments; those with names come last, as one map. -/
def arguments : Nat → List Argument → Render (List Value)
  | 0, _ => failAt 0 .invalidOperation "recursion limit exceeded"
  | fuel + 1, args => do
    let mut positional : List Value := []
    let mut named : Option (List (Value × Value)) := none
    for a in args do
      match a with
      | .plain e => positional := positional ++ [← eval fuel e]
      | .named name e =>
        let v ← eval fuel e
        named := some (Keyed.insert (named.getD []) (Value.ofString name) v)
      | .spread e =>
        let v ← eval fuel e
        match v.iterate? with
        | some vs => positional := positional ++ vs
        | none => failAt e.line .invalidOperation (v.kind.word ++ " is not iterable")
      | .spreadNamed e =>
        let v ← eval fuel e
        match v with
        | .map entries _ => named := some (Keyed.union (named.getD []) entries)
        | .undefined _ => named := some (named.getD [])
        | v => failAt e.line .invalidOperation <|
            "attempted to apply keyword arguments from non map (got " ++ v.kind.word ++ ")"
    match named with
    | some entries => return positional ++ [.map entries true]
    | none => return positional

/-- The result of calling a value. -/
def callValue : Nat → Nat → Value → List Value → Render Value
  | 0, line, _, _ => failAt line .invalidOperation "recursion limit exceeded"
  | fuel + 1, line, v, args => do
    match v with
    | .builtin name => placing line (callBuiltin name args)
    | .routine id _ =>
      match (← get).routines[id]? with
      | none => failAt line .invalidOperation "value is not callable"
      | some r =>
        let bound ← atLine line (bindParameters r args)
        capture <| inRoutine line r.closure do
          for (name, v) in bound do
            match v, (r.parameters.find? fun p => p.name == name).bind Parameter.standard with
            | .undefined _, some e =>
              let w ← eval fuel e
              store name w
            | v, _ => store name v
          exec fuel r.body
    | v => failAt line .invalidOperation ("value of type " ++ v.kind.word ++ " is not callable")

/-- Run the innermost loop again on other items. -/
def recurse : Nat → Nat → Value → Render Unit
  | 0, line, _ => failAt line .invalidOperation "recursion limit exceeded"
  | fuel + 1, line, v => do
    let s ← get
    match s.frames.findSome? Frame.loop with
    | none => failAt line .invalidOperation "cannot recurse outside of loop"
    | some id =>
      match s.loops[id]? with
      | some { again := some (target, body), .. } => runLoop fuel line v target true body []
      | _ => failAt line .invalidOperation "cannot recurse outside of recursive loop"

/-- Run a loop over the items of a value. -/
def runLoop : Nat → Nat → Value → Target → Bool → List Stmt → List Stmt → Render Unit
  | 0, line, _, _, _, _, _ => failAt line .invalidOperation "recursion limit exceeded"
  | fuel + 1, line, v, target, recursive, body, otherwise => do
    let v ← resolve v
    let items ← atLine line (Filter.itemsOf v)
    let s ← get
    let depth := match s.frames.findSome? Frame.loop with
      | some id =>
        match s.loops[id]? with
        | some l => if l.again.isSome then l.depth + 1 else 0
        | none => 0
      | none => 0
    let id := s.loops.size
    let again := if recursive then some (target, body) else none
    let start : Loop :=
      ⟨0, items.length, depth, .undefined false, .undefined false, none, again⟩
    set { s with loops := s.loops.push start }
    inNewFrame line { loop := some id } do
      let mut previous := Value.undefined false
      let mut rest := items
      let mut index := 0
      for item in items do
        rest := rest.tail
        let following := Value.orUndefined rest.head?
        let now := index
        let before := previous
        modify fun s => { s with loops := s.loops.modify id fun l =>
          { l with index := now, previous := before, following } }
        assignNames target item
        exec fuel body
        previous := item
        index := index + 1
    if items.isEmpty then exec fuel otherwise

/-- Assign to a target. -/
def assign : Nat → Target → Value → Render Unit
  | 0, _, _ => failAt 0 .invalidOperation "recursion limit exceeded"
  | fuel + 1, target, v => do
    match target with
    | .attr e name =>
      match ← eval fuel e with
      | .space id => setSpace id (Keyed.insert (← space id) name v)
      | w =>
        failAt e.line .invalidOperation ("can only assign to namespaces, not " ++ w.kind.word)
    | t => assignNames t v

/-- A filter of a block on the text of the block. -/
def filterText : Nat → Expr → Value → Render Value
  | 0, e, _ => failAt e.line .invalidOperation "recursion limit exceeded"
  | fuel + 1, e, v => do
    match e with
    | .filter name subject args line =>
      let v ← match subject with
        | some inner => filterText fuel inner v
        | none => pure v
      let vs ← arguments fuel args
      atLine line (Filter.apply name v vs)
    | _ => return v

/-- Run statements in turn. -/
def exec : Nat → List Stmt → Render Unit
  | 0, _ => failAt 0 .invalidOperation "recursion limit exceeded"
  | fuel + 1, stmts => do
    for s in stmts do
      match s with
      | .data text => write text
      | .print (.call (.name "loop" _) args line) =>
        let vs ← arguments fuel args
        match vs with
        | [v] => recurse fuel line v
        | _ => failAt line .invalidOperation "loop() takes one argument"
      | .print e =>
        let v ← eval fuel e
        print e.line v
      | .forEach target items condition recursive body otherwise =>
        let v ← eval fuel items
        match condition with
        | none => runLoop fuel items.line v target recursive body otherwise
        | some c =>
          let all ← atLine items.line (Filter.itemsOf (← resolve v))
          let kept ← inNewFrame items.line {} <| all.filterM fun item => do
            assignNames target item
            let w ← eval fuel c
            truth c.line w
          runLoop fuel items.line (.ofList kept) target recursive body otherwise
      | .branch test yes no =>
        let v ← eval fuel test
        if ← truth test.line v then exec fuel yes else exec fuel no
      | .within assignments body =>
        inNewFrame 0 {} do
          for (t, e) in assignments do
            let v ← eval fuel e
            assignNames t v
          exec fuel body
      | .assign target e =>
        let v ← eval fuel e
        assign fuel target v
      | .assignBlock target filter body =>
        let v ← capture (exec fuel body)
        let v ← match filter with
          | some f => filterText fuel f v
          | none => pure v
        assign fuel target v
      | .escaping mode body =>
        let v ← eval fuel mode
        let on ← match v with
          | .text "html" _ => pure true
          | .text "none" _ => pure false
          | .text _ _ => failAt mode.line .invalidOperation "invalid value to autoescape tag"
          | v => pure (v == .bool true)
        let before := (← get).escaping
        modify fun s => { s with escaping := on }
        exec fuel body
        modify fun s => { s with escaping := before }
      | .filterBlock filter body =>
        let v ← capture (exec fuel body)
        let w ← filterText fuel filter v
        print filter.line w
      | .block _ body => inNewFrame 0 {} (exec fuel body)
      | .extend e =>
        match ← eval fuel e with
        | .text name _ =>
          failAt e.line .templateNotFound ("template " ++ quoted name ++ " does not exist")
        | _ => failAt e.line .invalidOperation "template name was not a string"
      | .insert e mayBeMissing =>
        let v ← eval fuel e
        let names := match v with
          | .list items _ => items
          | v => [v]
        for n in names do
          if n.asText?.isNone then failAt e.line .invalidOperation "template name was not a string"
        if !mayBeMissing then
          match names with
          | [] => pure ()
          | [n] => failAt e.line .templateNotFound ("tried to include non-existing template " ++ n.nested)
          | several =>
            failAt e.line .templateNotFound <|
              "tried to include one of multiple templates, none of which existed " ++
                (Value.ofList several).print
      | .define name parameters body =>
        let c ← closure
        let s ← get
        set { s with routines := s.routines.push ⟨name, parameters, body, c⟩ }
        store name (.routine s.routines.size name)
      | .callBlock parameters f args line body =>
        let c ← closure
        let s ← get
        set { s with routines := s.routines.push ⟨"caller", parameters, body, c⟩ }
        let caller := Value.routine s.routines.size "caller"
        let v ← callExpr fuel f args [(.ofString "caller", caller)] line
        print line v
      | .perform e =>
        let _ ← eval fuel e

end

end Render

mutual

/-- The blocks of a statement with their names. -/
def blocksIn : Stmt → List (String × List Stmt)
  | .forEach _ _ _ _ b o => blocksOf b ++ blocksOf o
  | .branch _ y n => blocksOf y ++ blocksOf n
  | .within _ b => blocksOf b
  | .assignBlock _ _ b => blocksOf b
  | .escaping _ b => blocksOf b
  | .filterBlock _ b => blocksOf b
  | .block s b => (s, b) :: blocksOf b
  | _ => []

def blocksOf : List Stmt → List (String × List Stmt)
  | [] => []
  | s :: rest => blocksIn s ++ blocksOf rest

end

/-- The text of a template in which the given names have values. -/
def render (template : String) (context : Keyed String Json) : Except Error String := do
  let stmts ← Grammar.ofTemplate template
  let values := context.map fun e => (Value.ofString e.1, Value.ofJson e.2)
  let fuel := 1000 * (template.length + 100)
  let (_, final) ← (Render.exec fuel stmts).run { context := values, blocks := blocksOf stmts }
  return final.out

end Provision.Template
