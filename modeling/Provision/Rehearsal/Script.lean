import Provision.Disk
import Provision.Json.Parse
import Provision.Overlay.Program

/-!
Small scripts for the shell, as a rehearsal runs them: simple commands in sequence, with quotes,
parameters, documents that stand in the script, and output that is sent to the other stream, written to a file or
dropped. A line is read as a whole before any of its commands runs. Scripts are read byte by byte: where characters
stand here, each is the one with the number of its byte.
-/

namespace Provision.Script

def charsOf (bytes : List UInt8) : List Char := bytes.map fun b => Char.ofNat b.toNat

def bytesOf (s : String) : List UInt8 := s.toList.map fun c => c.toNat.toUInt8

/-! ### Reading -/

/-- The blanks at which the value of a parameter is cut. -/
def isGap (c : Char) : Bool := c == ' ' || c == '\t' || c == '\n'

/-- A piece of a word. -/
inductive Piece where
  | char (c : Char)
  /-- A parameter; unless it stands in quotes, blanks in its value cut the word. -/
  | parameter (name : String) (quoted : Bool)
  /-- Quotes, which make a word even of nothing. -/
  | quotes
deriving DecidableEq, Repr

abbrev Word := List Piece

/-- What stands behind the sign of a redirection. -/
inductive Target where
  | stream (n : Nat)
  /-- A file, which may be written from its end on. -/
  | file (path : Word) (atEnd : Bool)
deriving DecidableEq, Repr

inductive Token where
  | word (w : Word)
  | semicolon
  | andThen
  | orElse
  | lineEnd
  /-- What is written to one stream goes to another, or to a file. -/
  | redirect (stream : Nat) (target : Target)
  /-- A document to be read by the command. -/
  | document (text : Word)
  /-- The rest cannot be read. -/
  | fault (message : String)
deriving DecidableEq, Repr

def unterminated : String := "Syntax error: Unterminated quoted string"

def isNameStart (c : Char) : Bool := c.isAlpha || c == '_'
def isNameChar (c : Char) : Bool := c.isAlphanum || c == '_'

/-- A parameter after its dollar sign; a lone dollar sign stands for itself. -/
def readParameter (quoted : Bool) : List Char → Piece × List Char
  | '\x7b' :: s =>
    let name := s.takeWhile (· ≠ '\x7d')
    (.parameter (String.ofList name) quoted, s.drop (name.length + 1))
  | c :: s =>
    if isNameStart c then
      let name := (c :: s).takeWhile isNameChar
      (.parameter (String.ofList name) quoted, (c :: s).drop name.length)
    else if c.isDigit || "#?$@*".toList.contains c then (.parameter c.toString quoted, s)
    else (.char '$', c :: s)
  | [] => (.char '$', [])

/-- What double quotes hold, up to the closing one. -/
def readQuoted : Nat → List Char → Except String (Word × List Char)
  | 0, _ => .error unterminated
  | _ + 1, [] => .error unterminated
  | fuel + 1, c :: s =>
    if c = '"' then .ok ([], s)
    else
      let (piece, s) : Option Piece × List Char :=
        if c = '$' then (readParameter true s).map some id
        else if c = '\\' then
          match s with
          | d :: s =>
            if d = '\n' then (none, s)
            else if "$\x60\"\\".toList.contains d then (some (.char d), s) else (some (.char c), d :: s)
          | [] => (some (.char c), [])
        else (some (.char c), s)
      (readQuoted fuel s).map fun (w, rest) => (piece.toList ++ w, rest)

/-- The characters that end a word. -/
def endsWord (c : Char) : Bool := " \t\n;&|<>".toList.contains c

/-- A word up to its end. -/
def readWord : Nat → List Char → Except String (Word × List Char)
  | 0, s => .ok ([], s)
  | _ + 1, [] => .ok ([], [])
  | fuel + 1, c :: s =>
    if endsWord c then .ok ([], c :: s)
    else if c = '\'' then
      let held := s.takeWhile (· ≠ '\'')
      match s.drop held.length with
      | [] => .error unterminated
      | _ :: s => (readWord fuel s).map fun (w, rest) => (.quotes :: held.map .char ++ w, rest)
    else if c = '"' then
      match readQuoted (s.length + 1) s with
      | .error e => .error e
      | .ok (held, s) => (readWord fuel s).map fun (w, rest) => (.quotes :: held ++ w, rest)
    else
      let (pieces, s) : Word × List Char :=
        if c = '$' then (readParameter false s).map ([·]) id
        else if c = '\\' then
          match s with
          | '\n' :: s => ([], s)
          | d :: s => ([.quotes, .char d], s)
          | [] => ([.char c], [])
        else ([.char c], s)
      (readWord fuel s).map fun (w, rest) => (pieces ++ w, rest)

/-- The plain characters of a word. -/
def plain (w : Word) : List Char :=
  w.filterMap fun
    | .char c => some c
    | _ => none

/-- A document in the lines after the current one, up to the line that ends it. -/
def takeDocument (ending : List Char) : List (List Char) → List (List Char) × List (List Char)
  | [] => ([], [])
  | line :: rest =>
    if line = ending then ([], rest)
    else
      let (held, rest) := takeDocument ending rest
      (line :: held, rest)

/-- The pieces of a document; parameters count unless its ending was quoted. -/
def documentPieces (literal : Bool) (text : List Char) : Word :=
  if literal then text.map .char
  else
    match readQuoted (text.length + 2) ((text.flatMap fun c => if c = '"' then ['\\', c] else [c]) ++ ['"']) with
    | .ok (w, _) => w
    | .error _ => text.map .char

/-- Where the output of a stream goes that is redirected. -/
def redirection (stream : Nat) (atEnd : Bool) (w : Word) : Token :=
  match plain w with
  | ['&', '1'] => .redirect stream (.stream 1)
  | ['&', '2'] => .redirect stream (.stream 2)
  | _ => .redirect stream (.file w atEnd)

/-- The tokens of a script. -/
def tokens : Nat → List Char → List Token
  | 0, _ => []
  | _ + 1, [] => [.lineEnd]
  | fuel + 1, c :: s =>
    match c, s with
    | ' ', s => tokens fuel s
    | '\t', s => tokens fuel s
    | '\\', '\n' :: s => tokens fuel s
    | '\n', s => .lineEnd :: tokens fuel s
    | '#', s => tokens fuel (s.dropWhile (· ≠ '\n'))
    | ';', s => .semicolon :: tokens fuel s
    | '&', '&' :: s => .andThen :: tokens fuel s
    | '|', '|' :: s => .orElse :: tokens fuel s
    | '1', '>' :: s => redirected fuel 1 s
    | '2', '>' :: s => redirected fuel 2 s
    | '>', s => redirected fuel 1 s
    | '<', '<' :: s =>
      match readWord (s.length + 1) (s.dropWhile isGap) with
      | .error e => [.fault e]
      | .ok (ending, s) =>
        let line := s.takeWhile (· ≠ '\n')
        let (held, rest) := takeDocument (plain ending) (pieces '\n' (s.drop (line.length + 1)))
        let text := held.flatMap fun l => l ++ ['\n']
        .document (documentPieces (ending.contains .quotes) text) ::
          tokens fuel (line ++ '\n' :: (List.intersperse ['\n'] rest).flatten)
    | c, s =>
      if endsWord c then [.fault ("Syntax error: \"" ++ c.toString ++ "\" unexpected")]
      else
        match readWord (s.length + 2) (c :: s) with
        | .error e => [.fault e]
        | .ok (w, rest) => .word w :: tokens fuel rest
where
  /-- A redirection after its sign. -/
  redirected (fuel : Nat) (stream : Nat) (s : List Char) : List Token :=
    let atEnd := s.head? = some '>'
    let s := (if atEnd then s.drop 1 else s).dropWhile isGap
    let (mark, s) := match s with
      | '&' :: s => ([Piece.char '&'], s)
      | s => ([], s)
    match readWord (s.length + 1) s with
    | .error e => [.fault e]
    | .ok (w, rest) => redirection stream atEnd (mark ++ w) :: tokens fuel rest

/-- When a command runs, by how the one before it ended. -/
inductive Link where
  | always
  | ifSucceeded
  | ifFailed
deriving DecidableEq, Repr

structure Command where
  link : Link := .always
  words : List Word := []
  redirects : List (Nat × Target) := []
  input : Word := []
deriving Repr

/-- Whether nothing has been said about a command yet. -/
def Command.isBlank (c : Command) : Bool := c.words.isEmpty && c.redirects.isEmpty

/-- The lines of a script: what is wrong with a line, or its commands. The last line may be cut short. -/
def linesOf : List Token → Command → List Command → List (Except String (List Command))
  | [], _, _ => []
  | t :: rest, current, done =>
    let close := if current.isBlank then done else done ++ [current]
    match t with
    | .word w => linesOf rest { current with words := current.words ++ [w] } done
    | .redirect n target =>
      linesOf rest { current with redirects := current.redirects ++ [(n, target)] } done
    | .document text => linesOf rest { current with input := text } done
    | .semicolon =>
      if current.isBlank then [.error "Syntax error: \";\" unexpected"]
      else linesOf rest {} close
    | .andThen =>
      if current.isBlank then [.error "Syntax error: \"&&\" unexpected"]
      else linesOf rest { link := .ifSucceeded } close
    | .orElse =>
      if current.isBlank then [.error "Syntax error: \"||\" unexpected"]
      else linesOf rest { link := .ifFailed } close
    | .lineEnd =>
      if current.isBlank && current.link ≠ .always then linesOf rest current done
      else .ok close :: linesOf rest {} []
    | .fault message => [.error message]

/-! ### Running -/

/-- Where a stream leads. -/
inductive Sink where
  | stream (n : Nat)
  | file (path : RawText)
  | nowhere
deriving DecidableEq

/-- A running script. -/
structure Run where
  /-- The script and its arguments. -/
  arguments : List String
  disk : Disk.Node
  line : Nat := 1
  status : Nat := 0
  ended : Option ExitStatus := none
  output : List UInt8 := []
  complaints : List UInt8 := []

/-- The number that stands for the script's own process. -/
def processMark : String := "\x00self"

/-- The value of a parameter. -/
def Run.valueOf (r : Run) (name : String) : String :=
  match name with
  | "#" => toString (r.arguments.length - 1)
  | "?" => toString r.status
  | "$" => processMark
  | "@" | "*" => " ".intercalate r.arguments.tail
  | name => match name.toNat? with
    | some n => r.arguments.getD n ""
    | none => ""

/-- The fields that a word expands to. `field` is the one being put together, if there is one. -/
def Run.expand (r : Run) : Word → Option (List Char) → List String
  | [], none => []
  | [], some field => [String.ofList field]
  | .char c :: w, field => r.expand w (some (field.getD [] ++ [c]))
  | .quotes :: w, field => r.expand w (some (field.getD []))
  | .parameter name quoted :: w, field =>
    let value := (r.valueOf name).toList
    if quoted then r.expand w (some (field.getD [] ++ value))
    else
      let parts := (value.splitBy fun a b => !isGap a && !isGap b).filter fun p => !p.all isGap
      match parts.reverse with
      | [] => r.expand w field
      | last :: before =>
        let first := before.reverse
        match first with
        | [] => r.expand w (some (field.getD [] ++ last))
        | head :: middle =>
          String.ofList (field.getD [] ++ head) :: middle.map String.ofList ++ r.expand w (some last)

/-- Give a file its content, if there is a directory for it. -/
def Run.store (r : Run) (path : RawText) (content : List UInt8) : Except Disk.Fault Run :=
  let names := (Disk.names path).filter fun (name : RawText) => name ≠ "" && name ≠ "."
  (Disk.write names (.file content) r.disk).map fun disk => { r with disk }

/-- What a file holds; one that is not there yet holds nothing. -/
def Run.contentOf (r : Run) (path : RawText) : List UInt8 :=
  match Disk.read r.disk path with
  | .ok content => content
  | .error _ => []

/-- Open what a redirection leads to. A file is there from then on. -/
def Run.openTarget (r : Run) : Target → Except String (Run × Sink)
  | .stream n => .ok (r, .stream n)
  | .file w atEnd =>
    let name := String.join (r.expand w (some []))
    let path : RawText := ⟨bytesOf name⟩
    if name = "/dev/null" then .ok (r, .nowhere)
    else
      match r.store path (if atEnd then r.contentOf path else []) with
      | .ok r => .ok (r, .file path)
      | .error .isDirectory => .error ("cannot create " ++ name ++ ": Is a directory")
      | .error _ => .error ("cannot create " ++ name ++ ": Directory nonexistent")

/-- Open what the redirections of a command lead to, from left to right. -/
def Run.openAll (r : Run) : List (Nat × Target) → Except String (Run × List (Nat × Sink))
  | [] => .ok (r, [])
  | (stream, target) :: rest => do
    let (r, sink) ← r.openTarget target
    let (r, sinks) ← r.openAll rest
    return (r, (stream, sink) :: sinks)

/-- Write to a stream that may be redirected; later redirections see the earlier ones. -/
def Run.write (r : Run) (sinks : List (Nat × Sink)) (stream : Nat) (bytes : List UInt8) : Run :=
  let final := sinks.reverse.foldl (fun (now : Sink) e => if now = .stream e.1 then e.2 else now) (.stream stream)
  match final with
  | .stream 1 => { r with output := r.output ++ bytes }
  | .stream 2 => { r with complaints := r.complaints ++ bytes }
  | .file path => (r.store path (r.contentOf path ++ bytes)).toOption.getD r
  | _ => r

/-- A complaint of the shell about the current line. -/
def Run.complain (r : Run) (sinks : List (Nat × Sink)) (message : String) : Run :=
  r.write sinks 2 (bytesOf (r.arguments.headD "sh" ++ ": " ++ toString r.line ++ ": " ++ message ++ "\n"))

/-- The value of up to three octal digits, and how many there are. -/
def octal (s : List Char) : UInt8 × Nat :=
  let ds := (s.takeWhile fun c => '0' ≤ c && c ≤ '7').take 3
  ((ds.foldl (fun (n : Nat) (d : Char) => n * 8 + (d.toNat - 48)) 0).toUInt8, ds.length)

/-- The plain escapes. -/
def escapes : List (Char × UInt8) :=
  [('a', 7), ('b', 8), ('f', 12), ('n', 10), ('r', 13), ('t', 9), ('v', 11), ('\\', 92)]

/-- The bytes of a text with escapes. `echo` says whether an octal escape may start with an extra zero. -/
def unescape (echo : Bool) : Nat → List Char → List UInt8
  | 0, _ => []
  | _ + 1, [] => []
  | fuel + 1, '\\' :: e :: s =>
    match escapes.lookup e with
    | some b => b :: unescape echo fuel s
    | none =>
      if '0' ≤ e && e ≤ '7' then
        let digits := if echo && e = '0' then s else e :: s
        let (b, n) := octal digits
        b :: unescape echo fuel (digits.drop n)
      else 92 :: unescape echo fuel (e :: s)
  | fuel + 1, c :: s => bytesOf c.toString ++ unescape echo fuel s

def unescaped (echo : Bool) (s : List Char) : List UInt8 := unescape echo (s.length + 1) s

/-- One pass over the format of `printf`: the bytes, the arguments that are left, and whether any were
asked for. -/
def formatOnce : Nat → List Char → List String → List UInt8 × List String × Bool
  | 0, _, args => ([], args, false)
  | _ + 1, [], args => ([], args, false)
  | fuel + 1, '%' :: d :: s, args =>
    if d = '%' then
      let (bytes, args, asked) := formatOnce fuel s args
      (37 :: bytes, args, asked)
    else
      let value := args.headD (if d = 's' then "" else "0")
      let (bytes, args, _) := formatOnce fuel s args.tail
      (bytesOf value ++ bytes, args, true)
  | fuel + 1, '\\' :: e :: s, args =>
    let n := if '0' ≤ e && e ≤ '7' then (octal (e :: s)).2 - 1 else 0
    let (bytes, args, asked) := formatOnce fuel (s.drop n) args
    (unescaped false ('\\' :: e :: s.take n) ++ bytes, args, asked)
  | fuel + 1, c :: s, args =>
    let (bytes, args, asked) := formatOnce fuel s args
    (bytesOf c.toString ++ bytes, args, asked)

/-- What `printf` writes: the format is used again as long as arguments are left. -/
def formatAll : Nat → List Char → List String → List UInt8
  | 0, _, _ => []
  | fuel + 1, format, args =>
    let (bytes, left, asked) := formatOnce (format.length + 1) format args
    if asked && !left.isEmpty then bytes ++ formatAll fuel format left else bytes

/-- The signal that an option of `kill` names. -/
def signalNamed (option : String) : Nat :=
  match option.toNat? with
  | some n => n
  | none =>
    ((ExitStatus.signalNames.find? fun e => e.2 = option || e.2 = "SIG" ++ option).map Prod.fst).getD 15

/-- The signal that `kill` sends, from its arguments before the process. -/
def signalOf : List String → Nat
  | ["-s", name] => signalNamed name
  | [option] => signalNamed (option.drop 1).toString
  | _ => 15

/-- What `cat` does with its files. -/
def Run.catFiles (r : Run) (sinks : List (Nat × Sink)) : List String → Run
  | [] => r
  | path :: rest =>
    match Disk.read r.disk ⟨bytesOf path⟩ with
    | .ok bytes => (r.write sinks 1 bytes).catFiles sinks rest
    | .error e =>
      let why := match e with
        | .isDirectory => "Is a directory"
        | _ => "No such file or directory"
      ({ r with status := 1 }.write sinks 2
        (bytesOf ("cat: " ++ path ++ ": " ++ why ++ "\n"))).catFiles sinks rest

/-- Run a command by its name and arguments, with the document that it may read. -/
def Run.command (r : Run) (sinks : List (Nat × Sink)) (input : Word) (name : String) (args : List String) : Run :=
  let write := { r with status := 0 }.write sinks
  match name with
  | "true" | ":" => { r with status := 0 }
  | "false" => { r with status := 1 }
  | "echo" =>
    let (args, ending) := match args with
      | "-n" :: args => (args, "")
      | args => (args, "\n")
    write 1 (unescaped true (" ".intercalate args).toList ++ bytesOf ending)
  | "printf" =>
    match args with
    | [] => { r with status := 2 }.complain sinks "printf: usage: printf format [arg ...]"
    | format :: args => write 1 (formatAll (args.length + 1) format.toList args)
  | "cat" =>
    if args.isEmpty then write 1 (bytesOf (String.join (r.expand input (some []))))
    else { r with status := 0 }.catFiles sinks args
  | "exit" =>
    match args.head? with
    | none => { r with ended := some (.code r.status) }
    | some n =>
      match n.toNat? with
      | some n => { r with ended := some (.code (n % 256)) }
      | none => { r with ended := some (.code 2) }.complain sinks ("exit: Illegal number: " ++ n)
  | "kill" =>
    if args.getLast? = some processMark then
      { r with ended := some (.signal (signalOf args.dropLast)) }
    else { r with status := 1 }
  | name => { r with status := 127 }.complain sinks (name ++ ": not found")

/-- Run a command if its link lets it. -/
def Run.step (r : Run) (c : Command) : Run :=
  let wanted := match c.link with
    | .always => true
    | .ifSucceeded => r.status = 0
    | .ifFailed => r.status ≠ 0
  if r.ended.isSome || !wanted then r
  else
    let words := c.words.flatMap fun w => r.expand w none
    match r.openAll c.redirects with
    | .error message => { r with status := 2 }.complain [] message
    | .ok (r, sinks) =>
      match words with
      | [] => { r with status := 0 }
      | name :: args => r.command sinks c.input name args

/-- Run the lines of a script. -/
def Run.lines (r : Run) : List (Except String (List Command)) → Run
  | [] => r
  | line :: rest =>
    if r.ended.isSome then r
    else
      match line with
      | .error message => { r with ended := some (.code 2) }.complain [] message
      | .ok commands =>
        let after := commands.foldl Run.step r
        { after with line := r.line + 1 }.lines rest

/-- Run a script by its path. It may change the disk. -/
def run (disk : Disk.Node) (path : String) (arguments : List String) : ProgramResult × Disk.Node :=
  match Disk.read disk path with
  | .error _ =>
    ({ status := .code 2,
       complaints := Utf8.encode ("sh: 0: cannot open " ++ path ++ ": No such file\n") }, disk)
  | .ok bytes =>
    let text := charsOf bytes
    let arguments := (path :: arguments).map fun s => String.ofList (charsOf (Utf8.encode s))
    let r := ({ arguments, disk } : Run).lines (linesOf (tokens (2 * text.length + 2) text) {} [])
    ({ status := r.ended.getD (.code r.status), output := r.output, complaints := r.complaints }, r.disk)

end Provision.Script
