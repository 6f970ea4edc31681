import CodeAtlas.Index
import CodeAtlas.Module.Declaration

/-!
# Commands of a module

Two ways to declare a command are known: a parser that is added in a block of statements, to which
later statements of the block add arguments, and a function with decorators. Only names that are
written out count.
-/

namespace CodeAtlas.Module

/-! ## Parts of declarations -/

/-- A text that is written out. -/
def Expr.literalText : Expr → Option String
  | .constant (.text s _) => some s
  | _ => none

/-- A text that is written out and not empty. -/
def Expr.filledText (e : Expr) : Option String := e.literalText.filter (· != "")

/-- The texts that are written out in a list. -/
def Expr.listedTexts : Expr → List String
  | .list elements => elements.filterMap Expr.filledText
  | .tuple elements => elements.filterMap Expr.filledText
  | _ => []

/-- The last part of the name of what is called. -/
def Expr.calleeName : Expr → Option String
  | .attribute _ attr => some attr
  | .name id _ => some id
  | _ => none

/-- Does the call go to a method of this name? -/
def Call.isMethod (c : Call) (method : String) : Bool :=
  match c.func with
  | .attribute _ attr => attr = method
  | _ => false

/-- The values of the arguments by keyword of a name. -/
def Call.keyword (c : Call) (name : String) : List Expr :=
  (c.keywords.filter (·.name = some name)).map (·.value)

/-- The options and arguments that a command takes. -/
structure Inputs where
  options : List String
  arguments : List String

def Inputs.append (a b : Inputs) : Inputs := ⟨a.options ++ b.options, a.arguments ++ b.arguments⟩

instance : Append Inputs := ⟨Inputs.append⟩

def Inputs.empty : Inputs := ⟨[], []⟩

/-- A command with its lists in order. -/
def commandOf (s : Source) (name : String) (aliases : List String) (inputs : Inputs) (line : Nat) :
    Command where
  name := name
  aliases := sortedSet aliases
  options := sortedSet inputs.options
  arguments := sortedSet inputs.arguments
  file := s.path
  line := line

/-! ## Added parsers -/

/-- The call that a statement consists of, with its line and the variable that gets the value. -/
def Stmt.call? : Stmt → Option (Nat × Option String × Call)
  | .assign line targets (.call callLine func args keywords) =>
    let var := match targets with
      | [.name id _] => some id
      | _ => none
    some (line, var, ⟨callLine, func, args, keywords⟩)
  | .expr line (.call callLine func args keywords) =>
    some (line, none, ⟨callLine, func, args, keywords⟩)
  | _ => none

/-- What a call that adds an argument says: options begin with two dashes. -/
def Call.inputs (c : Call) : Inputs :=
  match c.args.filterMap Expr.filledText with
  | [] => .empty
  | flag :: flags =>
    if Text.startsWith flag "-" then ⟨(flag :: flags).filter (Text.startsWith · "--"), []⟩
    else ⟨[], [flag]⟩

/-- Is the call on the variable? -/
def Call.isOn (c : Call) (var : String) : Bool :=
  match c.func with
  | .attribute (.name id _) _ => id = var
  | _ => false

/-- What some statements add to the parser in a variable. -/
def inputsOf (var : String) (later : List Stmt) : Inputs :=
  let calls := (walkFrom (Node.stmts later)).filterMap Node.call?
  let adding := calls.filter fun c => c.isMethod "add_argument" && c.isOn var
  (adding.map Call.inputs).foldl (· ++ ·) .empty

/-- The command that a statement adds, with what later statements of its block add to it. -/
def addedCommand (s : Source) (stmt : Stmt) (later : List Stmt) : Option Command := do
  let (line, var, c) ← stmt.call?
  let name ← if c.isMethod "add_parser" then c.args.head?.bind Expr.filledText else none
  let aliases := (c.keyword "aliases").flatMap Expr.listedTexts
  return commandOf s name aliases ((var.map (inputsOf · later)).getD .empty) line

/-- The commands that the statements of a block add. -/
def blockCommands (s : Source) : List Stmt → List Command
  | [] => []
  | stmt :: later => (addedCommand s stmt later).toList ++ blockCommands s later

/-- The blocks that stand directly in a node. -/
def Node.blocks : Node → List (List Stmt)
  | .stmt (.function _ _ _ body _ _) => [body]
  | .stmt (.classDef _ _ _ _ body _) => [body]
  | .stmt (.branch _ _ body orElse) => [body, orElse]
  | .stmt (.loop _ body orElse) => [body, orElse]
  | .stmt (.managed _ body) => [body]
  | .stmt (.attempt _ body _ orElse final) => [body, orElse, final]
  | .handler h => [h.body]
  | .case c => [c.body]
  | _ => []

/-! ## Decorated functions -/

/-- The name of a command that a function of some name runs. -/
def commandName (functionName : String) : String :=
  Text.replaceChar '_' '-' (Text.lower functionName)

/-- The calls among decorators. -/
def decoratorCalls (decorators : List Expr) : List Call :=
  decorators.filterMap fun d => (Node.expr d).call?

/-- The name that a decorator gives a command: a keyword counts before the first argument, and the
function's name is used where neither is written out. -/
def givenName (functionName : String) (c : Call) : String :=
  let named := (c.keyword "name").getLast?.or c.args.head?
  (named.bind Expr.filledText).getD (commandName functionName)

/-- What a decorator says about options and arguments. -/
def decoratorInputs (c : Call) : Inputs :=
  match c.func.calleeName with
  | some "option" => ⟨(c.args.filterMap Expr.filledText).filter (Text.startsWith · "--"), []⟩
  | some "argument" => ⟨[], (c.args.head?.bind Expr.filledText).toList⟩
  | _ => .empty

/-- The command that a decorated function runs. The last decorator that names it counts. -/
def decoratedCommand (s : Source) : Node → Option Command
  | .stmt (.function line name _ _ decorators _) => do
    let calls := decoratorCalls decorators
    let c ← (calls.filter (·.func.calleeName = some "command")).getLast?
    return commandOf s (givenName name c) [] ((calls.map decoratorInputs).foldl (· ++ ·) .empty) line
  | _ => none

/-! ## All of them -/

/-- The commands that a module declares. -/
def Source.commands (s : Source) : List Command :=
  blockCommands s s.body ++ (walkFrom (Node.stmts s.body)).flatMap fun n =>
    n.blocks.flatMap (blockCommands s) ++ (decoratedCommand s n).toList

end CodeAtlas.Module
