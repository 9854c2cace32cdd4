/-
Exemplar.Shell.Simple — simple commands.

A simple command is carried out in this order: its words are expanded, and what does it is looked
for; its redirections are made; its assignments are made, which stay only before a special command
or where there is no command; it is told, if that is asked for; and it is done by the shell, by a
function or by a program.

  §1 words of a command
  §2 assignments and telling
  §3 doing
  §4 all in order
-/
import Exemplar.Shell.Builtin
import Exemplar.Shell.Prompt
import Exemplar.Shell.Redirect

namespace Exemplar.Shell

/-! ## §1 Words of a command -/

/-- What is known of who does a command before its redirections are made. -/
inductive Expected where
  | nobody
  | builtin (traits : Traits)
  /-- It is looked for when the redirections and assignments are made. -/
  | sought

/-- What is known of who does the command of a name; `direct` passes functions over. -/
def expectedOf (s : State) (direct : Bool) (name : String) : Expected :=
  match doerAtOnce? s direct name with
  | some (.builtin traits) => .builtin traits
  | _ => .sought

/-- A command, as far as its words are expanded. -/
structure Invocation where
  /-- All fields. -/
  fields : List String := []
  /-- How many of them only say how the command is looked for. -/
  passed : Nat := 0
  /-- The words that are not expanded yet. -/
  words : List Word
  doer : Expected := .nobody
  /-- Whether the first thing that was found is a special command, or there is no command. -/
  isVital : Bool := false
  /-- The search path if it is not the usual one. -/
  searchPath : Option String := none

/-- The command with its arguments. -/
def Invocation.argv (call : Invocation) : List String := call.fields.drop call.passed

/-- Whether functions are passed over. -/
def Invocation.isDirect (call : Invocation) : Bool := 0 < call.passed

/-- Expands words up to the first that gives a field. -/
def Invocation.fill (engine : Engine) (fields : List String) (passed : Nat) :
    List Word → Act (List String × List Word)
  | [] => return (fields, [])
  | word :: words => do
    let fields := fields ++ (← expandFields (capture engine) word)
    if passed < fields.length then return (fields, words) else fill engine fields passed words

/-- Passes over a word that asks for a command without functions, and over its options. Gives none
if it asks for something else. -/
def Invocation.pass (engine : Engine) : (fuel : Nat) → Invocation → Act (Invocation × Bool)
  | 0, call => return (call, false)
  | fuel + 1, call => do
    let passed := call.passed + 1
    let (fields, words) ← if passed < call.fields.length then pure (call.fields, call.words)
      else fill engine call.fields passed call.words
    match (fields.drop passed).map String.toList with
    | [] => return ({ call with fields, words }, false)
    | ['-', '-'] :: _ =>
      let after := passed + 1
      let (fields, words) ← if after < fields.length then pure (fields, words)
        else fill engine fields after words
      if after < fields.length then return ({ call with fields, words, passed := after }, true)
      else return ({ call with fields, words }, false)
    | ('-' :: c :: cs) :: _ =>
      if (c :: cs).all (· = 'p') then
        let (next, isFound) ← pass engine fuel
          { call with fields, words, passed, searchPath := some standardPath }
        return (if isFound then next else { next with passed := call.passed }, isFound)
      else return ({ call with fields, words }, false)
    | _ => return ({ call with fields, words, passed }, true)

/-- Finds out what does a command, passing over the words that only say how it is looked for. -/
def Invocation.find (engine : Engine) (direct : Bool) : (fuel : Nat) → Invocation → Act Invocation
  | 0, call => return call
  | fuel + 1, call => do
    let name := call.argv.head?.getD ""
    let doer := expectedOf (← get) direct name
    let call := { call with doer }
    match doer with
    | .builtin traits =>
      let call := if direct then call else { call with isVital := traits.special }
      if name ≠ "command" then return call
      else
        let (next, isFound) ← call.pass engine (call.fields.length + call.words.length + 1)
        if isFound then find engine true fuel next else return next
    | _ => return call

/-- Expands the words of a command. -/
def Invocation.ofWords (engine : Engine) (words : List Word) : Act Invocation := do
  let (fields, words) ← fill engine [] 0 words
  if fields.isEmpty then return { words := [], isVital := true }
  else
    let call ← Invocation.find engine false (words.length + fields.length + 1) { fields, words }
    let assigns := match call.doer with
      | .builtin traits => traits.assigns
      | _ => false
    let rest ← call.words.mapM fun word => do
      if assigns && Word.isAssignment word then
        return [← expandText (capture engine) .assign word]
      else expandFields (capture engine) word
    return { call with fields := call.fields ++ rest.flatten, words := [] }

/-! ## §2 Assignments and telling -/

/-- Makes the assignments before a command; gives them as texts. -/
def assignBefore (engine : Engine) (isLocal exported : Bool) : List Word → Act (List String)
  | [] => return []
  | word :: words => do
    let text ← expandText (capture engine) .assign word
    let (name, value) := Variables.splitAssign text
    if isLocal then remember name
    assign name (value.getD "") (isLocal || exported)
    return text :: (← assignBefore engine isLocal exported words)

/-- Tells a command, if that is asked for. -/
def trace (engine : Engine) (kept : Kept) (words : List String) : Act Unit := do
  let s ← get
  if s.has 'x' && !s.isTracing then
    modify fun s => { s with isTracing := true }
    let prompt ← promptText engine "PS4"
    modify fun s => { s with isTracing := false }
    let descriptor := ((kept.lookup 2).getD none).getD 2
    writeTo descriptor (prompt ++ " ".intercalate words ++ "\n")

/-! ## §3 Doing -/

/-- Lets the shell do a command. What goes wrong with it ends the script only if it is vital. -/
def doBuiltin (engine : Engine) (flags : Flags) (isVital : Bool) (argv : List String) :
    Act Unit := do
  let caller := (← get).caller
  let name := argv.head?
  modify fun s => { s with caller := name }
  let result ← attempt do
    let status ← match name with
      | none => pure (← get).outputStatus
      | some name => runBuiltin engine flags name argv.tail
    let isWritten ← flush
    if !isWritten then
      let shown := ((← get).caller).getD ""
      report (shown ++ ": I/O error")
    modify fun s => { s with status := if isWritten then status else status ||| 1 }
  modify fun s => { s with caller, pending := [] }
  match result with
  | .ok _ => pure ()
  | .error .failed => if isVital then throw .failed
  | .error halt => throw halt

/-- How many functions may run one in another. -/
def callLimit : Nat := 1000

/-- Lets a function do a command. -/
def doFunction (engine : Engine) (flags : Flags) (body : Cmd) (args : List String) : Act Unit := do
  let s ← get
  if callLimit ≤ s.calls then
    fail ("Maximum function recursion depth (" ++ toString callLimit ++ ") reached")
  set { s with
    params := args, optionIndex := some 1, optionOffset := none, loops := 0, calls := s.calls + 1 }
  task Task.pause
  ensuring (engine.eval (some body) { tested := flags.tested }) do
    modify fun after => { after with
      params := s.params, optionIndex := s.optionIndex, optionOffset := s.optionOffset
      loops := s.loops, calls := s.calls
      skip := match after.skip with
        | .giveBack _ => .none
        | skip => skip }

/-- Lets a program do a command, in a process of its own unless nothing comes after it. It is the
first along the search path from the entry of a number on. -/
def doProgram (engine : Engine) (flags : Flags) (searchPath : String) (index : Nat) (name : String)
    (args : List String) : Act Unit := do
  if flags.exits && !(← get).hasTraps then becomeProgram engine searchPath index name args
  else
    let pid ← launch engine searchPath index name args
    addJob [pid]
    let status ← waitForJob pid
    modify fun s => { s with status }

/-- Looks for what does a command, and lets that do it. -/
def Invocation.seek (engine : Engine) (flags : Flags) (call : Invocation) (name : String)
    (args : List String) : Act Unit := do
  match ← lookUp engine call.searchPath call.isDirect name with
  | .builtin _ => doBuiltin engine flags false (name :: args)
  | .function body => doFunction engine flags body args
  | .program index _ =>
    doProgram engine flags (call.searchPath.getD (← get).searchPath) index name args
  | .missing errno =>
    report (name ++ ": " ++ (if isMissing errno then "not found" else errno.text))
    modify fun s => { s with status := 127 }

/-! ## §4 All in order -/

/-- Does a command whose redirections are made. -/
def Invocation.perform (engine : Engine) (flags : Flags) (assigns : List Word) (kept : Kept)
    (call : Invocation) : Act Unit := do
  let argv := call.argv
  let isExec := argv.head? = some "exec"
  let assigned ← assignBefore engine (!call.isVital) (isExec && 1 < argv.length) assigns
  trace engine kept (assigned ++ call.fields)
  match call.doer, argv with
  | .nobody, _ => doBuiltin engine flags false []
  | .builtin _, argv => doBuiltin engine flags call.isVital argv
  | .sought, name :: args => call.seek engine flags name args
  | .sought, [] => pure ()

/-- Carries out a simple command. -/
def runSimple (engine : Engine) (flags : Flags) (line : Nat) (assigns words : List Word)
    (redirs : List Redirection) : Act Unit := do
  modify fun s => { s with line, outputStatus := 0 }
  let call ← Invocation.ofWords engine words
  let isLocal := !call.isVital
  let isExec : Bool := match call.doer with
    | .builtin _ => call.argv.head? = some "exec"
    | _ => false
  let isSpecial := call.isVital && !call.fields.isEmpty
  let toEnd (isFine : Bool) : Act Unit := if isLocal then endScope isFine else pure ()
  if isLocal then beginScope
  let result ← attempt do
    let (kept, isMade) ← tryRedirect engine redirs
    let result ← attempt do
      if isMade then call.perform engine flags assigns kept
      else
        modify fun s => { s with status := 2 }
        if isSpecial then throw .failed
    match result with
    | .ok _ => if isExec then dropKept kept else putBack kept
    | .error halt =>
      putBack kept
      throw halt
  match result with
  | .ok _ => toEnd true
  | .error halt =>
    toEnd false
    throw halt

end Exemplar.Shell
