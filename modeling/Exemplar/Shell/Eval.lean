/-
Exemplar.Shell.Eval — what commands do.

`step` says what a command does when an engine does what its parts do; `engineOf` closes the circle
for a bounded depth. Before and after every command the signals that have come are looked at. A
command that fails ends a strict script, unless its status is asked for.

  §1 processes
  §2 loops and choices
  §3 all commands
-/
import Exemplar.Shell.Simple

namespace Exemplar.Shell

/-! ## §1 Processes -/

/-- Sets the status. -/
def setStatus (status : Nat) : Act Unit := modify fun s => { s with status }

/-- Runs commands in a process of their own, unless nothing comes after them. -/
def runSubshell (engine : Engine) (flags : Flags) (line : Nat) (body : Option Cmd)
    (redirs : List Redirection) : Act Unit := do
  modify fun s => { s with line }
  let changes ← redirs.mapM (prepare engine)
  if flags.exits && !(← get).hasTraps then
    modify fun s => { s with reached := s.reachedOutside }
    makeForGood engine changes
    engine.eval body { flags with exits := true }
  else
    let pid ← forkPart engine (makeForGood engine changes) body flags
    addJob [pid]
    setStatus (← waitForJob pid)

/-- Runs commands in a process of their own and does not wait for it. -/
def runBeside (engine : Engine) (line : Nat) (body : Option Cmd) (redirs : List Redirection) :
    Act Unit := do
  modify fun s => { s with line }
  let changes ← redirs.mapM (prepare engine)
  let pid ← forkPart engine (do
    beginBackground true
    makeForGood engine changes) body {}
  addJob [pid]
  modify fun s => { s with lastBackground := some pid, status := 0 }

/-- Looks up what does a part of a pipeline, if that is a command whose name is written as it is, so
that it is remembered outside of the pipeline too. -/
def lookAhead (engine : Engine) : Cmd → Act Unit
  | .simple _ _ (word :: _) _ => do
    match Word.plain? word with
    | some name => if isName name then let _ ← lookUp engine none false name
    | none => pure ()
  | _ => pure ()

/-- Starts the processes of a pipeline, the first of which reads from `source`; gives their
numbers. -/
def startParts (engine : Engine) (flags : Flags) (background : Bool) :
    (source : Option Nat) → (isFirst : Bool) → List Cmd → Act (List Nat)
  | _, _, [] => return []
  | source, isFirst, cmd :: rest => do
    lookAhead engine cmd
    let pipe ← if rest.isEmpty then pure none else some <$> makePipe
    let pid ← forkPart engine (do
      if background then beginBackground isFirst
      match pipe with
      | some (reading, _) => task (Task.close reading)
      | none => pure ()
      match source with
      | some number =>
        if 0 < number then
          let _ ← task (Task.duplicate number 0)
          task (Task.close number)
      | none => pure ()
      match pipe with
      | some (_, writing) =>
        if 1 < writing then
          let _ ← task (Task.duplicate writing 1)
          task (Task.close writing)
      | none => pure ()) (some cmd) flags
    match source with
    | some number => task (Task.close number)
    | none => pure ()
    match pipe with
    | some (_, writing) => task (Task.close writing)
    | none => pure ()
    return pid :: (← startParts engine flags background (pipe.map (·.1)) false rest)

/-- Runs the commands of a pipeline beside each other. -/
def runPipeline (engine : Engine) (flags : Flags) (parts : List Cmd) (background : Bool) :
    Act Unit := do
  let pids ← startParts engine flags background none true parts
  addJob pids
  match pids.getLast?, background with
  | some pid, false => setStatus (← waitForJob pid)
  | some pid, true => modify fun s => { s with lastBackground := some pid, status := 0 }
  | none, _ => setStatus 0

/-! ## §2 Loops and choices -/

/-- What is left to be passed over after a round of a loop. -/
def afterRound : Act Skip := do
  let s ← get
  match s.skip with
  | .leave | .nextRound =>
    let skipCount := s.skipCount - 1
    if skipCount = 0 then
      set { s with skip := .none, skipCount }
      return s.skip
    else
      set { s with skipCount }
      return .leave
  | skip => return skip

/-- Whether a loop ends. -/
def Skip.endsLoop : Skip → Bool
  | .none | .nextRound => false
  | _ => true

/-- Runs a part of a script that may be left as a loop is. -/
def inLoop (act : Act Unit) : Act Unit := do
  modify fun s => { s with loops := s.loops + 1 }
  ensuring act (modify fun s => { s with loops := s.loops - 1 })

/-- Repeats commands as long as others have the status that is wanted. -/
def runLoop (engine : Engine) (flags : Flags) (negated : Bool) (test body : Option Cmd) :
    Act Unit :=
  inLoop do
    let status ← repeated (fun (status : Nat) => do
      engine.eval test { tested := true }
      let tested := (← get).status
      let skip ← afterRound
      let status := if skip = .giveBack true then tested else status
      if skip ≠ .none then pure (if skip.endsLoop then .inr status else .inl status)
      else if (tested = 0) = negated then pure (.inr status)
      else
        engine.eval body { tested := flags.tested }
        let status := (← get).status
        let skip ← afterRound
        pure (if skip.endsLoop then .inr status else .inl status)) Task.endless 0
    setStatus status

/-- Runs commands once for each of some values. -/
def runForEach (engine : Engine) (flags : Flags) (name : String) (body : Option Cmd)
    (values : List String) : Act Unit :=
  inLoop do
    let status ← repeated (fun (state : List String × Nat) => do
      match state with
      | ([], status) => pure (.inr status)
      | (value :: rest, _) =>
        assign name value
        engine.eval body { tested := flags.tested }
        let status := (← get).status
        let skip ← afterRound
        pure (if skip.endsLoop then .inr status else .inl (rest, status))) Task.endless (values, 0)
    setStatus status

/-- Whether one of some patterns matches; those after it are not expanded. -/
def matchesOne (engine : Engine) (text : List Char) : List Word → Act Bool
  | [] => return false
  | word :: words => do
    let pattern ← expandPattern (capture engine) word
    if globMatch pattern text then return true else matchesOne engine text words

/-- Runs the commands of the first arm that has a pattern that matches. -/
def runArms (engine : Engine) (flags : Flags) (text : List Char) :
    List (List Word × Option Cmd) → Act Unit
  | [] => setStatus 0
  | (patterns, body) :: arms => do
    if (← get).skip ≠ .none then setStatus 0
    else if ← matchesOne engine text patterns then
      if body.isSome && (← get).skip = .none then engine.eval body flags else setStatus 0
    else runArms engine flags text arms

/-! ## §3 All commands -/

/-- Runs a command; gives whether its failure ends a strict script. -/
def runCommand (engine : Engine) (flags : Flags) : Cmd → Act Bool
  | .simple line assigns words redirs => do
    runSimple engine flags line assigns words redirs
    return true
  | .pipeline parts background => do
    runPipeline engine flags parts background
    return true
  | .not body => do
    engine.eval (some body) { tested := true }
    modify fun s => if s.skip = .none then { s with status := if s.status = 0 then 1 else 0 } else s
    return false
  | .both left right => do
    engine.eval (some left) { tested := true }
    let s ← get
    if s.status = 0 && s.skip = .none then engine.eval (some right) flags
    return false
  | .either left right => do
    engine.eval (some left) { tested := true }
    let s ← get
    if s.status ≠ 0 && s.skip = .none then engine.eval (some right) flags
    return false
  | .sequence left right => do
    engine.eval (some left) { tested := flags.tested }
    if (← get).skip = .none then engine.eval (some right) flags
    return false
  | .redirected line body redirs => do
    modify fun s => { s with line }
    let (kept, isMade) ← tryRedirect engine redirs
    if isMade then ensuring (engine.eval body { tested := flags.tested }) (putBack kept)
    else
      putBack kept
      setStatus 2
    return !isMade
  | .subshell line body redirs => do
    runSubshell engine flags line body redirs
    return true
  | .background line body redirs => do
    runBeside engine line body redirs
    return true
  | .choose test body otherwise => do
    engine.eval test { tested := true }
    let s ← get
    if s.skip = .none then
      if s.status = 0 then engine.eval body flags
      else if otherwise.isSome then engine.eval otherwise flags
      else setStatus 0
    return false
  | .loop negated test body => do
    runLoop engine flags negated test body
    return false
  | .forEach line name words body => do
    modify fun s => { s with line }
    let values ← words.mapM (expandFields (capture engine))
    runForEach engine flags name body values.flatten
    return false
  | .byPattern line word arms => do
    modify fun s => { s with line }
    let text ← expandText (capture engine) .whole word
    runArms engine flags text.toList arms
    return false
  | .define line name body => do
    modify fun s => { s.forgetFound name with
      functions := (name, line, body) :: s.functions.filter (·.1 ≠ name), status := 0 }
    return false

/-- What a command does, when an engine does what its parts do. -/
def step (engine : Engine) (cmd : Option Cmd) (flags : Flags) : Act Unit := do
  let mayEnd ← match cmd, (← get).has 'n' with
    | some cmd, false =>
      runTraps engine
      runCommand engine flags cmd
    | _, _ => pure false
  let status := (← get).status
  runTraps engine
  if (← get).has 'e' && mayEnd && !flags.tested && status ≠ 0 then throw .done
  if flags.exits then throw .done

/-- The engine that runs commands whose parts stand at most so deep in each other; one that stand
deeper is too much for its process. -/
def engineOf (program? : String → Option Executable) : (depth : Nat) → Engine
  | 0 => { eval := fun _ _ => task (Task.finish (.signalled ⟨11⟩)), program? }
  | depth + 1 =>
    { eval := fun cmd flags => step (engineOf program? depth) cmd flags, program? }

end Exemplar.Shell
