import PipeShell.Machine.State

/-!
# Steps of a machine

One step is one system call, of the shell or of one of its processes. A step that has to wait is
no step: `none` says so. Who makes the next step is not said here.

* `Machine.readFrom` and `Machine.writeTo` are what reading and writing do to the open files. A
  read waits only while a pipe is empty and somebody holds its end for writing; a write waits
  only while a pipe is full and somebody holds its end for reading.
* `Machine.answer` is the shell's step, `Machine.childStep` a process's.
-/

namespace PipeShell

/-- What a write does. -/
inductive Write (α : Type) where
  /-- So many octets have been written. -/
  | written (count : Nat) (after : α)
  /-- The pipe has no readers. -/
  | broken
  /-- The write has to wait. -/
  | waits
  /-- The write is refused. -/
  | failed (cause : Errno)

namespace Machine

variable {σ : Type}

/-- Reads from a descriptor of a table; none if the reader has to wait. -/
def readFrom (m : Machine σ) (table : DescriptorTable) (fd : Fd) (size : Nat) :
    Option (Except Errno Bytes × Machine σ) :=
  match m.file? table fd with
  | none => some (.error .ebadf, m)
  | some (number, file) =>
    match file with
    | .source content offset =>
      let data := (content.drop offset).take size
      some (.ok data, m.setFile number (.source content (offset + data.length)))
    | .sink _ => some (.error .ebadf, m)
    | .stored stored access offset =>
      if access = .read ∨ access = .update then
        let data := ((m.tree.held stored).extract offset (offset + size)).toList
        some (.ok data, m.setFile number (.stored stored access (offset + data.length)))
      else some (.error .ebadf, m)
    | .null => some (.ok [], m)
    | .zeros => some (.ok (List.replicate size 0), m)
    | .directory => some (.error .eisdir, m)
    | .terminal =>
      (m.terminal.read? size).map fun (answer, terminal) => (answer, { m with terminal })
    | .pipeEnd _ .write => some (.error .ebadf, m)
    | .pipeEnd number .read =>
      match m.pipes[number]? with
      | none => some (.error .ebadf, m)
      | some pipe =>
        if pipe.content.isEmpty then
          if m.isHeld number .write then none else some (.ok [], m)
        else
          let pipe' := { pipe with content := pipe.content.drop size }
          some (.ok (pipe.content.take size),
            { m with pipes := m.pipes.setIfInBounds number pipe' })

/-- Puts octets over what a file holds from an offset on. A gap is filled with zeros. -/
def splice (held : ByteArray) (offset : Nat) (bytes : Bytes) : ByteArray :=
  let front := held.extract 0 offset
  let gap : ByteArray := ⟨Array.replicate (offset - held.size) 0⟩
  front ++ gap ++ ⟨bytes.toArray⟩ ++ held.extract (offset + bytes.length) held.size

/-- Writes to a descriptor of a table. A pipe takes as many octets as it has room for. -/
def writeTo (m : Machine σ) (table : DescriptorTable) (fd : Fd) (bytes : Bytes) :
    Write (Machine σ) :=
  match m.file? table fd with
  | none => .failed .ebadf
  | some (number, file) =>
    match file with
    | .source _ _ => .failed .ebadf
    | .sink reversed =>
      .written bytes.length (m.setFile number (.sink (bytes.reverse ++ reversed)))
    | .stored stored access offset =>
      if access = .read then .failed .ebadf
      else
        let held := m.tree.held stored
        let start := if access = .append then held.size else offset
        let m := { m with tree := m.tree.hold stored (splice held start bytes) }
        .written bytes.length (m.setFile number (.stored stored access (start + bytes.length)))
    | .null => .written bytes.length m
    | .zeros => .written bytes.length m
    | .directory => .failed .ebadf
    | .terminal => .written bytes.length m
    | .pipeEnd _ .read => .failed .ebadf
    | .pipeEnd number .write =>
      match m.pipes[number]? with
      | none => .failed .ebadf
      | some pipe =>
        if bytes.isEmpty then .written 0 m
        else if m.isHeld number .read then
          let room := pipe.capacity - pipe.content.length
          if room = 0 then .waits
          else
            let pipe' := { pipe with content := pipe.content ++ bytes.take room }
            .written (min room bytes.length)
              { m with pipes := m.pipes.setIfInBounds number pipe' }
        else .broken

/-- What a signal does to a process that is not over. -/
def deliver (m : Machine σ) (pid : Pid) (child : Process σ) (number : Nat) : Machine σ :=
  if number = Signal.kill.number then m.finish pid (.killed number)
  else if number = Signal.cont.number then m.setChild pid { child with stopped := false }
  else if child.ignored.contains number then m
  else if child.collects.contains number then
    m.setChild pid { child with pending := child.pending ++ [number], interrupts := true }
  else match SignalEffect.ofNumber number with
    | .ends => m.finish pid (.killed number)
    | .stops => m.setChild pid { child with stopped := true }
    | .nothing => m

/-- Sends a signal to a process. -/
def signalChild (m : Machine σ) (pid : Pid) (number : Nat) : Except Errno Unit × Machine σ :=
  match m.children[pid]? with
  | none => (.error .esrch, m)
  | some child =>
    match child.life with
    | .collected => (.error .esrch, m)
    | .ended _ => (.ok (), m)
    | _ => (.ok (), m.deliver pid child number)

/-- Sends a signal to the shell. A request to stop is collected, if the shell does that. -/
def signalShell (m : Machine σ) (number : Nat) : Machine σ :=
  if m.ignored.contains number then m
  else if m.survives.contains number then { m with survives := m.survives.erase number }
  else match Signal.ofNumber? number with
    | some signal =>
      if m.catchesStops ∧ (signal = .int ∨ signal = .term) then
        { m with stops := m.stops ++ [signal] }
      else if SignalEffect.ofNumber number = .ends then { m with shellKilledBy := some number }
      else m
    | none =>
      if SignalEffect.ofNumber number = .ends then { m with shellKilledBy := some number } else m

/-! ### The shell -/

/-- Whether the shell may have a descriptor with this number. -/
def mayOpen (m : Machine σ) (fd : Nat) : Bool :=
  match m.descriptorLimit with
  | none => true
  | some limit => fd < limit

/-- Makes a pipe for the shell: both ends or none. -/
def makePipe (m : Machine σ) : Except Errno (Fd × Fd) × Machine σ :=
  let read := m.table.lowestFree
  let table := m.table.insert read ⟨m.files.size, true⟩
  let write := table.lowestFree
  if m.mayOpen read && m.mayOpen write then
    (.ok (read, write),
      { m with
        table := table.insert write ⟨m.files.size + 1, true⟩
        files := (m.files.push (.pipeEnd m.pipes.size .read)).push (.pipeEnd m.pipes.size .write)
        pipes := m.pipes.push { capacity := m.pipeCapacity } })
  else (.error .emfile, m)

/-- Whether no further process may be made. -/
def refusesProcess (m : Machine σ) : Bool :=
  match m.processLimit with
  | none => false
  | some limit => limit ≤ m.uncollected

/-- Makes a process with a copy of the shell's descriptors. -/
def makeChild (m : Machine σ) (plan : Child) : Except Errno Pid × Machine σ :=
  if m.refusesProcess then (.error .eagain, m)
  else
    let child : Process σ :=
      { table := m.table
        life := .preparing plan
        directory := m.tree.workingDirectory
        ignored := m.ignored }
    (.ok m.children.size, { m with children := m.children.push child })

/-- Waits for a process; none if it is not over. -/
def collect (m : Machine σ) (pid : Pid) : Option (Except Errno Ending × Machine σ) :=
  match m.children[pid]? with
  | none => some (.error .echild, m)
  | some child =>
    match child.life with
    | .collected => some (.error .echild, m)
    | .ended how => some (.ok how, m.setChild pid { child with life := .collected })
    | _ => none

/-- Shows a prompt, as far as standard output is open. A prompt is not shown in parts: it waits
until there is room for all of it. -/
def showPrompt (m : Machine σ) (prompt : String) : Write (Machine σ) :=
  let bytes := Text.encode prompt
  match m.writeTo m.table Fd.stdout bytes with
  | .written count after => if count < bytes.length then .waits else .written count after
  | .failed .ebadf => .written bytes.length m
  | other => other

/-- Lets the line editor read a line behind a prompt; none if it has to wait. On a terminal that is
not plain nothing that it shows matters. -/
def edit (m : Machine σ) (prompt : String) : Option (Except Errno Event × Machine σ) :=
  if m.editor.isPlain then
    match m.showPrompt prompt with
    | .written _ after =>
      (Editor.readLine? after.terminal.refuses [] after.terminal.typed).map fun (event, typed) =>
        (event, { after with terminal := { after.terminal with typed } })
    | .broken => some (.error .epipe, m)
    | .waits => none
    | .failed cause => some (.error cause, m)
  else
    (Editor.takeKeys? [] m.terminal.keys).map fun (event, keys) =>
      (.ok event, { m with terminal := { m.terminal with keys } })

/-- Changes what the line editor remembers. -/
def setHistory (m : Machine σ) (history : History) : Machine σ :=
  { m with editor := { m.editor with history } }

/-- Lets the line editor write its history to a file, unless the file lacks nothing. -/
def saveHistory (m : Machine σ) (path : String) : Except Errno (Option String) × Machine σ :=
  let history := m.editor.history
  if history.changed then
    match m.tree.put path history.content with
    | .ok tree => (.ok none, { m with tree }.setHistory { history with changed := false })
    | .error cause => (.error cause, m)
  else (.ok none, m)

/-- Writes what is left of a text of the shell. -/
def writeRest (m : Machine σ) (fd : Fd) (bytes : Bytes) : Write (Machine σ) :=
  m.writeTo m.table fd (bytes.drop m.taken)

/-- Takes part of a text that the shell writes; none if nothing can be taken, or all that is
left. -/
def takePart (m : Machine σ) : Request → Option (Machine σ)
  | .writeAll fd bytes =>
    match m.writeRest fd bytes with
    | .written count after =>
      if m.taken + count < bytes.length then some { after with taken := m.taken + count } else none
    | _ => none
  | _ => none

/-- Answers a request of the shell; none if the shell has to wait. -/
def answer (m : Machine σ) : (r : Request) → Option (r.Answer × Machine σ)
  | .pipe => some m.makePipe
  | .fork plan => some (m.makeChild plan)
  | .close fd =>
    match m.table.get? fd with
    | none => some (.error .ebadf, m)
    | some _ => some (.ok (), { m with table := m.table.erase fd })
  | .kill pid signal => some (m.signalChild pid signal.number)
  | .wait pid => m.collect pid
  | .read fd size => m.readFrom m.table fd size
  | .write fd bytes =>
    match m.writeTo m.table fd bytes with
    | .written count after => some (.ok count, after)
    | .broken => some (.error .epipe, m)
    | .waits => none
    | .failed cause => some (.error cause, m)
  | .writeAll fd bytes =>
    match m.writeRest fd bytes with
    | .written count after =>
      if m.taken + count < bytes.length then none else some (.ok (), { after with taken := 0 })
    | .broken => some (.error .epipe, m)
    | .waits => none
    | .failed .ebadf => some (.ok (), { m with taken := 0 })
    | .failed cause => some (.error cause, m)
  | .isTerminal fd =>
    match m.file? m.table fd with
    | none => some (.error .ebadf, m)
    | some (_, file) => some (.ok (file == .terminal), m)
  | .catchStops => some (.ok (), { m with catchesStops := true })
  | .takeStop =>
    match m.stops with
    | [] => some (.ok none, m)
    | signal :: rest => some (.ok (some signal), { m with stops := rest })
  | .openEditor kind => some (.ok none, { m with editor := .ofKind kind })
  | .loadHistory path =>
    match m.tree.content path with
    | .ok content => some (.ok (), m.setHistory (.ofContent content))
    | .error cause => some (.error cause, m)
  | .edit prompt => m.edit prompt
  | .remember entry => some (.ok (), m.setHistory (m.editor.history.add entry))
  | .saveHistory path => some (m.saveHistory path)

end Machine

/-- One step of a computation that talks to a machine: it gets an answer, or part of what it writes
is taken. None if it is over or has to wait. -/
def Interaction.step {α σ : Type} (p : Interaction α) (m : Machine σ) :
    Option (Interaction α × Machine σ) :=
  match p with
  | .done _ => none
  | .aborted => none
  | .once r next =>
    match m.answer r with
    | some (answer, m) => some (next answer, m)
    | none => (m.takePart r).map fun m => (p, m)
  | .persist r next =>
    match m.answer r with
    | some (answer, m) => some (resume r next answer, m)
    | none => (m.takePart r).map fun m => (p, m)

namespace Machine

variable {σ : Type}

/-! ### The processes -/

/-- Lets a process go on with what is left of its list, or end. -/
def become (m : Machine σ) (pid : Pid) (child : Process σ) : Except Ending Child → Machine σ
  | .ok todo => m.setChild pid { child with life := .preparing todo }
  | .error how => m.finish pid how

/-- One thing on the list of a new process; none if it has to wait. A message is written piece by
piece until all of it has been taken. -/
def prepareStep (rep : Repertoire σ) (m : Machine σ) (pid : Pid) (child : Process σ) :
    Child → Option (Machine σ)
  | [] => some (m.finish pid (.exited 0))
  | todo :: rest =>
    let spared := child.ignored.contains Signal.pipe.number
    let go (m : Machine σ) (child : Process σ) (answer : Except Errno Unit) : Machine σ :=
      m.become pid child (todo.answered spared rest answer)
    match todo with
    | .restorePipeSignal =>
      let ignored := child.ignored.filter (· ≠ Signal.pipe.number)
      some (go m { child with ignored } (.ok ()))
    | .install fd stream =>
      match child.table.get? fd with
      | none => some (go m child (.error .ebadf))
      | some entry =>
        if fd = stream.fd then some (go m child (.ok ()))
        else
          let table := child.table.insert stream.fd { entry with closeOnExec := false }
          some (go m { child with table } (.ok ()))
    | .close fd => some (go m { child with table := child.table.erase fd } (.ok ()))
    | .exec argv =>
      match rep.load m.tree m.environment (argv.map Text.encode) with
      | .ok program => some (m.setChild pid
          { child with table := child.table.afterExec, life := .running program })
      | .error cause => some (go m child (.error cause))
    | .complain message =>
      match m.writeTo child.table Fd.stderr message with
      | .written count after =>
        let left := message.drop count
        if left.isEmpty then some (go after child (.ok ()))
        else some (after.setChild pid { child with life := .preparing (.complain left :: rest) })
      | .broken => some (go m child (.error .epipe))
      | .waits => none
      | .failed cause => some (go m child (.error cause))
    | .exit _ => some (go m child (.ok ()))

/-- The files as a process sees them. -/
def treeOf (m : Machine σ) (child : Process σ) : FileTree :=
  { m.tree with workingDirectory := child.directory }

/-- Takes over files that a process has changed. -/
def setTree (m : Machine σ) (tree : FileTree) : Machine σ :=
  { m with tree := { tree with workingDirectory := m.tree.workingDirectory } }

/-- Opens a file. -/
def openPath (tree : FileTree) (path : String) (access : Access) :
    Except Errno (OpenFile × FileTree) := do
  match tree.node path with
  | .ok (.file _ number) =>
    match access with
    | .fresh => throw .eexist
    | .overwrite => return (.stored number access 0, tree.hold number .empty)
    | _ => return (.stored number access 0, tree)
  | .ok .null => return (.null, tree)
  | .ok .zeros => return (.zeros, tree)
  | .ok (.program _) => if access = .read then return (.null, tree) else throw .eacces
  | .ok _ => if access = .read then return (.directory, tree) else throw .eisdir
  | .error .enoent =>
    if access = .read then throw .enoent
    else
      let tree' ← tree.add (← tree.place path) false []
      return (.stored tree.contents.size access 0, tree')
  | .error cause => throw cause

/-- Changes the files. -/
def changePath (tree : FileTree) (path : String) : Change → Except Errno FileTree
  | .makeDirectory => do
    let place ← tree.place path
    match tree.root.find? place with
    | some _ => throw .eexist
    | none => tree.putNode place (some (.directory []))
  | .removeDirectory => do
    match ← tree.node path with
    | .directory [] => tree.putNode (← tree.place path) none
    | .directory _ => throw .enotempty
    | _ => throw .enotdir
  | .remove => do
    match ← tree.node path with
    | .directory _ => throw .eisdir
    | _ => tree.putNode (← tree.place path) none
  | .rename other => do
    let node ← tree.node path
    let target ← tree.place other
    match tree.root.find? target, node with
    | some (.directory (_ :: _)), .directory _ => throw .enotempty
    | some (.directory _), .file _ _ => throw .eisdir
    | some (.file _ _), .directory _ => throw .enotdir
    | _, _ =>
      if target = (← tree.place path) then return tree
      else (← tree.putNode (← tree.place path) none).putNode target (some node)
  | .link other => do
    match ← tree.node path with
    | .directory _ => throw .eperm
    | node =>
      let target ← tree.place other
      match tree.root.find? target with
      | some _ => throw .eexist
      | none => tree.putNode target (some node)
  | .setExecutable executable => do
    match ← tree.node path with
    | .file _ number => tree.putNode (← tree.place path) (some (.file executable number))
    | _ => return tree

/-- The process that a process waits for and that is over: its number and how it ended. -/
def endedChild? (m : Machine σ) (pid : Pid) : Option Nat → Option (Pid × Ending)
  | some number =>
    match pidOf? number with
    | some other =>
      (m.children[other]?.bind (Process.endingFor pid)).map fun how => (other, how)
    | none => none
  | none =>
    (List.range m.children.size).findSome? fun other =>
      (m.children[other]?.bind (Process.endingFor pid)).map fun how => (other, how)

/-- Whether a process that is waited for may still end. -/
def mayEnd (m : Machine σ) (pid : Pid) (number : Option Nat) : Bool :=
  (List.range m.children.size).any fun other =>
    (number = none || number = some (processNumber other)) &&
      match m.children[other]? with
      | some child => child.maker = .process pid && child.life.isActive
      | none => false

/-- The number of the process that has made a process. -/
def makerNumber : Maker → Nat
  | .shell => shellNumber
  | .process pid => processNumber pid
  | .nobody => 1

/-- Opens once more what a descriptor of a process refers to. A file is opened at its beginning;
anything else is shared. -/
def reopen (m : Machine σ) (child : Process σ) (fd : Nat) (access : Access)
    (anew : Machine σ → OpenFile → Machine σ) (shared : Nat → Machine σ) : Machine σ :=
  match m.file? child.table fd with
  | some (_, .source content _) => anew m (.source content 0)
  | some (_, .stored number _ _) => anew m (.stored number access 0)
  | some (number, _) => shared number
  | none => anew m .null

/-- What the act of a program does; none if the program has to wait. -/
def programStep (rep : Repertoire σ) (m : Machine σ) (pid : Pid) (child : Process σ)
    (program : σ) : Option (Machine σ) :=
  let go (m : Machine σ) (child : Process σ) (reply : Reply) : Machine σ :=
    m.setChild pid { child with life := .running (rep.resume program reply) }
  let opened (m : Machine σ) (file : OpenFile) : Machine σ :=
    let fd := child.table.lowestFree
    let table := child.table.insert fd ⟨m.files.size, false⟩
    go (m.addFile file) { child with table } (.opened fd)
  match rep.act program with
  | .read fd size =>
    (m.readFrom child.table fd size).map fun (answer, m) =>
      match answer with
      | .ok bytes => go m child (.data bytes)
      | .error cause => go m child (.failed cause)
  | .write fd bytes =>
    match m.writeTo child.table fd bytes with
    | .written count after => some (go after child (.written count))
    | .broken =>
      if child.ignored.contains Signal.pipe.number then some (go m child (.failed .epipe))
      else if child.collects.contains Signal.pipe.number then
        let child := { child with pending := child.pending ++ [Signal.pipe.number] }
        some (go m child (.failed .epipe))
      else some (m.finish pid (.killed Signal.pipe.number))
    | .waits => none
    | .failed cause => some (go m child (.failed cause))
  | .giveBack fd count =>
    match m.file? child.table fd with
    | some (number, .source content offset) =>
      some (go (m.setFile number (.source content (offset - count))) child .done)
    | some (number, .stored stored access offset) =>
      some (go (m.setFile number (.stored stored access (offset - count))) child .done)
    | _ => some (go m child (.failed .espipe))
  | .openFile path access =>
    match (m.treeOf child).node path with
    | .ok (.descriptor fd) => some (m.reopen child fd access opened fun number =>
        let fd := child.table.lowestFree
        go m { child with table := child.table.insert fd ⟨number, false⟩ } (.opened fd))
    | _ =>
      match openPath (m.treeOf child) path access with
      | .ok (file, tree) => some (opened (m.setTree tree) file)
      | .error cause => some (go m child (.failed cause))
  | .close fd =>
    match child.table.get? fd with
    | none => some (go m child (.failed .ebadf))
    | some _ => some (go m { child with table := child.table.erase fd } .done)
  | .duplicate fd target =>
    match child.table.get? fd with
    | none => some (go m child (.failed .ebadf))
    | some entry =>
      if fd = target then some (go m child .done)
      else
        let table := child.table.insert target { entry with closeOnExec := false }
        some (go m { child with table } .done)
  | .save fd least =>
    match child.table.get? fd with
    | none => some (go m child (.failed .ebadf))
    | some entry =>
      let number := child.table.freeFrom least
      let table := child.table.insert number { entry with closeOnExec := true }
      some (go m { child with table } (.opened number))
  | .pipe =>
    let read := child.table.lowestFree
    let table := child.table.insert read ⟨m.files.size, false⟩
    let write := table.lowestFree
    let m' := { m with
      files := (m.files.push (.pipeEnd m.pipes.size .read)).push (.pipeEnd m.pipes.size .write)
      pipes := m.pipes.push { capacity := m.pipeCapacity } }
    let table := table.insert write ⟨m.files.size + 1, false⟩
    some (go m' { child with table } (.ends read write))
  | .fork =>
    if m.refusesProcess then some (go m child (.failed .eagain))
    else
      let copy := { child with
        maker := .process pid
        life := .running (rep.resume program (.forked none))
        pending := []
        interrupts := false
        wake := none }
      let made := { m with children := m.children.push copy }
      some (go made child (.forked (some (processNumber m.children.size))))
  | .exec argv environment =>
    match rep.load (m.treeOf child) environment argv with
    | .ok program =>
      let child := { child with
        table := child.table.afterExec
        life := .running program
        collects := []
        pending := []
        interrupts := false }
      some (m.setChild pid child)
    | .error cause => some (go m child (.failed cause))
  | .wait number limit =>
    match m.endedChild? pid number with
    | some (other, how) =>
      match m.children[other]? with
      | some ended =>
        let m := m.setChild other { ended with life := .collected }
        some (go m { child with wake := none } (.ended (processNumber other) how))
      | none => none
    | none =>
      if m.mayEnd pid number then
        match limit, child.wake with
        | some duration, none =>
          some (m.setChild pid { child with wake := some (m.clock + duration) })
        | some _, some time =>
          if time ≤ m.clock then some (go m { child with wake := none } (.failed .eagain)) else none
        | none, _ => none
      else some (go m { child with wake := none } (.failed .echild))
  | .signal target number =>
    if target = shellNumber then some (go (m.signalShell number) child .done)
    else match pidOf? target with
      | some other =>
        let after := go m child .done
        match after.signalChild other number with
        | (.ok (), m) => some m
        | (.error cause, _) => some (go m child (.failed cause))
      | none => some (go m child (.failed .esrch))
  | .react number reaction =>
    let ignored := child.ignored.filter (· ≠ number)
    let collects := child.collects.filter (· ≠ number)
    some (go m
      { child with
        ignored := if reaction = .ignored then number :: ignored else ignored
        collects := if reaction = .collected then number :: collects else collects }
      (.answer (child.ignored.contains number)))
  | .takeSignal =>
    let child' := { child with pending := child.pending.drop 1, interrupts := false }
    some (go m child' (.signal child.pending.head?))
  | .identify => some (go m child (.identity (processNumber pid) (makerNumber child.maker)))
  | .isTerminal fd =>
    some (go m child (.answer ((m.file? child.table fd).any fun (_, file) => file == .terminal)))
  | .list path =>
    match (m.treeOf child).node path with
    | .error cause => some (go m child (.failed cause))
    | .ok (.directory entries) => some (go m child (.names (entries.map Prod.fst)))
    | .ok .descriptors =>
      let table := child.table.insert child.table.lowestFree ⟨m.files.size, true⟩
      some (go m child (.names (table.opened.map toString)))
    | .ok _ => some (go m child (.failed .enotdir))
  | .examine path =>
    match (m.treeOf child).node path with
    | .error cause => some (go m child (.failed cause))
    | .ok (.descriptor fd) =>
      match m.file? child.table fd with
      | none => some (go m child (.failed .enoent))
      | some (_, file) => some (go m child (.node (file.kind m.tree)))
    | .ok node => some (go m child (.node (m.tree.kind node)))
  | .inspect fd =>
    match m.file? child.table fd with
    | none => some (go m child (.failed .ebadf))
    | some (_, file) => some (go m child (.node (file.kind m.tree)))
  | .enter path =>
    match (m.treeOf child).node path, (m.treeOf child).place path with
    | .error cause, _ => some (go m child (.failed cause))
    | .ok (.directory _), .ok place => some (go m { child with directory := place } .done)
    | _, _ => some (go m child (.failed .enotdir))
  | .whereabouts => some (go m child (.path ("/" ++ "/".intercalate child.directory)))
  | .change path change =>
    match changePath (m.treeOf child) path change with
    | .ok tree => some (go (m.setTree tree) child .done)
    | .error cause => some (go m child (.failed cause))
  | .sleep duration =>
    match child.wake with
    | none => some (m.setChild pid { child with wake := some (m.clock + duration) })
    | some time =>
      if time ≤ m.clock then some (go m { child with wake := none } .done) else none
  | .pause => some (go m child .done)
  | .exit status => some (m.finish pid (.exited (status % 256)))

/-- What happens to a program that waits: a signal that it has collected interrupts it. -/
def interrupt (rep : Repertoire σ) (m : Machine σ) (pid : Pid) (child : Process σ)
    (program : σ) : Option (Machine σ) :=
  if child.interrupts then some (m.setChild pid
    { child with
      interrupts := false
      wake := none
      life := .running (rep.resume program (.failed .eintr)) })
  else none

/-- One step of a process; none if there is no such process, it is over, or it has to wait. -/
def childStep (rep : Repertoire σ) (m : Machine σ) (pid : Pid) : Option (Machine σ) :=
  match m.children[pid]? with
  | none => none
  | some child =>
    if child.stopped then none
    else match child.life with
      | .preparing todo => m.prepareStep rep pid child todo
      | .running program =>
        (m.programStep rep pid child program).or (m.interrupt rep pid child program)
      | .ended _ => none
      | .collected => none

end Machine

end PipeShell
