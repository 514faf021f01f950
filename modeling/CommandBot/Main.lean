import CommandBot.Startup

/-!
# The program

The outer layer: it shows `Startup.start` what the disk holds, brings the disk to what came of it,
and hands the lines that are typed to the worker one by one. No connection to the network is made.
-/

namespace CommandBot.Terminal

/-- What the disk holds at a path. A directory can be opened, but has no content to read. -/
def look? (path : String) : IO (Option FileNode) := do
  match ← (IO.FS.Handle.mk path .read).toBaseIO with
  | .error _ => return none
  | .ok handle =>
      match ← handle.readBinToEnd.toBaseIO with
      | .ok content => return some (.file content)
      | .error _ => return some .directory

/-- The paths that lead to a path, and the path itself. -/
def pathsAlong (path : String) : List String :=
  let segments := Path.segments path.toList
  (List.range segments.length).map fun n =>
    String.ofList (['/'].intercalate (segments.take (n + 1)))

/-- Adds to a tree what the disk holds along a path. -/
def observe (t : FileTree) (path : String) : IO FileTree :=
  (pathsAlong path).foldlM (fun t path => do
    match t.locate path, ← look? path with
    | .ok (name :: names), some node => return t.put (name :: names) node
    | _, _ => return t) t

/-- Brings the disk from what one tree holds to what another holds. -/
def settle (before after : FileTree) : IO Unit := do
  for path in after.directories.reverse do
    unless before.directories.contains path do
      IO.FS.createDirAll ("/" ++ path)
  for (path, content) in after.files do
    unless (before.files.lookup path).any (fun old => old.data == content.data) do
      IO.FS.writeBinFile ("/" ++ path) content
  for (path, _) in before.files do
    unless (after.files.lookup path).isSome do
      IO.FS.removeFile ("/" ++ path)

/-- The files that matter for the start. -/
def survey (options : Options) : IO FileTree := do
  let here := (Path.segments (toString (← IO.currentDir)).toList).filter fun name => !name.isEmpty
  let t ← observe (.empty (here.map String.ofList)) options.config
  match Startup.readConfig options.config t with
  | none => return t
  | some config =>
      let store := Startup.storeOf config (Startup.channelOf options config)
      [config.dataDirectory, Path.join config.dataDirectory Startup.logName, store.path,
        store.temporaryPath].foldlM observe t

/-- Takes a step of a save on the disk. -/
def save : SaveStep → IO Unit
  | .createDirectory path => IO.FS.createDirAll path
  | .write path content => IO.FS.writeBinFile path content
  | .replace source target => IO.FS.rename source target

/-- Does what is to be done after a line. A save that fails is not repeated here. -/
def act (ready : Ready) : Action → IO Unit
  | .say text => IO.print (Console.printed ready.channel text)
  | .save config => do
      try (ready.post.store.saveSteps config).forM save
      catch e => IO.eprintln (toString e)
  | .report text => IO.eprintln text

/-- Handles the lines that are typed until the input ends. -/
partial def serve (ready : Ready) (input : IO.FS.Stream) (since : Nat) : IO Unit := do
  let text ← input.getLine
  unless text.isEmpty do
    let now ← IO.monoNanosNow
    let session := ready.session.advance (now - since)
    let session ← (Console.chatLines ready.author text).foldlM (fun session line => do
      let (_, actions, session) :=
        Worker.handle ready.post.network ready.post.patience session line
      actions.forM (act ready)
      return session) session
    (← IO.getStdout).flush
    serve { ready with session := session } input now

/-- Runs the bot with the given options. -/
def run (options : Options) : IO Exit := do
  let before ← survey options
  let (started, after) := Startup.start .down options before
  settle before after
  match started with
  | .error exit => return exit
  | .ok ready =>
      serve ready (← IO.getStdin) (← IO.monoNanosNow)
      return .done

end CommandBot.Terminal

open CommandBot in
/-- Follows the command line, and gives the exit code. -/
def main (arguments : List String) : IO UInt32 := do
  let exit ← match CommandLine.request arguments with
    | .misuse => pure Exit.misused
    | .help => do
        IO.print CommandLine.helpText
        pure Exit.done
    | .version => do
        IO.print CommandLine.versionText
        pure Exit.done
    | .run options =>
        try Terminal.run options
        catch e => do
          IO.eprintln (toString e)
          pure Exit.failed
  return exit.code.toUInt32
