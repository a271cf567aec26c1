import Theming.Program.Application

/-!
# The command line

The program runs on a volume; this is the thin layer that puts it on the machine. The files
below the working folder, and the files and folders the command line names, are read into a
volume; the program runs; then the files it created or changed are written back and the files
it removed are removed. Its output goes to the standard output, the console log lines to the
standard output or error, and a failure that was not logged is printed on the standard error.
-/

section

open System Theming.Program

/-- How deep folders are read. -/
def Theming.Shell.folderDepth : Nat := 16

/-- Reads a file, or the files below a folder down to a depth, into a volume. -/
partial def Theming.Shell.loadPath (v : Theming.System.Volume) (path : String) (depth : Nat) :
    IO Theming.System.Volume := do
  let fp : FilePath := path
  if ← fp.isDir then
    let v := match v.makeFolders path with
      | .ok v => v
      | .error _ => v
    if depth == 0 then return v
    let mut v := v
    for e in ← fp.readDir do
      v ← loadPath v e.path.toString (depth - 1)
    return v
  else if ← fp.pathExists then
    try
      return v.place path (← IO.FS.readBinFile fp)
    catch _ => return v
  else return v

/-- Writes back what a run changed below a folder. -/
def Theming.Shell.saveChanges (before after : Theming.System.Volume) : IO Unit := do
  for (path, node) in after.nodes do
    match node, before.node? path with
    | .file data, some (.file old) =>
      if old.data != data.data then IO.FS.writeBinFile path data
    | .file data, _ =>
      IO.FS.createDirAll (Theming.System.PathName.dir path)
      IO.FS.writeBinFile path data
    | .folder _, none => IO.FS.createDirAll path
    | _, _ => pure ()
  for (path, node) in before.nodes do
    if node.isFile && (after.node? path).isNone then
      try IO.FS.removeFile path catch _ => pure ()

/-- Prints console log entries. -/
def Theming.Shell.printLog (h : IO.FS.Stream) (entries : Array Theming.Log.Entry) : IO Unit := do
  for e in entries do h.putStrLn (e.line appName)

/-- Runs the program on the machine with a command line; gives the exit code. -/
def Theming.Shell.run (args : List String) : IO UInt32 := do
  let cwd := (← IO.currentDir).toString
  let mut v ← loadPath (Theming.System.Volume.machine cwd) cwd folderDepth
  for a in args do
    if !a.startsWith "-" then v ← loadPath v a 1
  let font ← IO.getEnv fontVariable
  let world : World := { volume := v, environment := font.toList.map (fontVariable, ·) }
  let (failure, s) := runProgramIn world "lean" args
  saveChanges v s.world.volume
  let out ← IO.getStdout
  out.putStr s.world.output
  printLog out s.world.consoleOut
  let err ← IO.getStderr
  printLog err s.world.consoleErr
  match failure with
  | none => return 0
  | some f =>
    if !s.errLogged then err.putStrLn ("Program ended with error: " ++ f.message)
    return 1

end

/-- The program's entry point. -/
def main (args : List String) : IO UInt32 := Theming.Shell.run args
