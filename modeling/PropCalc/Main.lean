import PropCalc.Cli.Report
import PropCalc.Cli.Scratch

open PropCalc PropCalc.Cli

def writeFailure (e : IO.Error) : String :=
  match e with
  | .noFileOrDirectory _ code _ => osError "No such file or directory" code.toNat
  | .permissionDenied _ code _ => osError "Permission denied" code.toNat
  | .inappropriateType _ code _ =>
    if code = 21 then osError "Is a directory" 21 else osError "Not a directory" code.toNat
  | other => toString other

/-- Write the DOT file of a run, when its formula reads and a file is asked for. -/
def writeDot (o : Options) : IO (Except String (Option String)) := do
  match (Formula.read o.formula).value, o.dot with
  | .ok f, some path =>
    try
      IO.FS.writeFile path f.dot
      pure (.ok (some path))
    catch e => pure (.error (writeFailure e))
  | _, _ => pure (.ok none)

def main (args : List String) : IO UInt32 := do
  match Invocation.ofArgs args with
  | .help =>
    IO.print helpText
    pure 0
  | .version =>
    IO.print versionText
    pure 0
  | .refuse msg =>
    IO.eprint msg
    pure 2
  | .run o =>
    let start ← IO.monoMsNow
    let written ← writeDot o
    let out := Outcome.ofOptions o fun _ => written
    let stop ← IO.monoMsNow
    IO.print (out.stdout o.log (elapsedText (stop - start)))
    match out.failure with
    | some e =>
      IO.eprintln ("Error: \n   0: " ++ e)
      pure 1
    | none => pure 0
