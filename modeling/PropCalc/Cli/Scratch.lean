namespace PropCalc.Cli

def osError (description : String) (code : Nat) : String :=
  description ++ " (os error " ++ toString code ++ ")"

def Scratch.through (depth : Nat) : List String → Except String Nat
  | [] => .ok depth
  | "" :: rest | "." :: rest => through depth rest
  | ".." :: rest => through (depth + 1) rest
  | _ :: _ => .error (osError "No such file or directory" 2)

/-- Where writing a file lands: the name it gets in the working directory (none when it lands
above it), or the error text. -/
def Scratch.place (path : String) : Except String (Option String) :=
  let body := (path.toList.reverse.dropWhile (· = '/')).reverse
  let trailingSlash := body.length < path.length
  let parts := (String.ofList body).splitOn "/"
  if path.contains (Char.ofNat 0) then .error "file name contained an unexpected NUL byte"
  else if path.isEmpty then .error (osError "No such file or directory" 2)
  else if path.utf8ByteSize > 4095 ∨ parts.any (fun p => p.utf8ByteSize > 255) then
    .error (osError "File name too long" 36)
  else
    match through 0 parts.dropLast with
    | .error e => .error e
    | .ok depth =>
      let last := parts.getLastD ""
      if trailingSlash ∨ last = "" ∨ last = "." ∨ last = ".." then .error (osError "Is a directory" 21)
      else .ok (if depth = 0 then some last else none)

end PropCalc.Cli
