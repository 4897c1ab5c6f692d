import Vex.Bridge.Lexical

/-!
# The endpoint the bridge dials

The bridge derives where it dials from facts that are given to it: the target,
the environment, the configuration directory, the temporary directory, the user
and what a probe says of a directory. An override replaces the derived endpoint
and is checked first.

Strings are bytes. The digest of SHA-256 is a parameter.
-/

namespace Vex.Bridge.Endpoint

open Vex.Library Lexical

abbrev GoString := List UInt8

def text (literal : String) : GoString := JsString.utf8 literal.toList

def sunPathMaxBytes : Nat := 103

def overrideEnv : GoString := text "VEX_STUDIO_SOCKET"

def linuxRuntimeDirRoot : GoString := text "/run/user"

inductive RefusalCode where
  | overrideNotAbsolute
  | overrideInvalidPipe
  | overridePipeOnUnix
  | overrideParentMissing
  | overrideParentNotDir
  | overrideParentNotOwned
  | overrideParentMode
  | pathTooLong
  | endpointAncestorChanged
  | endpointDirectoryMissing
  deriving DecidableEq

def RefusalCode.text : RefusalCode → String
  | .overrideNotAbsolute => "override_not_absolute"
  | .overrideInvalidPipe => "override_invalid_pipe"
  | .overridePipeOnUnix => "override_pipe_on_unix"
  | .overrideParentMissing => "override_parent_missing"
  | .overrideParentNotDir => "override_parent_not_directory"
  | .overrideParentNotOwned => "override_parent_not_owned"
  | .overrideParentMode => "override_parent_mode"
  | .pathTooLong => "path_too_long"
  | .endpointAncestorChanged => "endpoint_ancestor_changed"
  | .endpointDirectoryMissing => "endpoint_directory_missing"

structure DirFacts where
  isDirectory : Bool
  uid : Int
  mode : UInt32
  deriving DecidableEq

structure Input where
  goos : GoString
  configDirHashInput : GoString
  env : GoString → Option GoString
  tmpdir : GoString
  uid : Int
  probeDirectory : GoString → Option DirFacts

inductive Kind where
  | unix
  | pipe
  | refused
  deriving DecidableEq

/-- `Plan`. The code is absent where the source has the empty one. -/
structure Plan where
  kind : Kind
  path : GoString := []
  parentDir : GoString := []
  createParent : Bool := false
  code : Option RefusalCode := none
  message : GoString := []
  deriving DecidableEq

section Digest

variable (sha256 : List UInt8 → Vector UInt8 32)

def hash (configDir : GoString) : GoString :=
  (JsString.utf8 (JsString.hexText (sha256 configDir).toList)).take 12

def fileName (configDir : GoString) : GoString :=
  text "vex-studio-" ++ hash sha256 configDir ++ text ".sock"

def pipeName (configDir : GoString) : GoString :=
  text "\\\\.\\pipe\\vex-studio-" ++ hash sha256 configDir

end Digest

def isWindowsPipePath (value : GoString) : Bool :=
  if value.length ≤ 4 then false
  else if value[0]? ≠ some 92 ∨ value[1]? ≠ some 92 ∨ (value[2]? ≠ some 46 ∧ value[2]? ≠ some 63)
    ∨ value[3]? ≠ some 92 then false
  else
    let rest := value.drop 4
    if !(text "pipe\\").isPrefixOf rest then false
    else
      let name := rest.drop (text "pipe\\").length
      name ≠ [] && !(name.any fun b => b == 92 || b == 47)

def isPrivateDirectory (facts : Option DirFacts) (uid : Int) : Bool :=
  match facts with
  | none => false
  | some facts =>
    if !facts.isDirectory then false
    else if facts.uid ≠ uid then false
    else facts.mode &&& 0o077 == 0

def withinSunPath (candidate : GoString) : Bool := candidate.length ≤ sunPathMaxBytes

def sunPathMessage (candidate : GoString) : GoString :=
  text "The Vex Studio socket path is " ++ text (toString candidate.length)
    ++ text " bytes, over the " ++ text (toString sunPathMaxBytes)
    ++ text "-byte sun_path limit. Set " ++ overrideEnv
    ++ text (" to a shorter absolute path in a directory you own with mode 0700. The Vex Studio " ++
      "bridge did not start.")

def refuse (code : RefusalCode) (message : GoString) : Plan :=
  { kind := .refused, code := some code, message := message }

def planPrivateRuntimeDir (runtimeDir name : GoString) : Plan :=
  let candidate := joinPosix [runtimeDir, name]
  if !withinSunPath candidate then refuse .pathTooLong (sunPathMessage candidate)
  else { kind := .unix, path := candidate, parentDir := runtimeDir }

def planOverride (value : GoString) (input : Input) : Plan :=
  if input.goos ≠ text "windows" ∧ (text "\\\\").isPrefixOf value = true then
    refuse .overridePipeOnUnix
      (overrideEnv ++ text (" looks like a Windows named pipe (\\\\.\\pipe\\<name>), but this is not " ++
        "Windows. A pipe name is not a unix socket path and would not be validated as one. Set an " ++
        "absolute path in a directory you own with mode 0700. The Vex Studio bridge did not start."))
  else if input.goos = text "windows" then
    if !isWindowsPipePath value then
      refuse .overrideInvalidPipe
        (overrideEnv ++ text (" is not a valid named pipe. Use \\\\.\\pipe\\<name> with no separators " ++
          "in <name>. The Vex Studio bridge did not start."))
    else { kind := .pipe, path := value }
  else if !(text "/").isPrefixOf value then
    refuse .overrideNotAbsolute
      (overrideEnv ++ text (" must be an absolute path. A relative value would point the bridge " ++
        "wherever it happened to be launched from. The Vex Studio bridge did not start."))
  else if !withinSunPath value then refuse .pathTooLong (sunPathMessage value)
  else
    let parent := dirnamePosix value
    match input.probeDirectory parent with
    | none =>
      refuse .overrideParentMissing
        (overrideEnv ++ text " points into " ++ parent ++ text (", which does not exist. Vex does " ++
          "not create an override's directory: the operator owns it. The Vex Studio bridge did " ++
          "not start."))
    | some facts =>
      if !facts.isDirectory then
        refuse .overrideParentNotDir
          (overrideEnv ++ text " points into " ++ parent ++ text (", which is not a directory. The " ++
            "Vex Studio bridge did not start."))
      else if facts.uid ≠ input.uid then
        refuse .overrideParentNotOwned
          (overrideEnv ++ text " points into " ++ parent ++ text (", which is owned by another " ++
            "user. The Vex Studio bridge did not start."))
      else if facts.mode &&& 0o777 ≠ 0o700 then
        refuse .overrideParentMode
          (overrideEnv ++ text " points into " ++ parent ++ text ", whose mode is 0"
            ++ JsString.utf8 (Nat.toDigits 8 (facts.mode &&& 0o777).toNat)
            ++ text (" rather than 0700. Another user could reach the socket. The Vex Studio " ++
              "bridge did not start."))
      else { kind := .unix, path := value, parentDir := parent }

def derive (sha256 : List UInt8 → Vector UInt8 32) (input : Input) : Plan :=
  let override := (input.env overrideEnv).getD []
  if override ≠ [] then planOverride override input
  else if input.goos = text "windows" then
    { kind := .pipe, path := pipeName sha256 input.configDirHashInput }
  else
    let name := fileName sha256 input.configDirHashInput
    let systemdRuntimeDir := joinPosix [linuxRuntimeDirRoot, text (toString input.uid)]
    let runtimeDir := (input.env (text "XDG_RUNTIME_DIR")).getD []
    if input.goos = text "linux"
        ∧ isPrivateDirectory (input.probeDirectory systemdRuntimeDir) input.uid = true then
      planPrivateRuntimeDir systemdRuntimeDir name
    else if input.goos = text "linux" ∧ runtimeDir ≠ [] ∧ (text "/").isPrefixOf runtimeDir = true
        ∧ isPrivateDirectory (input.probeDirectory runtimeDir) input.uid = true then
      planPrivateRuntimeDir runtimeDir name
    else
      let parent := joinPosix [input.tmpdir, text "vex-studio-" ++ text (toString input.uid)]
      let candidate := joinPosix [parent, name]
      if !withinSunPath candidate then refuse .pathTooLong (sunPathMessage candidate)
      else { kind := .unix, path := candidate, parentDir := parent, createParent := true }

end Vex.Bridge.Endpoint
