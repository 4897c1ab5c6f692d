import Vex.Library.LetterCase
import Vex.Library.PosixPath

/-!
# The endpoint the host listens on

The host plans where it listens from the facts the bridge derives its endpoint
from. Strings are those of the language, and the operations on paths are those of
its platform's `path.posix`, which normalises.

The digest of SHA-256 is a parameter.
-/

namespace Vex.Studio.Endpoint

open Vex.Library

def studioSunPathMaxBytes : Nat := 103

def studioSocketOverrideEnv : JsString := JsString.ofString "VEX_STUDIO_SOCKET"

def linuxRuntimeDirRoot : JsString := JsString.ofString "/run/user"

structure EndpointDirectoryFacts where
  isDirectory : Bool
  uid : Int
  mode : Nat
  deriving DecidableEq

structure EndpointPlanInput where
  platform : JsString
  configDirRealPath : JsString
  env : JsString → Option JsString
  tmpdir : JsString
  uid : Int
  probeDirectory : JsString → Option EndpointDirectoryFacts

/-- `StudioEndpointRefusalCode`. -/
inductive RefusalCode where
  | overrideNotAbsolute
  | overrideInvalidPipe
  | overridePipeOnUnix
  | endpointAncestorChanged
  | overrideParentMissing
  | overrideParentNotDirectory
  | overrideParentNotOwned
  | overrideParentMode
  | pathTooLong
  deriving DecidableEq

def RefusalCode.text : RefusalCode → String
  | .overrideNotAbsolute => "override_not_absolute"
  | .overrideInvalidPipe => "override_invalid_pipe"
  | .overridePipeOnUnix => "override_pipe_on_unix"
  | .endpointAncestorChanged => "endpoint_ancestor_changed"
  | .overrideParentMissing => "override_parent_missing"
  | .overrideParentNotDirectory => "override_parent_not_directory"
  | .overrideParentNotOwned => "override_parent_not_owned"
  | .overrideParentMode => "override_parent_mode"
  | .pathTooLong => "path_too_long"

inductive StudioEndpointPlan where
  | unix (path parentDir : JsString) (createParent : Bool)
  | pipe (path : JsString)
  | refused (code : RefusalCode) (message : JsString)

/-! ## Paths -/

/-- The marks of `path.posix`. -/
def unitMarks : PosixPath.Marks UInt16 := ⟨47, 46, by decide⟩

/-- `join` of the flavour of a target that is not Windows. A Windows target is planned before
a path is joined. -/
def join (parts : List JsString) : JsString := PosixPath.join unitMarks parts

/-- `dirname` of that flavour. -/
def dirname (path : JsString) : JsString := PosixPath.dirname unitMarks path

/-- `isAbsolute` of that flavour. -/
def isAbsolute (path : JsString) : Bool := PosixPath.isAbsolute unitMarks path

section Digest

variable (sha256 : List UInt8 → Vector UInt8 32)

def studioEndpointHash (configDirRealPath : JsString) : JsString :=
  (JsString.units (JsString.hexText (sha256 (JsString.encodeText configDirRealPath)).toList)).take 12

def studioEndpointFileName (configDirRealPath : JsString) : JsString :=
  JsString.ofString "vex-studio-" ++ studioEndpointHash sha256 configDirRealPath
    ++ JsString.ofString ".sock"

def studioEndpointPipeName (configDirRealPath : JsString) : JsString :=
  JsString.ofString "\\\\.\\pipe\\vex-studio-" ++ studioEndpointHash sha256 configDirRealPath

end Digest

def isPrivateDirectory (facts : Option EndpointDirectoryFacts) (uid : Int) : Bool :=
  match facts with
  | none => false
  | some facts =>
    if !facts.isDirectory then false
    else if facts.uid ≠ uid then false
    else facts.mode &&& 0o077 == 0

/-- `Buffer.byteLength` in UTF-8. -/
def byteLength (value : JsString) : Nat := (JsString.encodeText value).length

def withinSunPath (candidate : JsString) : Bool := byteLength candidate ≤ studioSunPathMaxBytes

/-! ## Named pipes -/

/-- The units a dot of a regular expression does not stand for. -/
def isLineTerminator (unit : UInt16) : Bool :=
  unit == 10 || unit == 13 || unit == 0x2028 || unit == 0x2029

/-- The expression of `isWindowsPipePath`, with the text of its group. -/
def pipeMatch : JsString → Option JsString
  | 92 :: 92 :: mark :: 92 :: rest =>
    if (mark = 46 ∨ mark = 63) ∧ JsString.startsWith rest (JsString.ofString "pipe\\") = true then
      let name := rest.drop (JsString.ofString "pipe\\").length
      if name ≠ [] ∧ name.all (fun unit => !isLineTerminator unit) = true then some name else none
    else none
  | _ => none

def isWindowsPipePath (value : JsString) : Bool :=
  match pipeMatch value with
  | none => false
  | some name => 0 < name.length && !JsString.includes name [92] && !JsString.includes name [47]

/-! ## Plans -/

def sunPathMessage (candidate : JsString) : JsString :=
  JsString.ofString "The Vex Studio socket path is "
    ++ JsString.ofString (toString (byteLength candidate)) ++ JsString.ofString " bytes, over the "
    ++ JsString.ofString (toString studioSunPathMaxBytes)
    ++ JsString.ofString "-byte sun_path limit. Set " ++ studioSocketOverrideEnv
    ++ JsString.ofString (" to a shorter absolute path in a directory you own with mode 0700. The " ++
      "Vex Studio host did not start.")

def refuse (code : RefusalCode) (message : JsString) : StudioEndpointPlan := .refused code message

def planPrivateRuntimeDir (runtimeDir fileName : JsString) : StudioEndpointPlan :=
  let candidate := join [runtimeDir, fileName]
  if !withinSunPath candidate then refuse .pathTooLong (sunPathMessage candidate)
  else .unix candidate runtimeDir false

def planOverride (value : JsString) (input : EndpointPlanInput) : StudioEndpointPlan :=
  if input.platform ≠ JsString.ofString "win32"
      ∧ JsString.startsWith value (JsString.ofString "\\\\") = true then
    refuse .overridePipeOnUnix
      (studioSocketOverrideEnv ++ JsString.ofString (" looks like a Windows named pipe " ++
        "(\\\\.\\pipe\\<name>), but this is not Windows. A pipe name is not a unix socket path and " ++
        "would not be validated as one. Set an absolute path in a directory you own with mode 0700. " ++
        "The Vex Studio host did not start."))
  else if input.platform = JsString.ofString "win32" then
    if !isWindowsPipePath value then
      refuse .overrideInvalidPipe
        (studioSocketOverrideEnv ++ JsString.ofString (" is not a valid named pipe. Use " ++
          "\\\\.\\pipe\\<name> with no separators in <name>. The Vex Studio host did not start."))
    else .pipe value
  else if !isAbsolute value then
    refuse .overrideNotAbsolute
      (studioSocketOverrideEnv ++ JsString.ofString (" must be an absolute path. A relative value " ++
        "would put Vex's privileged listener wherever it happened to be launched from. The Vex " ++
        "Studio host did not start."))
  else if !withinSunPath value then refuse .pathTooLong (sunPathMessage value)
  else
    let parentDir := dirname value
    match input.probeDirectory parentDir with
    | none =>
      refuse .overrideParentMissing
        (studioSocketOverrideEnv ++ JsString.ofString " points into " ++ parentDir
          ++ JsString.ofString (", which does not exist. Vex does not create an override's " ++
            "directory: the operator owns it, and creating it would mean Vex chose its " ++
            "permissions. The Vex Studio host did not start."))
    | some facts =>
      if !facts.isDirectory then
        refuse .overrideParentNotDirectory
          (studioSocketOverrideEnv ++ JsString.ofString " points into " ++ parentDir
            ++ JsString.ofString ", which is not a directory. The Vex Studio host did not start.")
      else if facts.uid ≠ input.uid then
        refuse .overrideParentNotOwned
          (studioSocketOverrideEnv ++ JsString.ofString " points into " ++ parentDir
            ++ JsString.ofString (", which is owned by another user. Vex will not put a privileged " ++
              "listener in a directory it does not own. The Vex Studio host did not start."))
      else if facts.mode &&& 0o777 ≠ 0o700 then
        refuse .overrideParentMode
          (studioSocketOverrideEnv ++ JsString.ofString " points into " ++ parentDir
            ++ JsString.ofString ", whose mode is 0"
            ++ JsString.units (Nat.toDigits 8 (facts.mode &&& 0o777))
            ++ JsString.ofString (" rather than 0700. Another user could reach the socket. The Vex " ++
              "Studio host did not start."))
      else .unix value parentDir false

def planStudioEndpoint (sha256 : List UInt8 → Vector UInt8 32) (input : EndpointPlanInput) :
    StudioEndpointPlan :=
  let override := (input.env studioSocketOverrideEnv).getD []
  if override.length > 0 then planOverride override input
  else if input.platform = JsString.ofString "win32" then
    .pipe (studioEndpointPipeName sha256 input.configDirRealPath)
  else
    let fileName := studioEndpointFileName sha256 input.configDirRealPath
    let systemdRuntimeDir := join [linuxRuntimeDirRoot, JsString.ofString (toString input.uid)]
    let runtimeDir := (input.env (JsString.ofString "XDG_RUNTIME_DIR")).getD []
    if input.platform = JsString.ofString "linux"
        ∧ isPrivateDirectory (input.probeDirectory systemdRuntimeDir) input.uid = true then
      planPrivateRuntimeDir systemdRuntimeDir fileName
    else if input.platform = JsString.ofString "linux" ∧ runtimeDir.length > 0
        ∧ isAbsolute runtimeDir = true
        ∧ isPrivateDirectory (input.probeDirectory runtimeDir) input.uid = true then
      planPrivateRuntimeDir runtimeDir fileName
    else
      let parentDir := join [input.tmpdir,
        JsString.ofString "vex-studio-" ++ JsString.ofString (toString input.uid)]
      let candidate := join [parentDir, fileName]
      if !withinSunPath candidate then refuse .pathTooLong (sunPathMessage candidate)
      else .unix candidate parentDir true

end Vex.Studio.Endpoint
