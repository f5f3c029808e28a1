import AgentForge.Lib.Oracle
import AgentForge.Platform.AgentRun
import AgentForge.Runner.Task

/-!
# Artifacts

The artifact stores and `publishArtifacts` (`agent-runner/internal/runner/artifact.go`). Every object is written, read back and
compared before the manifest that lists it is written; the reference of the manifest is the result.
-/

set_option autoImplicit false

namespace AgentForge.Runner

open Lib

abbrev Bytes := List UInt8

def utf8 (text : String) : Bytes := text.toByteArray.data.toList

/-- `hex.EncodeToString`. -/
def hexEncode (bytes : Bytes) : String :=
  String.ofList (bytes.flatMap fun byte => [(byte.toNat / 16).digitChar, (byte.toNat % 16).digitChar])

/-! ## Calls -/

structure CommandResult where
  arguments : List String
  exitCode : Int
  stdout : String
  stderr : String
  deriving DecidableEq

inductive CommandError
  | deadlineExceeded
  | canceled
  | policy
  | other (reason : String)
  deriving DecidableEq

/-- What `StatObject` tells about an object. -/
structure ObjectInfo where
  contentType : String
  checksumSHA256 : String
  size : Int
  deriving DecidableEq

/-- The calls of the runner, apart from reads of the mounted configuration. -/
inductive Op
  | mkdirAll (path : String)
  | evalSymlinks (path : String)
  | stat (path : String)
  | writeFile (path contents : String)
  /-- `minio.New`. -/
  | newClient (endpoint accessKey secretKey sessionToken : String) (secure : Bool) (region : String)
  /-- `sourceSnapshot`. -/
  | sourceSnapshot (workspace artifactRoot : String)
  /-- A temporary file in the same directory that is renamed. -/
  | replaceFile (path : String) (contents : Bytes)
  | readFile (path : String)
  | putObject (bucket key contentType : String) (contents : Bytes) (sha256 : String)
  | statObject (bucket key : String)
  /-- The wait after the upload of this number, which the context may end. -/
  | wait (upload : Nat)
  | newRedactor (secretRoot : String) (references : List String)
  | emit (kind message : String)
  /-- The records so far. -/
  | trajectory
  /-- `Executor.Run`. -/
  | execute (arguments : List String)

abbrev Op.Res : Op → Type
  | evalSymlinks _ => Except String String
  | sourceSnapshot .. | readFile _ => Except String Bytes
  | statObject .. => Except String ObjectInfo
  | trajectory => String
  | execute _ => Except CommandError CommandResult
  | _ => Except String Unit

/-- The programs of the runner. -/
abbrev Act := Prog Op Op.Res

def call (op : Op) : Act op.Res := Prog.perform op

/-- The functions of other modules that the stores call. -/
structure Library extends Verifier where
  /-- `sha256.Sum256`. -/
  sha256 : Bytes → Bytes

/-- `sha256.Size`. -/
def sha256Size : Nat := 32

/-! ## Configuration -/

structure ArtifactConfig where
  schemaVersion : Int
  backend : String
  root : String
  endpoint : String
  bucket : String
  region : String
  secure : Bool
  keyPrefix : String
  credentialRef : String
  deriving DecidableEq

def ArtifactConfig.zero : ArtifactConfig := ⟨0, "", "", "", "", "", false, "", ""⟩

def asBool : Json → Option Bool
  | .bool b => some b
  | _ => none

def artifactFields : List (Lib.Field ArtifactConfig) :=
  [intField "schemaVersion" fun schemaVersion c => { c with schemaVersion },
    textField "backend" fun backend c => { c with backend },
    textField "root" fun root c => { c with root },
    textField "endpoint" fun endpoint c => { c with endpoint },
    textField "bucket" fun bucket c => { c with bucket },
    textField "region" fun region c => { c with region },
    .value "secure" asBool fun secure c => { c with secure },
    textField "prefix" fun keyPrefix c => { c with keyPrefix },
    textField "credentialRef" fun credentialRef c => { c with credentialRef }]

inductive ArtifactStore
  | filesystem (root : String)
  | s3 (bucket keyPrefix : String)
  deriving DecidableEq

def confinedArtifactRoot (workspace root : String) : Act (Except String String) := do
  if !Paths.isAbs root then return .error "filesystem artifact root must be absolute"
  else
    match ← call (.mkdirAll root) with
    | .error reason => return .error ("create artifact root: " ++ reason)
    | .ok () =>
      match ← call (.evalSymlinks workspace) with
      | .error reason => return .error ("resolve workspace: " ++ reason)
      | .ok canonicalWorkspace =>
        match ← call (.evalSymlinks root) with
        | .error reason => return .error ("resolve artifact root: " ++ reason)
        | .ok canonicalRoot =>
          if (Paths.rel canonicalWorkspace canonicalRoot).all Paths.escapes then
            return .error "filesystem artifact root escapes workspace"
          else return .ok canonicalRoot

/-- `strings.Trim` of slashes. -/
def trimSlashes (text : String) : String :=
  String.ofList ((text.toList.dropWhile (· == '/')).reverse.dropWhile (· == '/')).reverse

section Stores

variable (library : Library) (files : Files)

def loadS3Store (config : ArtifactConfig) (secretRoot : String) (approvedSecretRefs : List String) :
    Act (Except String ArtifactStore) := do
  if config.endpoint = "" ∨ config.bucket = "" ∨ config.credentialRef = "" ∨ !matchesReferenceName config.credentialRef ∨
      !approvedSecretRefs.contains config.credentialRef then
    return .error "S3 artifact configuration is invalid"
  else
    match files (Paths.join [secretRoot, config.credentialRef, "accessKey"]) with
    | .error e => return .error ("read artifact access key: " ++ e.text)
    | .ok accessKey =>
      match files (Paths.join [secretRoot, config.credentialRef, "secretKey"]) with
      | .error e => return .error ("read artifact secret key: " ++ e.text)
      | .ok secretKey =>
        let sessionToken := (files (Paths.join [secretRoot, config.credentialRef, "sessionToken"])).toOption.getD ""
        match ← call (.newClient config.endpoint (Platform.trimSpace accessKey) (Platform.trimSpace secretKey)
          (Platform.trimSpace sessionToken) config.secure config.region) with
        | .error reason => return .error ("create S3 artifact client: " ++ reason)
        | .ok () => return .ok (.s3 config.bucket (trimSlashes config.keyPrefix))

def loadArtifactStore (configPath workspace secretRoot : String) (approvedSecretRefs : List String) :
    Act (Except String ArtifactStore) :=
  match files configPath with
  | .error e => return .error ("read artifact configuration: " ++ e.text)
  | .ok contents =>
    match decodeFirst artifactFields .zero contents with
    | none => return .error "decode artifact configuration"
    | some config =>
      if config.schemaVersion ≠ 1 then return .error "artifact configuration schema is unsupported"
      else if config.backend = "filesystem" then
        if config.root = "" then return .error "filesystem artifact root is required"
        else do return (← confinedArtifactRoot workspace config.root).map .filesystem
      else if config.backend = "s3" then loadS3Store files config secretRoot approvedSecretRefs
      else return .error "artifact backend is unsupported"

/-! ## Objects -/

structure ArtifactObject where
  key : String
  contentType : String
  sha256 : String
  size : Int
  deriving DecidableEq

def artifactObject (key contentType : String) (contents : Bytes) : ArtifactObject :=
  ⟨key, contentType, hexEncode (library.sha256 contents), contents.length⟩

def filesystemPath (root key : String) : Except String String :=
  if key = "" ∨ Paths.isAbs key then .error "artifact key is invalid"
  else
    let path := Paths.join [root, key]
    if (Paths.rel root path).all Paths.escapes then .error "artifact key escapes root" else .ok path

def fullKey (keyPrefix key : String) : String := if keyPrefix = "" then key else keyPrefix ++ "/" ++ key

namespace ArtifactStore

def put (store : ArtifactStore) (key contentType : String) (contents : Bytes) : Act (Except String ArtifactObject) := do
  let object := artifactObject library key contentType contents
  match store with
  | .filesystem root =>
    match filesystemPath root key with
    | .error reason => return .error reason
    | .ok path => return (← call (.replaceFile path contents)).map fun () => object
  | .s3 bucket keyPrefix =>
    return (← call (.putObject bucket (fullKey keyPrefix key) contentType contents object.sha256)).map fun () => object

/-- The object that a checksum describes. -/
def described (key : String) (info : ObjectInfo) : Except String ArtifactObject :=
  match library.decodeBase64 info.checksumSHA256 with
  | none => .error "S3 object checksum is invalid"
  | some digest =>
    if digest.length ≠ sha256Size then .error "S3 object checksum is invalid"
    else .ok ⟨key, info.contentType, hexEncode digest, info.size⟩

def head (store : ArtifactStore) (key : String) : Act (Except String ArtifactObject) := do
  match store with
  | .filesystem root =>
    match filesystemPath root key with
    | .error reason => return .error reason
    | .ok path => return (← call (.readFile path)).map (artifactObject library key "")
  | .s3 bucket keyPrefix =>
    return (← call (.statObject bucket (fullKey keyPrefix key))).bind (described library key)

def reference (store : ArtifactStore) (key : String) : String :=
  match store with
  | .filesystem root =>
    match filesystemPath root key with
    | .error _ => ""
    | .ok path => "file://" ++ path
  | .s3 bucket keyPrefix => "s3://" ++ bucket ++ "/" ++ fullKey keyPrefix key

end ArtifactStore

/-! ## Publication -/

/-- One upload, read back. -/
def putOnce (store : ArtifactStore) (key contentType : String) (contents : Bytes) : Act (Except String ArtifactObject) := do
  match ← store.put library key contentType contents with
  | .error reason => return .error reason
  | .ok result =>
    match ← store.head library key with
    | .error reason => return .error reason
    | .ok head =>
      if head.size = result.size ∧ head.sha256 = result.sha256 then return .ok result
      else return .error "artifact verification failed"

/-- The loop of `putVerified`, with the uploads that are left and the last error. -/
def putAttempts (store : ArtifactStore) (key contentType : String) (contents : Bytes) (limit : Nat) :
    Nat → String → Act (Except String ArtifactObject)
  | 0, last => return .error ("publish " ++ key ++ ": " ++ last)
  | left + 1, _ => do
    match ← putOnce library store key contentType contents with
    | .ok result => return .ok result
    | .error reason =>
      match ← call (.wait (limit - left)) with
      | .error cancelled => return .error cancelled
      | .ok () => putAttempts store key contentType contents limit left reason

def putVerified (store : ArtifactStore) (key contentType : String) (contents : Bytes) : Act (Except String ArtifactObject) :=
  putAttempts library store key contentType contents 3 3 ""

def putAll (store : ArtifactStore) : List (String × String × Bytes) → Act (Except String (List ArtifactObject))
  | [] => return .ok []
  | (key, contentType, contents) :: rest => do
    match ← putVerified library store key contentType contents with
    | .error reason => return .error reason
    | .ok result => return (← putAll store rest).map (result :: ·)

def CommandResult.document (result : CommandResult) : Json := .obj
  [("Arguments", .arr (result.arguments.map .str)), ("ExitCode", .num result.exitCode), ("Stdout", .str result.stdout),
    ("Stderr", .str result.stderr)]

def testReport (results : List CommandResult) : Bytes :=
  utf8 (JsonText.marshal (.obj
    [("schemaVersion", .num 1), ("passed", .bool (results.all (·.exitCode == 0))),
      ("commands", .arr (results.map CommandResult.document))]))

def commandOutput (results : List CommandResult) (stdout : Bool) : Bytes :=
  utf8 (String.join (results.map fun result => if stdout then result.stdout else result.stderr))

structure TrajectoryRecord where
  schemaVersion : Int
  sequence : Nat
  timestamp : String
  type : String
  message : String

/-- A `uint64`. The text `-0`, which `ParseUint` refuses, is the number 0 here. -/
def asUint (json : Json) : Option Nat := json.asInt.bind fun n => if 0 ≤ n ∧ n < 2 ^ 64 then some n.toNat else none

def trajectoryFields : List (Lib.Field TrajectoryRecord) :=
  [intField "schemaVersion" fun schemaVersion r => { r with schemaVersion },
    .value "sequence" asUint fun sequence r => { r with sequence },
    textField "timestamp" fun timestamp r => { r with timestamp },
    textField "type" fun type r => { r with type },
    textField "message" fun message r => { r with message }]

/-- The sequence number of the last line that is a record. -/
def trajectorySequence (contents : String) : Nat :=
  (contents.toList.splitOn '\n').foldl (fun last line =>
    match (JsonText.unmarshal (String.ofList line)).bind (decodeStruct false trajectoryFields ⟨0, 0, "", "", ""⟩) with
    | some record => record.sequence
    | none => last) 0

def ArtifactObject.document (object : ArtifactObject) : Json := .obj
  [("Key", .str object.key), ("ContentType", .str object.contentType), ("SHA256", .str object.sha256),
    ("Size", .num object.size)]

def resultManifest (config : RuntimeConfig) (published : List ArtifactObject) (trajectory : String) : Json := .obj
  [("schemaVersion", .num 1), ("tenantId", .str config.tenantID), ("projectId", .str config.projectID),
    ("runId", .str config.runID), ("attemptId", .str config.attemptID), ("attempt", .num config.attempt),
    ("outcome", .str "SUCCEEDED"), ("artifacts", .arr (published.map ArtifactObject.document)),
    ("trajectoryFirstSequence", .num 1), ("trajectoryLastSequence", .num (trajectorySequence trajectory))]

/-- What all keys of an execution begin with. -/
def executionPrefix (config : RuntimeConfig) : String :=
  "/".intercalate ["tenants", config.tenantID, "projects", config.projectID, "runs", config.runID, "attempts",
    toString config.attempt]

def manifestKey (config : RuntimeConfig) : String := executionPrefix config ++ "/result-manifest.json"

/-- The objects that the manifest lists. -/
def listedObjects (config : RuntimeConfig) (snapshot : Bytes) (trajectory : String) (results : List CommandResult) :
    List (String × String × Bytes) :=
  let under := executionPrefix config
  [(under ++ "/source.tar.gz", "application/gzip", snapshot),
    (under ++ "/test-report.json", "application/json", testReport results),
    (under ++ "/trajectory/000001.jsonl", "application/x-ndjson", utf8 trajectory),
    (under ++ "/logs/stdout.txt", "text/plain", commandOutput results true),
    (under ++ "/logs/stderr.txt", "text/plain", commandOutput results false)]

def publishArtifacts (store : ArtifactStore) (config : RuntimeConfig) (workspace trajectory : String)
    (results : List CommandResult) : Act (Except String String) := do
  let artifactRoot := match store with
    | .filesystem root => root
    | .s3 .. => ""
  match ← call (.sourceSnapshot workspace artifactRoot) with
  | .error reason => return .error reason
  | .ok snapshot =>
    match ← putAll library store (listedObjects config snapshot trajectory results) with
    | .error reason => return .error reason
    | .ok published =>
      let contents := utf8 (JsonText.marshal (resultManifest config published trajectory))
      match ← putVerified library store (manifestKey config) "application/json" contents with
      | .error reason => return .error reason
      | .ok _ => return .ok (store.reference (manifestKey config))

end Stores

end AgentForge.Runner
