import VertRule.PackReports
import VertRule.Rbh
import VertRule.Lib.Flags

/-!
# The command line

`bin/vr_verify.rs`: the flags, the commands and `main`, as the run of a process that reads files and
writes to its standard output and standard error.
-/

namespace VertRule

namespace Cli

/-- `LimitArgs`. -/
structure LimitArgs where
  maxBytes : Option ℕ := none
  maxChainLength : Option ℕ := none

namespace LimitArgs

/-- `LimitArgs::is_present`. -/
def isPresent (args : LimitArgs) : Bool := args.maxBytes.isSome || args.maxChainLength.isSome

/-- `LimitArgs::resolve`. -/
def resolve (args : LimitArgs) : VerifierLimits :=
  { VerifierLimits.default with
    maxBytes := args.maxBytes.getD VerifierLimits.default.maxBytes
    maxChainLength := args.maxChainLength.getD VerifierLimits.default.maxChainLength }

end LimitArgs

/-- `std::process::ExitCode`. -/
abbrev ExitCode := UInt8

/-- What the process takes from its surroundings: its word size, files by their path, what
`write_all` to the standard output comes to, and the serde code of types the verifier only passes
on. -/
structure Platform where
  /-- `usize::MAX`. -/
  maxUsize : ℕ
  /-- `std::fs::read`. -/
  readFile : String → Except String Bytes
  /-- `write_all` to the standard output, which is buffered by lines; an error comes with how many
  bytes were accepted before.  What is lost when the buffer is flushed later is not told. -/
  writeAll : Bytes → Except (ℕ × String) Unit
  /-- `serde_json::from_value::<AuthoritySet>`. -/
  authoritySetFromValue : Json → Except String AuthoritySet
  /-- `serde_json::from_value::<TrustPolicy>`. -/
  trustPolicyFromValue : Json → Except String TrustPolicy
  /-- `serde_json::to_vec` of `VerifiedReceiptMetadata`. -/
  metadataToVec : Rbh.VerifiedReceiptMetadata → Except String Bytes

/-! ### Flags -/

/-- One round of the loop of `usize::from_str`: a digit, checked against overflow. -/
def addDigit (maxUsize value : ℕ) (c : Char) : Option ℕ :=
  if c.isDigit ∧ value * 10 + (c.toNat - '0'.toNat) ≤ maxUsize then
    some (value * 10 + (c.toNat - '0'.toNat))
  else none

/-- `str::parse::<usize>`: digits, perhaps after one `+`. -/
def parseUsize (maxUsize : ℕ) (raw : String) : Option ℕ :=
  match raw.toList with
  | [] | ['+'] => none
  | '+' :: digits => digits.foldlM (addDigit maxUsize) 0
  | digits => digits.foldlM (addDigit maxUsize) 0

/-- `parse_limit_value`. -/
def parseLimitValue (maxUsize : ℕ) (flag raw : String) : Except String ℕ :=
  match parseUsize maxUsize raw with
  | none => .error s!"{flag} expects a non-negative integer, got \"{raw}\""
  | some value =>
    if value = 0 then .error s!"{flag} must be greater than 0" else .ok value

/-- The error of an argument that is not a flag. -/
def unexpectedArgument (other : String) : String := s!"unexpected argument \"{other}\""

/-- The arm of `parse_limit_args` for a limit flag. -/
def limitFlag (maxUsize : ℕ) (flag : String) (set : ℕ → LimitArgs → LimitArgs) :
    Flags.Flag String LimitArgs String where
  token := flag
  missing := s!"{flag} requires a value"
  read raw := (parseLimitValue maxUsize flag raw).map set

/-- The limit flags, of which `--max-chain-length` is only there when it is allowed. -/
def limitFlags (maxUsize : ℕ) (allowChainLength : Bool) :
    List (Flags.Flag String LimitArgs String) :=
  limitFlag maxUsize "--max-bytes" (fun n parsed => { parsed with maxBytes := some n }) ::
    if allowChainLength then
      [limitFlag maxUsize "--max-chain-length"
        fun n parsed => { parsed with maxChainLength := some n }]
    else []

/-- `parse_limit_args`. -/
def parseLimitArgs (maxUsize : ℕ) (flags : List String) (allowChainLength : Bool) :
    Except String LimitArgs :=
  Flags.parse (limitFlags maxUsize allowChainLength) unexpectedArgument {} flags

/-- The flags of `parse_trust_arg`. -/
def trustFlags : List (Flags.Flag String (Option String) String) :=
  [{ token := "--trust"
     missing := "--trust requires a path"
     read := fun path => .ok fun _ => some path }]

/-- `parse_trust_arg`. -/
def parseTrustArg (flags : List String) : Except String (Option String) :=
  Flags.parse trustFlags unexpectedArgument none flags

/-- `USAGE`. -/
def usage : String :=
  "Usage:\n" ++
  "  vr-verify receipt <file.json> [--max-bytes <N>]\n" ++
  "  vr-verify chain   <chain.json> [--max-bytes <N>] [--max-chain-length <N>]\n" ++
  "  vr-verify signed  <file.json> <sig.json> [--trust <trust.json>]\n" ++
  "  vr-verify bundle  <bundle.json>\n" ++
  "  vr-verify layered <pack.json>\n" ++
  "  vr-verify decision <pack.json>\n" ++
  "  vr-verify closure <bundle.json>\n" ++
  "  vr-verify external <receipt.json>\n" ++
  "\n" ++
  "Options:\n" ++
  "  --max-bytes <N>         Reject input larger than N bytes (must be > 0).\n" ++
  "  --max-chain-length <N>  Reject chains with more than N envelopes (must be > 0).\n" ++
  "  --trust <trust.json>    Evaluate the signing key against an authority set and\n" ++
  "                          trust policy: \x7b\"authority_set\": ..., " ++
    "\"trust_policy\": ...\x7d.\n" ++
  "\n" ++
  "Omitting the limit/trust flags preserves the default verification behavior.\n" ++
  "\n" ++
  "Exit codes:\n" ++
  "  0  VALID\n" ++
  "  1  INVALID / UNSIGNED\n" ++
  "  2  Usage error"

/-! ### Runs -/

/-- What a process leaves: its exit code, the bytes that its standard output accepted, and the lines
it wrote to the standard error. -/
structure Run where
  exit : ExitCode
  stdout : Bytes
  stderr : List String

/-- A run that reports an error and exits with 2. -/
def Run.error (lines : List String) : Run := ⟨2, [], lines⟩

/-- An error with the usage text. -/
def usageError (e : String) : Run := .error [s!"Error: {e}", usage]

/-- The exit code of a status. -/
def exitCode : VerificationStatus → ExitCode
  | .valid => 0
  | .invalid => 1

variable (E : Externals) (P : Platform)

/-- Writes bytes and then a newline, whose failure is ignored. -/
def writeLine (canonBytes : Bytes) (stderr : List String) (exit : ExitCode) : Run :=
  match P.writeAll canonBytes with
  | .error (n, e) => ⟨2, canonBytes.take n, [s!"Error writing result: {e}"]⟩
  | .ok () =>
    match P.writeAll [10] with
    | .error _ => ⟨exit, canonBytes, stderr⟩
    | .ok () => ⟨exit, canonBytes ++ [10], stderr⟩

/-- Writes the canonical form of a report, and exits with its status. -/
def emitReport (report : Report) (stderr : List String) : Run :=
  match typedCanonBytes E report.value with
  | .error e => .error [s!"Error canonicalizing result: {E.message e}"]
  | .ok canonBytes => writeLine P canonBytes stderr (exitCode report.status)

/-- What `emit_result` writes to the standard error: the result digest. -/
def digestLine (result : VerificationResult) : String :=
  match result.digest E with
  | .ok d => E.digestFormat.display d
  | .error e => s!"digest error: {E.message e}"

/-- `emit_result`. -/
def emitResult (result : VerificationResult) : Run :=
  emitReport E P result.report [digestLine E result]

/-- `std::fs::read`, whose error is reported. -/
def withFile (path : String) (run : Bytes → Run) : Run :=
  match P.readFile path with
  | .error e => .error [s!"Error reading {path}: {e}"]
  | .ok rawBytes => run rawBytes

/-- `run_receipt`. -/
def runReceipt (path : String) (limits : LimitArgs) : Run :=
  withFile P path fun rawBytes =>
    emitResult E P
      (if limits.isPresent then verifyReceiptWithLimits E rawBytes limits.resolve
        else verifyReceipt E rawBytes)

/-- `run_chain`. -/
def runChain (path : String) (limits : LimitArgs) : Run :=
  withFile P path fun rawBytes =>
    emitResult E P
      (if limits.isPresent then verifyReceiptChainWithLimits E rawBytes limits.resolve
        else verifyReceiptChain E rawBytes)

/-- `load_trust_config`. -/
def loadTrustConfig (path : String) : Except String (AuthoritySet × TrustPolicy) := do
  let bytes ← P.readFile path
  let value ← E.fromSlice bytes
  let authoritySet ← match value.get "authority_set" with
    | some v => P.authoritySetFromValue v
    | none => throw "missing \"authority_set\""
  let trustPolicy ← match value.get "trust_policy" with
    | some v => P.trustPolicyFromValue v
    | none => pure .default
  pure (authoritySet, trustPolicy)

/-- `run_signed`. -/
def runSigned (receiptPath sigPath : String) (trustPath : Option String) : Run :=
  withFile P receiptPath fun rawBytes =>
    withFile P sigPath fun sigBytes =>
      match trustPath with
      | some path =>
        match loadTrustConfig E P path with
        | .error e => .error [s!"Error loading trust config {path}: {e}"]
        | .ok (authoritySet, trustPolicy) =>
          emitResult E P
            (verifySignedReceiptWithTrust E rawBytes sigBytes authoritySet trustPolicy)
      | none => emitResult E P (verifySignedReceipt E rawBytes sigBytes)

/-- `run_bundle`. -/
def runBundle (path : String) : Run :=
  withFile P path fun rawBytes => emitReport E P (verifyBundle E rawBytes).report []

/-- `run_layered`. -/
def runLayered (path : String) : Run :=
  withFile P path fun rawBytes => emitReport E P (verifyLayeredPack E rawBytes).report []

/-- `run_decision`. -/
def runDecision (path : String) : Run :=
  withFile P path fun rawBytes => emitReport E P (verifyDecisionPack E rawBytes).report []

/-- `run_closure`. -/
def runClosure (path : String) : Run :=
  withFile P path fun rawBytes => emitReport E P (verifyClosureBundle E rawBytes).report []

/-- `run_external`. -/
def runExternal (path : String) : Run :=
  withFile P path fun rawBytes =>
    match Rbh.verifyExternalReceipt E rawBytes with
    | .error e => ⟨1, [], [e.display]⟩
    | .ok metadata =>
      match P.metadataToVec metadata with
      | .error e => .error [s!"Error serializing metadata: {e}"]
      | .ok json =>
        match E.toCanonBytesFromSlice json with
        | .error e => .error [s!"Error canonicalizing metadata: {e.display}"]
        | .ok canon => writeLine P canon [] 0

/-- A command that takes one argument. -/
def oneArgument (command : String) (rest : List String) (run : Run) : Run :=
  if rest ≠ [] then usageError s!"'{command}' expects exactly one argument" else run

/-- `main`, on the arguments of the process, of which the first is the program. -/
def main (args : List String) : Run :=
  match args with
  | _ :: command :: path :: rest =>
    if command = "receipt" then
      match parseLimitArgs P.maxUsize rest false with
      | .ok limits => runReceipt E P path limits
      | .error e => usageError e
    else if command = "chain" then
      match parseLimitArgs P.maxUsize rest true with
      | .ok limits => runChain E P path limits
      | .error e => usageError e
    else if command = "signed" then
      match rest with
      | [] => usageError "'signed' expects at least two arguments"
      | sigPath :: flags =>
        match parseTrustArg flags with
        | .ok trust => runSigned E P path sigPath trust
        | .error e => usageError e
    else if command = "bundle" then oneArgument command rest (runBundle E P path)
    else if command = "layered" then oneArgument command rest (runLayered E P path)
    else if command = "decision" then oneArgument command rest (runDecision E P path)
    else if command = "closure" then oneArgument command rest (runClosure E P path)
    else if command = "external" then oneArgument command rest (runExternal E P path)
    else usageError s!"unknown command \"{command}\""
  | _ => .error [usage]

end Cli

end VertRule
