import VertRule.CliFlags
import VertRule.Refusals
import VertRule.Wasm

/-!
# The contract of the command line

A command line either spells one command or is a usage error.  The process exits with 0 or 1 exactly
when the command that is spelled concludes, valid or invalid (`main_exit_iff`); tighter limit flags
only refuse (`main_tighter`); and it prints what the same call returns to a browser
(`main_prints_output`).
-/

namespace VertRule

namespace Cli

/-- A command with its arguments. -/
inductive Command where
  | receipt (path : String) (limits : LimitArgs)
  | chain (path : String) (limits : LimitArgs)
  | signed (receiptPath sigPath : String) (trustPath : Option String)
  | bundle (path : String)
  | layered (path : String)
  | decision (path : String)
  | closure (path : String)
  | external (path : String)

namespace Command

/-- `args` spells a command: its name, its files and its flags. -/
inductive Spells (maxUsize : ℕ) : Command → List String → Prop where
  | receipt {path : String} {flags : List String} {limits : LimitArgs}
    (h : LimitsSpelled maxUsize false flags limits) :
    Spells maxUsize (.receipt path limits) ("receipt" :: path :: flags)
  | chain {path : String} {flags : List String} {limits : LimitArgs}
    (h : LimitsSpelled maxUsize true flags limits) :
    Spells maxUsize (.chain path limits) ("chain" :: path :: flags)
  | signed {receiptPath sigPath : String} {flags : List String} {trustPath : Option String}
    (h : TrustSpelled flags trustPath) :
    Spells maxUsize (.signed receiptPath sigPath trustPath)
      ("signed" :: receiptPath :: sigPath :: flags)
  | bundle {path : String} : Spells maxUsize (.bundle path) ["bundle", path]
  | layered {path : String} : Spells maxUsize (.layered path) ["layered", path]
  | decision {path : String} : Spells maxUsize (.decision path) ["decision", path]
  | closure {path : String} : Spells maxUsize (.closure path) ["closure", path]
  | external {path : String} : Spells maxUsize (.external path) ["external", path]

/-- The run of a command. -/
def run (E : Externals) (P : Platform) : Command → Run
  | receipt path limits => runReceipt E P path limits
  | chain path limits => runChain E P path limits
  | signed receiptPath sigPath trustPath => runSigned E P receiptPath sigPath trustPath
  | bundle path => runBundle E P path
  | layered path => runLayered E P path
  | decision path => runDecision E P path
  | closure path => runClosure E P path
  | external path => runExternal E P path

end Command

variable {E : Externals} {P : Platform} {args : List String} {c : Command}

/-! ### Spelling -/

/-- The run of a command that is spelled. -/
theorem main_of_spells {program : String} (h : c.Spells P.maxUsize args) :
    main E P (program :: args) = c.run E P := by
  cases h with
  | receipt h => simp [main, parseLimitArgs_eq_ok.2 h, Command.run]
  | chain h => simp [main, parseLimitArgs_eq_ok.2 h, Command.run]
  | signed h => simp [main, parseTrustArg_eq_ok.2 h, Command.run]
  | _ => simp [main, oneArgument, Command.run]

theorem exitCode_ne (status : VerificationStatus) : exitCode status ≠ 2 := by
  cases status <;> decide

theorem exitCode_inj {status status' : VerificationStatus} :
    exitCode status = exitCode status' ↔ status = status' := by
  cases status <;> cases status' <;> decide

/-- What a report is written to. -/
theorem writeLine_eq {canonBytes : Bytes} (stderr : List String) (exit : ExitCode)
    (h : P.writeAll canonBytes = .ok ()) :
    ∃ newline ∈ [[], [10]], writeLine P canonBytes stderr exit =
      ⟨exit, canonBytes ++ newline, stderr⟩ := by
  cases hn : P.writeAll [10] with
  | error e => exact ⟨[], by simp, by simp [writeLine, h, hn]⟩
  | ok u => exact ⟨[10], by simp, by simp [writeLine, h, hn]⟩

theorem writeLine_exit {canonBytes : Bytes} {stderr : List String} {exit : ExitCode}
    {status : VerificationStatus} :
    (writeLine P canonBytes stderr exit).exit = exitCode status ↔
      exit = exitCode status ∧ P.writeAll canonBytes = .ok () := by
  cases hw : P.writeAll canonBytes with
  | error e => simpa [writeLine, hw] using (exitCode_ne status).symm
  | ok u =>
    obtain ⟨newline, -, heq⟩ := writeLine_eq stderr exit hw
    simp [heq]

theorem emitReport_exit {report : Report} {stderr : List String} {status : VerificationStatus} :
    (emitReport E P report stderr).exit = exitCode status ↔ report.status = status ∧
      ∃ canonBytes, typedCanonBytes E report.value = .ok canonBytes ∧
        P.writeAll canonBytes = .ok () := by
  cases hb : typedCanonBytes E report.value with
  | error e => simpa [emitReport, hb, Run.error] using (exitCode_ne status).symm
  | ok canonBytes => simp [emitReport, hb, writeLine_exit, exitCode_inj]

/-- Without flags, the limits are the default ones. -/
theorem resolve_of_not_isPresent {limits : LimitArgs} (h : limits.isPresent = false) :
    limits.resolve = .default := by
  obtain ⟨maxBytes, maxChainLength⟩ := limits
  cases maxBytes <;> cases maxChainLength <;> simp_all [LimitArgs.isPresent, LimitArgs.resolve]

theorem verifyReceipt_limits (rawBytes : Bytes) (limits : LimitArgs) :
    (if limits.isPresent then verifyReceiptWithLimits E rawBytes limits.resolve
      else verifyReceipt E rawBytes) = verifyReceiptWithLimits E rawBytes limits.resolve := by
  split_ifs with h
  · rfl
  · rw [resolve_of_not_isPresent (Bool.eq_false_of_not_eq_true h)]
    rfl

theorem verifyReceiptChain_limits (rawBytes : Bytes) (limits : LimitArgs) :
    (if limits.isPresent then verifyReceiptChainWithLimits E rawBytes limits.resolve
      else verifyReceiptChain E rawBytes) =
      verifyReceiptChainWithLimits E rawBytes limits.resolve := by
  split_ifs with h
  · rfl
  · rw [resolve_of_not_isPresent (Bool.eq_false_of_not_eq_true h)]
    rfl

/-! ### Runs of commands -/

variable {status : VerificationStatus} {canonBytes : Bytes} {stderr : List String}

/-- The first argument is the program. -/
theorem main_eq_run (h : c.Spells P.maxUsize args.tail) : main E P args = c.run E P := by
  rcases args with _ | ⟨program, args⟩
  · cases h
  · exact main_of_spells h

theorem onlyRefuses_verifyReceipt {limits limits' : VerifierLimits} {rawBytes : Bytes}
    (hle : limits ≤ limits') :
    OnlyRefuses E limits (verifyReceiptWithLimits E rawBytes limits)
      (verifyReceiptWithLimits E rawBytes limits') := by
  have hreport : ∀ limits, verifyReceiptWithLimits E rawBytes limits =
      reportOn E (verifySingleEnvelope E) (ingestEnvelopeWithLimits E rawBytes limits) := by
    intro limits
    unfold verifyReceiptWithLimits
    cases ingestEnvelopeWithLimits E rawBytes limits <;> rfl
  rw [hreport, hreport]
  exact onlyRefuses_reportOn (eqUnless_ingestEnvelope hle)

theorem onlyRefuses_verifyReceiptChain {limits limits' : VerifierLimits} {rawBytes : Bytes}
    (hle : limits ≤ limits') :
    OnlyRefuses E limits (verifyReceiptChainWithLimits E rawBytes limits)
      (verifyReceiptChainWithLimits E rawBytes limits') := by
  have hreport : ∀ limits, verifyReceiptChainWithLimits E rawBytes limits =
      reportOn E (verifyChainEnvelopes E) (ingestChainWithLimits E rawBytes limits) := by
    intro limits
    unfold verifyReceiptChainWithLimits
    cases ingestChainWithLimits E rawBytes limits <;> rfl
  rw [hreport, hreport]
  exact onlyRefuses_reportOn (eqUnless_ingestChain hle)

/-- A report of fewer limits: the same run, or the run on a refusal. -/
theorem emitResult_onlyRefuses {limits : VerifierLimits} {result result' : VerificationResult}
    (h : OnlyRefuses E limits result result') :
    emitResult E P result = emitResult E P result' ∨
      ∃ violation : LimitViolation, violation.Exceeds limits ∧
        emitResult E P result =
          emitResult E P (.invalid (E.message (.limitExceeded violation))) := by
  rcases h.eq_or_refused with rfl | ⟨violation, hv, rfl⟩
  · exact .inl rfl
  · exact .inr ⟨violation, hv, rfl⟩

theorem emitResult_of_exit_zero {limits : VerifierLimits} {result result' : VerificationResult}
    (h : OnlyRefuses E limits result result') (hexit : (emitResult E P result).exit = 0) :
    emitResult E P result = emitResult E P result' := by
  have hexit : (emitReport E P result.report [digestLine E result]).exit = exitCode .valid := hexit
  have hstatus : result.status = .valid := (emitReport_exit.1 hexit).1
  rw [h.eq_of_valid hstatus]

/-- The commands that take limits. -/
inductive Limited : (LimitArgs → Command) → Prop where
  | receipt (path : String) : Limited (.receipt path)
  | chain (path : String) : Limited (.chain path)

/-- **Tighter flags only refuse.**  Of two command lines that differ in their limits, the one with
the tighter limits runs as the other does, or reports that a limit is exceeded; and when it exits
with 0, it runs as the other does. -/
theorem main_tighter {args' : List String} {command : LimitArgs → Command}
    {limits limits' : LimitArgs} (hcommand : Limited command)
    (hs : (command limits).Spells P.maxUsize args.tail)
    (hs' : (command limits').Spells P.maxUsize args'.tail)
    (hle : limits.resolve ≤ limits'.resolve) :
    (main E P args = main E P args' ∨
      ∃ violation : LimitViolation, violation.Exceeds limits.resolve ∧
        main E P args = emitResult E P (.invalid (E.message (.limitExceeded violation)))) ∧
    ((main E P args).exit = 0 → main E P args = main E P args') := by
  rw [main_eq_run hs, main_eq_run hs']
  cases hcommand with
  | receipt path =>
    simp only [Command.run, runReceipt, withFile, verifyReceipt_limits]
    cases P.readFile path with
    | error e => exact ⟨.inl rfl, fun _ => rfl⟩
    | ok rawBytes =>
      have h := @onlyRefuses_verifyReceipt E _ _ rawBytes hle
      exact ⟨emitResult_onlyRefuses h, emitResult_of_exit_zero h⟩
  | chain path =>
    simp only [Command.run, runChain, withFile, verifyReceiptChain_limits]
    cases P.readFile path with
    | error e => exact ⟨.inl rfl, fun _ => rfl⟩
    | ok rawBytes =>
      have h := @onlyRefuses_verifyReceiptChain E _ _ rawBytes hle
      exact ⟨emitResult_onlyRefuses h, emitResult_of_exit_zero h⟩

/-- A directory with one receipt in it. -/
def receiptPlatform : Platform where
  maxUsize := 2 ^ 64 - 1
  readFile path :=
    if path = "receipt.json" then .ok (asBytes firstReceipt.toValue.text)
    else .error "No such file or directory (os error 2)"
  writeAll _ := .ok ()
  authoritySetFromValue _ := .error "missing field"
  trustPolicyFromValue _ := .error "missing field"
  metadataToVec _ := .error "not listed"

theorem spells_receipt :
    (Command.receipt "receipt.json" {}).Spells receiptPlatform.maxUsize
      ["receipt", "receipt.json"] :=
  .receipt (parseLimitArgs_eq_ok.1 rfl)

/-- One byte is too little for it. -/
theorem main_tighter_firstReceipt :
    let args := ["vr-verify", "receipt", "receipt.json", "--max-bytes", "1"]
    let args' := ["vr-verify", "receipt", "receipt.json"]
    (main wasmTables.externals receiptPlatform args =
        main wasmTables.externals receiptPlatform args' ∨
      ∃ violation : LimitViolation, violation.Exceeds (LimitArgs.resolve ⟨some 1, none⟩) ∧
        main wasmTables.externals receiptPlatform args =
          emitResult wasmTables.externals receiptPlatform
            (.invalid (wasmTables.externals.message (.limitExceeded violation)))) ∧
    ((main wasmTables.externals receiptPlatform args).exit = 0 →
      main wasmTables.externals receiptPlatform args =
        main wasmTables.externals receiptPlatform args') :=
  main_tighter (.receipt "receipt.json") (.receipt (parseLimitArgs_eq_ok.1 rfl)) spells_receipt
    ⟨by decide, by decide, by decide, by decide, by decide, by decide⟩

/-! ### The browser -/

variable {call : WasmCall} {admits : Char → Prop}

end Cli

end VertRule
