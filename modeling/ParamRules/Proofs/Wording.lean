import ParamRules.CommandLine.Basic
import ParamRules.Fixture.Directory
import ParamRules.Proofs.Text.Integer

/-!
# What is shown

Failures, steps, events and errors are kept as what happened and are worded only where they are
shown. The relations of this module give the whole wording, with the names, values, entries and
counts filled in; what is shown of a thing is exactly what its relation says (`tells_iff`,
`shows_iff`, `prints_iff`).
-/

namespace ParamRules

/-! ## Failures -/

/-- The reason for which a request is refused names the line, the token, the entry or the value at
fault, and its parameter. -/
inductive Failure.Tells : Failure → String → Prop where
  | missingSeparator (line : String) : Tells (.missingSeparator line)
      ("rule \"" ++ line ++ "\" has no parameter name; parameter " ++ "sanitize"
        ++ " must be on the format sanitize=param=<value>")
  | malformedEntry (param token : String) : Tells (.malformedEntry param token)
      ("invalid condition \"" ++ token ++ "\" in rule for param " ++ param ++ "; parameter "
        ++ "sanitize"
        ++ " must be on the format sanitize=param=from:to from:to default:val >num:num2")
  | invalidThreshold (param entry : String) : Tells (.invalidThreshold param entry)
      ("wrong format of replace rule for param " ++ param ++ ":" ++ entry
        ++ " (threshold must be an integer)")
  | invalidFlag (param value : String) : Tells (.invalidFlag param value)
      ("invalid boolean value \"" ++ value ++ "\" for param " ++ param)

theorem Failure.tells_iff {failure : Failure} {text : String} :
    failure.Tells text ↔ failure.message = text := by
  constructor
  · intro tells
    cases tells <;> rfl
  · rintro rfl
    cases failure <;> constructor

/-! ## Steps -/

inductive Outcome.Tells : Outcome → String → Prop where
  | invariant (replacement : String) :
      Tells (.invariant replacement) ("invariant -> " ++ replacement)
  | default (replacement : String) : Tells (.default replacement) ("default -> " ++ replacement)
  | matched (index : Nat) (entry : Entry) : Tells (.matched index entry)
      ("matched [" ++ toString index ++ "] " ++ entry.key ++ " -> " ++ entry.replacement)
  | noMatch : Tells .noMatch "no match"
  | absent : Tells .absent "absent"

theorem Outcome.tells_iff {outcome : Outcome} {text : String} :
    outcome.Tells text ↔ outcome.text = text := by
  constructor
  · intro tells
    cases tells with
    | matched index entry => rw [Outcome.text, Text.Integer.writeNat_eq_toString]
    | _ => rfl
  · rintro rfl
    cases outcome with
    | matched index entry =>
        rw [Outcome.text, Text.Integer.writeNat_eq_toString]
        exact .matched index entry
    | _ => constructor

/-- The line about a step names the parameter, its value and the outcome, and then, if there are
any, the positions that were passed over. -/
inductive Step.Tells (step : Step) : String → Prop where
  | plain {outcome : String} (tells : step.decision.outcome.Tells outcome)
      (noSkip : step.decision.skipped = []) :
      Tells step (step.param ++ " [" ++ step.original.getD "(absent)" ++ "]: " ++ outcome)
  | skipping {outcome : String} (tells : step.decision.outcome.Tells outcome)
      (skipped : step.decision.skipped ≠ []) :
      Tells step (step.param ++ " [" ++ step.original.getD "(absent)" ++ "]: " ++ outcome
        ++ " (skipped non-numeric at ["
        ++ ", ".intercalate (step.decision.skipped.map toString) ++ "])")

/-- How the log shows an event: its level, its message and its fields. -/
inductive Event.Shows : Event → Level → String → List (String × Field) → Prop where
  | started (enabled : Bool) (rules : Nat) :
      Shows (.started enabled rules) .info "initialized request sanitizer"
        [("enabled", .flag enabled), ("configured_rules", .count rules)]
  | disabled : Shows .disabled .debug "request sanitizer disabled for this request" []
  | separatorMissing (line : String) :
      Shows (.separatorMissing line) .warn "rule has no parameter separator"
        [("rule", .text line)]
  | tokenMalformed (param token : String) :
      Shows (.tokenMalformed param token) .warn "malformed rule token"
        [("param", .text param), ("token", .text token)]
  | rulesRead (rules : Nat) :
      Shows (.rulesRead rules) .debug "parsed sanitize rules" [("rules", .count rules)]
  | invariantApplied (param value : String) :
      Shows (.invariantApplied param value) .debug "applying invariant"
        [("param", .text param), ("value", .text value)]
  | defaultApplied (param value : String) :
      Shows (.defaultApplied param value) .debug "parameter absent, applying default"
        [("param", .text param), ("value", .text value)]
  | boundNotNumeric (param : String) (entry : Entry) :
      Shows (.boundNotNumeric param entry) .warn "non-numeric threshold"
        [("param", .text param), ("condition", .text (entry.key ++ ":" ++ entry.replacement))]
  | valueNotNumeric (param original : String) (entry : Entry) :
      Shows (.valueNotNumeric param original entry) .debug
        "value is not a number, skipping threshold"
        [("param", .text param), ("original", .text original),
          ("condition", .text (entry.key ++ ":" ++ entry.replacement))]
  | ruleHit (param original : String) (entry : Entry) :
      Shows (.ruleHit param original entry) .debug "rule hit"
        [("param", .text param), ("original", .text original),
          ("condition", .text (entry.key ++ ":" ++ entry.replacement))]
  | modified (overlay : Overlay) :
      Shows (.modified overlay) .info "request parameters modified by sanitizer"
        [("modified", .text ("\x7b"
          ++ ", ".intercalate (overlay.toList.map fun pair => pair.1 ++ "=" ++ pair.2)
          ++ "\x7d"))]

theorem Event.shows_iff {event : Event} {level : Level} {message : String}
    {fields : List (String × Field)} :
    event.Shows level message fields ↔
      event.level = level ∧ event.message = message ∧ event.fields = fields := by
  constructor
  · intro shows
    cases shows <;> exact ⟨rfl, rfl, rfl⟩
  · rintro ⟨rfl, rfl, rfl⟩
    cases event <;> constructor

/-! ## Errors of loading -/

/-- How the system words the reason for which it gives no text. -/
inductive ReadError.Tells : ReadError → String → Prop where
  | notFound : Tells .notFound "No such file or directory (os error 2)"
  | notADirectory : Tells .notADirectory "Not a directory (os error 20)"
  | isADirectory : Tells .isADirectory "Is a directory (os error 21)"
  | nameTooLong : Tells .nameTooLong "File name too long (os error 36)"
  | invalidName : Tells .invalidName "file name contained an unexpected NUL byte"
  | notUtf8 : Tells .notUtf8 "stream did not contain valid UTF-8"
  | other (reason : String) : Tells (.other reason) reason

theorem ReadError.tells_iff {cause : ReadError} {text : String} :
    cause.Tells text ↔ cause.message = text := by
  constructor
  · intro tells
    cases tells <;> rfl
  · rintro rfl
    cases cause <;> constructor

/-- The error of a directory or a file names its path and gives the system's reason, or the
decoder's. -/
inductive LoadError.Tells : LoadError → String → Prop where
  | unreadable {path : Path} {cause : ReadError} {reason : String} (tells : cause.Tells reason) :
      Tells (.unreadable path cause)
        ("failed to read \"" ++ Text.ofBytes path ++ "\": " ++ reason)
  | malformed (path : Path) (cause : String) : Tells (.malformed path cause)
      ("failed to parse \"" ++ Text.ofBytes path ++ "\": " ++ cause)

theorem LoadError.tells_message (error : LoadError) : error.Tells error.message := by
  cases error with
  | unreadable path cause => exact .unreadable (ReadError.tells_iff.2 rfl)
  | malformed path cause => exact .malformed path cause

/-! ## Errors of the command line -/

namespace CommandLine

/-- What a command says of an error: the argument, path, parameter or bound at fault, or what the
reader of the file or the decoder of its text says. -/
inductive Error.Tells : Error → String → Prop where
  | unknownCommand (name : String) :
      Tells (.unknownCommand name) ("unknown command \"" ++ name ++ "\"")
  | missingPath (command : String) :
      Tells (.missingPath command) (command ++ " requires a config file path")
  | invalidPair (argument : String) : Tells (.invalidPair argument)
      ("invalid param pair \"" ++ argument ++ "\", expected key=value")
  | unexpectedArgument (argument : String) :
      Tells (.unexpectedArgument argument) ("unexpected argument \"" ++ argument ++ "\"")
  | unreadable {path : String} {cause : ReadError} {reason : String}
      (tells : cause.Tells reason) :
      Tells (.unreadable path cause) ("failed to read \"" ++ path ++ "\": " ++ reason)
  | undecodableJson (cause : String) :
      Tells (.undecodable .json cause) ("JSON parse error: " ++ cause)
  | undecodableYaml (cause : String) :
      Tells (.undecodable .yaml cause) ("YAML parse error: " ++ cause)
  | badRequest {failure : Failure} {reason : String} (tells : failure.Tells reason) :
      Tells (.badRequest failure) ("bad request: " ++ reason)
  | invalidRules {failure : Failure} {reason : String} (tells : failure.Tells reason) :
      Tells (.invalidRules failure) ("config invalid: " ++ reason)
  | invalidBound (param bound : String) : Tells (.invalidBound param bound)
      ("config invalid: threshold \"" ++ bound ++ "\" for param " ++ param ++ " is not an integer")

theorem Error.tells_iff {error : Error} {text : String} :
    error.Tells text ↔ error.message = text := by
  constructor
  · intro tells
    cases tells with
    | unreadable tells =>
        exact congrArg ("failed to read \"" ++ _ ++ "\": " ++ ·) (ReadError.tells_iff.1 tells)
    | badRequest tells => exact congrArg ("bad request: " ++ ·) (Failure.tells_iff.1 tells)
    | invalidRules tells => exact congrArg ("config invalid: " ++ ·) (Failure.tells_iff.1 tells)
    | _ => rfl
  · rintro rfl
    cases error with
    | unreadable path cause => exact .unreadable (ReadError.tells_iff.2 rfl)
    | badRequest failure => exact .badRequest (Failure.tells_iff.2 rfl)
    | invalidRules failure => exact .invalidRules (Failure.tells_iff.2 rfl)
    | undecodable format cause => cases format <;> constructor
    | _ => constructor

/-- What is printed of an error: one line, and after it the usage if the command is unknown. -/
inductive Error.Prints : Error → String → Prop where
  | unknownCommand {name text : String} (tells : Error.Tells (.unknownCommand name) text) :
      Prints (.unknownCommand name) ("error: " ++ text ++ "\n" ++ usage)
  | line {error : Error} {text : String} (known : ∀ name, error ≠ .unknownCommand name)
      (tells : error.Tells text) : Prints error ("error: " ++ text ++ "\n")

theorem fail_unknownCommand (name : String) :
    fail (.unknownCommand name) =
      { status := 1
        messages := "error: " ++ (Error.unknownCommand name).message ++ "\n" ++ usage } := by
  simp [fail, Text.lines]

theorem fail_of_known {error : Error} (known : ∀ name, error ≠ .unknownCommand name) :
    fail error = { status := 1, messages := "error: " ++ error.message ++ "\n" } := by
  cases error with
  | unknownCommand name => exact absurd rfl (known name)
  | _ => simp [fail, Text.lines]

theorem Error.prints_iff {error : Error} {text : String} :
    error.Prints text ↔ fail error = { status := 1, output := "", messages := text } := by
  have told : error.Tells error.message := Error.tells_iff.2 rfl
  constructor
  · intro prints
    cases prints with
    | unknownCommand tells => rw [fail_unknownCommand, Error.tells_iff.1 tells]
    | line known tells => rw [fail_of_known known, Error.tells_iff.1 tells]
  · intro ended
    by_cases known : ∀ name, error ≠ .unknownCommand name
    · rw [fail_of_known known, Ending.mk.injEq] at ended
      rw [← ended.2.2]
      exact .line known told
    · simp only [not_forall, not_not] at known
      rcases known with ⟨name, rfl⟩
      rw [fail_unknownCommand, Ending.mk.injEq] at ended
      rw [← ended.2.2]
      exact .unknownCommand told

end CommandLine

end ParamRules
