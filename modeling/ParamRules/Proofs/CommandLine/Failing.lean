import ParamRules.CommandLine.Basic
import ParamRules.Proofs.CommandLine.Arguments
import ParamRules.Proofs.CommandLine.Checking
import ParamRules.Proofs.CommandLine.Reporting
import ParamRules.Proofs.Wording

/-!
# What is at fault when a command fails

A command goes through stages: its name, its arguments, the configuration file, the content of the
file, and last the request or the configured rules. `FirstFault` says of each stage what is wrong
with it once nothing before it is, and `Succeeds` says what is printed when nothing is wrong at all.
Some arguments either succeed or have a first fault, never both, and `run` prints accordingly
(`run_ends_cleanly`): the result alone, line by line, or the message about the fault alone
(`ReportsOnly`), and never a part of a result.
-/

namespace ParamRules.CommandLine

/-! ## The stages -/

/-- The three reports on a request. -/
inductive Form where
  | effective
  | replaced
  | explanation

/-- The lines of a report. -/
def Form.report : Form → Config → Params → Except Error (List String)
  | effective, config, params => Report.effective config params
  | replaced, config, params => (Report.replaced config params).map fun json => [json]
  | explanation, config, params => Report.explanation config params

/-- The arguments ask for a report, name a configuration file and go on with parameters. The option
`--json` counts right after the file. -/
inductive Asks : List String → Form → String → List String → Prop where
  | effective {path : String} {rest : List String} (plain : rest.head? ≠ some "--json") :
      Asks ("eval" :: path :: rest) .effective path rest
  | replaced {path : String} {rest : List String} :
      Asks ("eval" :: path :: "--json" :: rest) .replaced path rest
  | explanation {path : String} {rest : List String} :
      Asks ("explain" :: path :: rest) .explanation path rest

/-- Nothing is wrong with the arguments of a command that needs a configuration file. The check does
not look at what comes after the file. -/
inductive Opens : List String → String → Prop where
  | report {arguments rest : List String} {form : Form} {path : String}
      (asks : Asks arguments form path rest) (placed : WellPlaced rest) : Opens arguments path
  | check {path : String} {rest : List String} : Opens ("check" :: path :: rest) path

section

variable (read : String → Except ReadError String) (decode : Format → String → Except String Config)

/-- A file holds a configuration. -/
def Holds (path : String) (config : Config) : Prop :=
  ∃ text, read path = .ok text ∧ decode (Format.ofPath path) text = .ok config

/-- Why a file gives no configuration. -/
inductive Unloadable (path : String) : Error → Prop where
  | unreadable {cause : ReadError} (unread : read path = .error cause) :
      Unloadable path (.unreadable path cause)
  | undecodable {text cause : String} (present : read path = .ok text)
      (undecoded : decode (Format.ofPath path) text = .error cause) :
      Unloadable path (.undecodable (Format.ofPath path) cause)

/-- The first stage of a command at which something is wrong. -/
inductive FirstFault : List String → Error → Prop where
  | unknownCommand {name : String} {rest : List String}
      (noPath : name ∉ ["eval", "explain", "check"]) (noHelp : name ∉ ["help", "--help", "-h"]) :
      FirstFault (name :: rest) (.unknownCommand name)
  | missingPath {name : String} (needs : name ∈ ["eval", "explain", "check"]) :
      FirstFault [name] (.missingPath name)
  | parameters {arguments rest : List String} {form : Form} {path : String} {error : Error}
      (asks : Asks arguments form path rest) (unexpected : FirstUnexpected rest error) :
      FirstFault arguments error
  | configuration {arguments : List String} {path : String} {error : Error}
      (opens : Opens arguments path) (unloadable : Unloadable read decode path error) :
      FirstFault arguments error
  | request {arguments rest : List String} {form : Form} {path : String} {params : Params}
      {config : Config} {failure : Failure} (asks : Asks arguments form path rest)
      (parsed : paramsOf rest = .ok params) (holds : Holds read decode path config)
      (refused : (config.sanitize (.request params)).result = .error failure) :
      FirstFault arguments (.badRequest failure)
  | rules {path : String} {rest : List String} {config : Config} {error : Error}
      (holds : Holds read decode path config) (fault : Report.Fault config error) :
      FirstFault ("check" :: path :: rest) error

/-- What is left behind when nothing is wrong. -/
inductive Succeeds : List String → Ending → Prop where
  | help {name : String} {rest : List String} (asks : name ∈ ["help", "--help", "-h"]) :
      Succeeds (name :: rest) { messages := usage }
  | report {arguments rest : List String} {form : Form} {path : String} {params : Params}
      {config : Config} {lines : List String} (asks : Asks arguments form path rest)
      (parsed : paramsOf rest = .ok params) (holds : Holds read decode path config)
      (made : form.report config params = .ok lines) :
      Succeeds arguments { output := Text.lines lines }
  | check {path : String} {rest : List String} {config : Config} {count : Nat}
      (holds : Holds read decode path config) (counted : Report.ruleCount config = .ok count) :
      Succeeds ("check" :: path :: rest)
        { output := Text.lines ["Config valid (" ++ Text.Integer.writeNat count ++ " rules)"] }

/-- Nothing is printed but the message of an error. -/
def ReportsOnly (arguments : List String) (error : Error) : Prop :=
  ∃ text, error.Prints text ∧
    run read decode arguments = { status := 1, output := "", messages := text }

/-- How a command ends, the error kept apart from its message. -/
def outcome (name : String) (arguments : List String) : Except Error Ending :=
  Command.ofArguments name arguments >>= perform read decode

end

/-! ## Each stage -/

variable {read : String → Except ReadError String} {decode : Format → String → Except String Config}
  {path name : String} {arguments rest : List String} {config : Config} {params : Params}
  {form : Form} {error : Error} {ending : Ending}

theorem configAt_of_holds (holds : Holds read decode path config) :
    configAt read decode path = .ok config := by
  rcases holds with ⟨text, present, decoded⟩
  simp only [configAt, present, Except.mapError, bind, Except.bind, decoded]

theorem configAt_of_unloadable (unloadable : Unloadable read decode path error) :
    configAt read decode path = .error error := by
  cases unloadable with
  | unreadable unread => simp only [configAt, unread, Except.mapError, bind, Except.bind]
  | undecodable present undecoded =>
      simp only [configAt, present, Except.mapError, bind, Except.bind, undecoded]

theorem holds_or_unloadable (path : String) :
    (∃ config, Holds read decode path config) ∨ ∃ error, Unloadable read decode path error := by
  cases present : read path with
  | error cause => exact Or.inr ⟨_, .unreadable present⟩
  | ok text =>
      cases decoded : decode (Format.ofPath path) text with
      | error cause => exact Or.inr ⟨_, .undecodable present decoded⟩
      | ok config => exact Or.inl ⟨config, text, present, decoded⟩

theorem report_eq_error_iff :
    form.report config params = .error error ↔
      ∃ failure, (config.sanitize (.request params)).result = .error failure ∧
        error = .badRequest failure := by
  cases form with
  | effective => rw [Form.report, Report.effective_eq_map, Report.ofRequest_map_eq_error_iff]
  | replaced =>
      rw [Form.report, Run.map_eq_error_iff, Report.replaced_eq_map,
        Report.ofRequest_map_eq_error_iff]
  | explanation => rw [Form.report, Report.explanation_eq_error_iff]

/-- The command that asks for a report. -/
def Form.command : Form → String → Params → Command
  | effective, path, params => .evaluate path false params
  | replaced, path, params => .evaluate path true params
  | explanation, path, params => .explain path params

theorem ofArguments_of_asks (asks : Asks (name :: arguments) form path rest) :
    Command.ofArguments name arguments = (paramsOf rest).map (form.command path) := by
  cases asks with
  | effective plain =>
      rcases rest with _ | ⟨first, others⟩
      · rfl
      · have other : first ≠ "--json" := by simpa using plain
        simp [Command.ofArguments, other]
        rfl
  | replaced => rfl
  | explanation => rfl

theorem perform_command (form : Form) (path : String) (params : Params) :
    perform read decode (form.command path params) =
      configAt read decode path >>= fun config =>
        (form.report config params).map fun lines => { output := Text.lines lines } := by
  cases form with
  | effective => rfl
  | replaced =>
      rw [Form.command, perform]
      congr 1
      funext config
      rw [Form.report]
      cases Report.replaced config params <;> rfl
  | explanation => rfl

/-- A report is made from the parameters and the configuration, in this order. -/
theorem outcome_of_asks (asks : Asks (name :: arguments) form path rest) :
    outcome read decode name arguments =
      paramsOf rest >>= fun params => configAt read decode path >>= fun config =>
        (form.report config params).map fun lines => { output := Text.lines lines } := by
  rw [outcome, ofArguments_of_asks asks, ← funext (perform_command form path)]
  cases paramsOf rest <;> rfl

theorem outcome_of_parsed (asks : Asks (name :: arguments) form path rest)
    (parsed : paramsOf rest = .ok params) :
    outcome read decode name arguments =
      configAt read decode path >>= fun config =>
        (form.report config params).map fun lines => { output := Text.lines lines } := by
  rw [outcome_of_asks asks, parsed]
  rfl

theorem outcome_of_holds (asks : Asks (name :: arguments) form path rest)
    (parsed : paramsOf rest = .ok params) (holds : Holds read decode path config) :
    outcome read decode name arguments =
      (form.report config params).map fun lines => { output := Text.lines lines } := by
  rw [outcome_of_parsed asks parsed, configAt_of_holds holds]
  rfl

/-- The check looks at the configuration file alone. -/
theorem outcome_check :
    outcome read decode "check" (path :: rest) =
      configAt read decode path >>= fun config => (Report.ruleCount config).map fun count =>
        { output := Text.lines ["Config valid (" ++ Text.Integer.writeNat count ++ " rules)"] } :=
  rfl

theorem outcome_check_of_holds (holds : Holds read decode path config) :
    outcome read decode "check" (path :: rest) = (Report.ruleCount config).map fun count =>
      { output := Text.lines ["Config valid (" ++ Text.Integer.writeNat count ++ " rules)"] } := by
  rw [outcome_check, configAt_of_holds holds]
  rfl

theorem ofArguments_of_unknown (noPath : name ∉ ["eval", "explain", "check"])
    (noHelp : name ∉ ["help", "--help", "-h"]) :
    Command.ofArguments name arguments = .error (.unknownCommand name) := by
  simp only [List.mem_cons, List.not_mem_nil, or_false, not_or] at noPath noHelp
  unfold Command.ofArguments
  split <;> simp_all

/-! ## Either all is well or something is the first fault -/

theorem outcome_of_succeeds (succeeds : Succeeds read decode (name :: arguments) ending) :
    outcome read decode name arguments = .ok ending := by
  cases succeeds with
  | help asks =>
      simp only [List.mem_cons, List.not_mem_nil, or_false] at asks
      rcases asks with rfl | rfl | rfl <;> rfl
  | report asks parsed holds made =>
      rw [outcome_of_holds asks parsed holds, made]
      rfl
  | check holds counted =>
      rw [outcome_check_of_holds holds, counted]
      rfl

theorem outcome_of_firstFault
    (fault : FirstFault read decode (name :: arguments) error) :
    outcome read decode name arguments = .error error := by
  cases fault with
  | unknownCommand noPath noHelp =>
      rw [outcome, ofArguments_of_unknown noPath noHelp]
      rfl
  | missingPath needs =>
      simp only [List.mem_cons, List.not_mem_nil, or_false] at needs
      rcases needs with rfl | rfl | rfl <;> rfl
  | parameters asks unexpected =>
      rw [outcome_of_asks asks, paramsOf_of_firstUnexpected unexpected]
      rfl
  | configuration opens unloadable =>
      cases opens with
      | report asks placed =>
          rw [outcome_of_parsed asks (paramsOf_of_wellPlaced placed),
            configAt_of_unloadable unloadable]
          rfl
      | check =>
          rw [outcome_check, configAt_of_unloadable unloadable]
          rfl
  | request asks parsed holds refused =>
      rw [outcome_of_holds asks parsed holds, report_eq_error_iff.2 ⟨_, refused, rfl⟩]
      rfl
  | rules holds fault =>
      rw [outcome_check_of_holds holds, Report.ruleCount_eq_error_iff.2 fault]
      rfl

theorem made_or_firstFault (asks : Asks arguments form path rest) :
    (∃ params config lines, paramsOf rest = .ok params ∧ Holds read decode path config ∧
        form.report config params = .ok lines) ∨
      ∃ error, FirstFault read decode arguments error := by
  -- The stages in order: each is split only where the one before it is fine.
  rcases wellPlaced_or_firstUnexpected rest with placed | ⟨error, unexpected⟩
  · rcases @holds_or_unloadable read decode path with ⟨config, holds⟩ | ⟨error, unloadable⟩
    · have parsed := paramsOf_of_wellPlaced placed
      cases made : form.report config (.ofList (rest.filterMap (Text.cut? '='))) with
      | ok lines => exact Or.inl ⟨_, config, lines, parsed, holds, made⟩
      | error blamed =>
          rcases report_eq_error_iff.1 made with ⟨failure, refused, rfl⟩
          exact Or.inr ⟨_, .request asks parsed holds refused⟩
    · exact Or.inr ⟨error, .configuration (.report asks placed) unloadable⟩
  · exact Or.inr ⟨error, .parameters asks unexpected⟩

theorem succeeds_or_firstFault_of_asks (asks : Asks arguments form path rest) :
    (∃ ending, Succeeds read decode arguments ending) ∨
      ∃ error, FirstFault read decode arguments error := by
  rcases made_or_firstFault asks with ⟨_, _, _, parsed, holds, made⟩ | faulty
  · exact Or.inl ⟨_, .report asks parsed holds made⟩
  · exact Or.inr faulty

theorem made_or_firstFault_of_check :
    (∃ config count, Holds read decode path config ∧ Report.ruleCount config = .ok count) ∨
      ∃ error, FirstFault read decode ("check" :: path :: rest) error := by
  rcases @holds_or_unloadable read decode path with ⟨config, holds⟩ | ⟨error, unloadable⟩
  · cases counted : Report.ruleCount config with
    | ok count => exact Or.inl ⟨config, count, holds, counted⟩
    | error error => exact Or.inr ⟨error, .rules holds (Report.ruleCount_eq_error_iff.1 counted)⟩
  · exact Or.inr ⟨error, .configuration .check unloadable⟩

theorem succeeds_or_firstFault_of_check :
    (∃ ending, Succeeds read decode ("check" :: path :: rest) ending) ∨
      ∃ error, FirstFault read decode ("check" :: path :: rest) error := by
  rcases made_or_firstFault_of_check with ⟨_, _, holds, counted⟩ | faulty
  · exact Or.inl ⟨_, .check holds counted⟩
  · exact Or.inr faulty

theorem exists_asks_of_eval (path : String) (rest : List String) :
    ∃ form others, Asks ("eval" :: path :: rest) form path others := by
  by_cases json : rest.head? = some "--json"
  · rcases List.head?_eq_some_iff.1 json with ⟨others, rfl⟩
    exact ⟨_, _, .replaced⟩
  · exact ⟨_, _, .effective json⟩

theorem succeeds_or_firstFault (name : String) (arguments : List String) :
    (∃ ending, Succeeds read decode (name :: arguments) ending) ∨
      ∃ error, FirstFault read decode (name :: arguments) error := by
  by_cases help : name ∈ ["help", "--help", "-h"]
  · exact Or.inl ⟨_, .help help⟩
  · by_cases needs : name ∈ ["eval", "explain", "check"]
    · rcases arguments with _ | ⟨path, rest⟩
      · exact Or.inr ⟨_, .missingPath needs⟩
      · simp only [List.mem_cons, List.not_mem_nil, or_false] at needs
        rcases needs with rfl | rfl | rfl
        · rcases exists_asks_of_eval path rest with ⟨_, _, asks⟩
          exact succeeds_or_firstFault_of_asks asks
        · exact succeeds_or_firstFault_of_asks .explanation
        · exact succeeds_or_firstFault_of_check
    · exact Or.inr ⟨_, .unknownCommand needs help⟩

theorem run_eq (name : String) (arguments : List String) :
    run read decode (name :: arguments) = match outcome read decode name arguments with
      | .ok ending => ending
      | .error error => fail error :=
  rfl

theorem Succeeds.exists_cons (succeeds : Succeeds read decode arguments ending) :
    ∃ name rest, arguments = name :: rest := by
  cases arguments with
  | nil => cases succeeds with | report asks => cases asks
  | cons name rest => exact ⟨name, rest, rfl⟩

theorem FirstFault.exists_cons (fault : FirstFault read decode arguments error) :
    ∃ name rest, arguments = name :: rest := by
  cases arguments with
  | nil =>
      cases fault with
      | parameters asks _ => cases asks
      | configuration opens _ => cases opens with | report asks _ => cases asks
      | request asks _ _ _ => cases asks
  | cons name rest => exact ⟨name, rest, rfl⟩

theorem run_of_succeeds (succeeds : Succeeds read decode arguments ending) :
    run read decode arguments = ending := by
  rcases succeeds.exists_cons with ⟨name, rest, rfl⟩
  rw [run_eq, outcome_of_succeeds succeeds]

theorem run_of_firstFault (fault : FirstFault read decode arguments error) :
    run read decode arguments = fail error := by
  rcases fault.exists_cons with ⟨name, rest, rfl⟩
  rw [run_eq, outcome_of_firstFault fault]

theorem reportsOnly_of_firstFault (fault : FirstFault read decode arguments error) :
    ReportsOnly read decode arguments error := by
  have printed : error.Prints (fail error).messages := Error.prints_iff.2 rfl
  exact ⟨_, printed, run_of_firstFault fault⟩

theorem FirstFault.unique {other : Error} (fault : FirstFault read decode arguments error)
    (again : FirstFault read decode arguments other) : other = error := by
  rcases fault.exists_cons with ⟨name, rest, rfl⟩
  have same := outcome_of_firstFault again
  rw [outcome_of_firstFault fault, Except.error.injEq] at same
  exact same.symm

theorem Succeeds.status_eq (succeeds : Succeeds read decode arguments ending) :
    ending.status = 0 := by
  cases succeeds <;> rfl

theorem Succeeds.messages_eq (succeeds : Succeeds read decode (name :: arguments) ending)
    (needs : name ∈ ["eval", "explain", "check"]) : ending.messages = "" := by
  cases succeeds with
  | help asks =>
      simp only [List.mem_cons, List.not_mem_nil, or_false] at asks
      rcases asks with rfl | rfl | rfl <;> exact absurd needs (by decide)
  | report => rfl
  | check => rfl

theorem status_fail (error : Error) : (fail error).status = 1 :=
  rfl

theorem status_eq_zero_iff :
    (run read decode (name :: arguments)).status = 0 ↔
      ∃ ending, Succeeds read decode (name :: arguments) ending := by
  constructor
  · intro finished
    rcases succeeds_or_firstFault name arguments with succeeds | ⟨error, fault⟩
    · exact succeeds
    · rw [run_of_firstFault fault] at finished
      cases finished
  · rintro ⟨ending, succeeds⟩
    rw [run_of_succeeds succeeds, succeeds.status_eq]

theorem status_eq_one_iff :
    (run read decode (name :: arguments)).status = 1 ↔
      ∃ error, FirstFault read decode (name :: arguments) error := by
  constructor
  · intro failed
    rcases succeeds_or_firstFault name arguments with ⟨ending, succeeds⟩ | faulty
    · rw [run_of_succeeds succeeds, succeeds.status_eq] at failed
      cases failed
    · exact faulty
  · rintro ⟨error, fault⟩
    rw [run_of_firstFault fault, status_fail]

/-! ## What the program does on all arguments -/

theorem not_expected_json : ¬Expected "--json" :=
  (Unexpected.option (by decide) (by decide)).not_expected

theorem WellPlaced.json_not_mem (placed : WellPlaced arguments) : "--json" ∉ arguments := by
  rcases placed with rfl | ⟨rest, rfl, expected⟩
  · exact List.not_mem_nil
  · intro mem
    rcases List.mem_cons.1 mem with same | later
    · revert same
      decide
    · exact not_expected_json (expected _ later)

/-- How the program ends on some arguments, whatever the files hold. -/
structure EndsCleanly (read : String → Except ReadError String)
    (decode : Format → String → Except String Config) (arguments : List String) : Prop where
  status : (run read decode arguments).status = 0 ∨ (run read decode arguments).status = 1
  /-- A failure prints no part of a result. -/
  silent : (run read decode arguments).status = 1 → (run read decode arguments).output = ""
  quiet : ∀ name ∈ ["eval", "explain", "check"], arguments.head? = some name →
    (run read decode arguments).status = 0 → (run read decode arguments).messages = ""
  bare : arguments = [] → run read decode arguments = { status := 1, messages := usage }
  fails_iff : arguments ≠ [] →
    ((run read decode arguments).status = 1 ↔ ∃ error, FirstFault read decode arguments error)
  blames : ∀ error, FirstFault read decode arguments error →
    ReportsOnly read decode arguments error ∧
      ∀ other, FirstFault read decode arguments other → other = error
  prints : ∀ form path rest, Asks arguments form path rest →
    (run read decode arguments).status = 0 →
    ∃ params config lines, paramsOf rest = .ok params ∧ Holds read decode path config ∧
      form.report config params = .ok lines ∧
      run read decode arguments =
        { status := 0, output := String.join (lines.map fun line => line ++ "\n"), messages := "" }
  counts : ∀ path rest, arguments = "check" :: path :: rest →
    (run read decode arguments).status = 0 →
    ∃ config count, Holds read decode path config ∧ Report.ruleCount config = .ok count ∧
      run read decode arguments =
        { status := 0
          output := "Config valid (" ++ toString count ++ " rules)\n"
          messages := "" }
  /-- Anywhere but right after the file, the option for JSON is no parameter. -/
  misplaced : ∀ form path rest, Asks arguments form path rest → "--json" ∈ rest →
    ∃ error, FirstUnexpected rest error ∧ ReportsOnly read decode arguments error
  ignored : ∀ path rest, arguments = "check" :: path :: rest →
    run read decode arguments = run read decode ["check", path]

/-- Every command either prints its whole result and no message or nothing but the message of its
first fault. The option for JSON counts right after the file that `eval` is given, and nowhere
else. -/
theorem run_ends_cleanly (read : String → Except ReadError String)
    (decode : Format → String → Except String Config) (arguments : List String) :
    EndsCleanly read decode arguments where
  status := by
    rcases arguments with _ | ⟨name, rest⟩
    · exact Or.inr rfl
    · rw [status_eq_zero_iff, status_eq_one_iff]
      exact succeeds_or_firstFault name rest
  silent := by
    intro failed
    rcases arguments with _ | ⟨name, rest⟩
    · rfl
    · rcases status_eq_one_iff.1 failed with ⟨error, fault⟩
      rw [run_of_firstFault fault]
      rfl
  quiet := by
    intro name needs head finished
    rcases List.head?_eq_some_iff.1 head with ⟨rest, rfl⟩
    rcases status_eq_zero_iff.1 finished with ⟨ending, succeeds⟩
    rw [run_of_succeeds succeeds, succeeds.messages_eq needs]
  bare := by
    rintro rfl
    rfl
  fails_iff := by
    intro nonempty
    rcases List.exists_cons_of_ne_nil nonempty with ⟨name, rest, rfl⟩
    exact status_eq_one_iff
  blames := fun _ fault => ⟨reportsOnly_of_firstFault fault, fun _ again => fault.unique again⟩
  prints := by
    intro form path rest asks finished
    rcases made_or_firstFault asks with
      ⟨params, config, lines, parsed, holds, made⟩ | ⟨error, fault⟩
    · exact ⟨params, config, lines, parsed, holds, made,
        run_of_succeeds (.report asks parsed holds made)⟩
    · rw [run_of_firstFault fault] at finished
      cases finished
  counts := by
    rintro path rest rfl finished
    rcases @made_or_firstFault_of_check read decode path rest with
      ⟨config, count, holds, counted⟩ | ⟨error, fault⟩
    · refine ⟨config, count, holds, counted, ?_⟩
      rw [run_of_succeeds (.check holds counted), Text.Integer.writeNat_eq_toString]
      simp [Text.lines, String.append_assoc]
    · rw [run_of_firstFault fault] at finished
      cases finished
  misplaced := by
    intro form path rest asks mem
    rcases wellPlaced_or_firstUnexpected rest with placed | ⟨error, unexpected⟩
    · exact absurd mem placed.json_not_mem
    · exact ⟨error, unexpected, reportsOnly_of_firstFault (.parameters asks unexpected)⟩
  ignored := by
    rintro path rest rfl
    rw [run_eq, run_eq, outcome_check, outcome_check]

/-- The check reports a bound without a look at the option after the file, `eval` reports an option
that stands too late, and a text that is no configuration is reported in the words of the
decoder. -/
theorem run_ends_cleanly_of_rows :
    run (fun _ => .ok "") (fun _ _ => .ok { rules := ["start=1", "rows=5:5 >many:1"] })
        ["check", "c.yaml", "--json"] =
      { status := 1
        messages :=
          "error: config invalid: threshold \"many\" for param rows is not an integer\n" } ∧
    (∃ error, FirstUnexpected ["--param", "--json"] error ∧
      ReportsOnly (fun _ => .ok "") (fun _ _ => .ok {}) ["eval", "c.yaml", "--param", "--json"]
        error) ∧
    run (fun _ => .ok "]") (fun _ _ => .error "expected value at line 1 column 1")
        ["explain", "c.JSON"] =
      { status := 1
        messages := "error: JSON parse error: expected value at line 1 column 1\n" } := by
  refine ⟨?_, ?_, ?_⟩
  · have expected : fail (.invalidBound "rows" "many") =
        { status := 1
          messages :=
            "error: config invalid: threshold \"many\" for param rows is not an integer\n" } :=
      rfl
    let config : Config := { rules := ["start=1", "rows=5:5 >many:1"] }
    have holds : Holds (fun _ => .ok "") (fun _ _ => .ok config) "c.yaml" config :=
      ⟨"", rfl, rfl⟩
    have fault : Report.Fault config (.invalidBound "rows" "many") :=
      Report.ruleCount_eq_error_iff.1 (by cbv)
    rcases ((run_ends_cleanly _ _ _).blames _ (.rules holds fault)).1 with ⟨text, prints, ended⟩
    exact ended.trans ((Error.prints_iff.1 prints).symm.trans expected)
  · have asks : Asks ["eval", "c.yaml", "--param", "--json"] .effective "c.yaml"
        ["--param", "--json"] := .effective (by decide)
    exact (run_ends_cleanly _ _ _).misplaced _ _ _ asks (by decide)
  · have expected : fail (.undecodable .json "expected value at line 1 column 1") =
        { status := 1
          messages := "error: JSON parse error: expected value at line 1 column 1\n" } :=
      rfl
    have unloadable : Unloadable (fun _ => .ok "]")
        (fun _ _ => .error "expected value at line 1 column 1") "c.JSON"
        (.undecodable .json "expected value at line 1 column 1") :=
      .undecodable rfl rfl
    have opens : Opens ["explain", "c.JSON"] "c.JSON" := .report .explanation (Or.inl rfl)
    rcases ((run_ends_cleanly _ _ _).blames _ (.configuration opens unloadable)).1 with
      ⟨text, prints, ended⟩
    exact ended.trans ((Error.prints_iff.1 prints).symm.trans expected)

/-- A bad pair is reported whatever the file holds, and even if there is none. -/
example : run read decode ["eval", "c.yaml", "--param", "rows"] = fail (.invalidPair "rows") :=
  rfl

end ParamRules.CommandLine
