import ParamRules.Proofs.CommandLine.Arguments
import ParamRules.Proofs.CommandLine.Reporting
import ParamRules.Proofs.Request.Building

/-!
# The printed parameters are parameters again

No name in a view holds a `=`: the names of a request stand before the first `=` of an argument, and
those of an overlay before the first `=` of a rule. So each line that shows a value of a name is cut
into the name and the value again, and the lines, taken as arguments after `--param`, bring every
name and its values back (`effective_lines_are_parameters`). Only a line that looks like an option
is refused.
-/

namespace ParamRules

open Grammar

namespace CommandLine

open Report (viewLines)

variable {arguments : List String} {params : Params}

theorem plain_of_paramsOf {name : String} (parsed : paramsOf arguments = .ok params)
    (mem : name ∈ (Source.request params).names) : '=' ∉ name.toList := by
  rcases paramsOf_eq_ok_iff.1 parsed with ⟨_, rfl⟩
  rw [Source.mem_names_iff_all?, Source.getD_all?_request, Params.valuesOf_ofList] at mem
  rcases List.exists_mem_of_ne_nil _ mem with ⟨value, paired⟩
  rcases List.mem_map.1 paired with ⟨⟨other, _⟩, pairMem, rfl⟩
  rcases List.mem_filter.1 pairMem with ⟨cutMem, same⟩
  rcases List.mem_filterMap.1 cutMem with ⟨argument, _, cut⟩
  rw [← of_decide_eq_true same]
  exact (about_iff.2 cut).plain

theorem plain_of_mem_view {config : Config} {answer : Sanitized} {name : String}
    (parsed : paramsOf arguments = .ok params)
    (answered : (config.sanitize (.request params)).result = .ok answer)
    (mem : name ∈ answer.view.names) : '=' ∉ name.toList := by
  rw [Sanitized.view, Config.request_eq_of_answered answered, Report.mem_names_view_iff] at mem
  rcases mem with ⟨value, replaced⟩ | present
  · exact Config.plain_of_replaced answered replaced
  · exact plain_of_paramsOf parsed (SortedMap.mem_keys_iff.2 present)

/-! ## From lines back to pairs -/

/-- The pairs that the lines of a view show. -/
def viewPairs (view : Source) : List (String × String) :=
  (view.names.mergeSort fun left right => decide (left ≤ right)).flatMap fun name =>
    ((view.all? name).getD []).map fun value => (name, value)

theorem filterMap_viewLines {view : Source} (plain : ∀ name ∈ view.names, '=' ∉ name.toList) :
    (viewLines view).filterMap (Text.cut? '=') = viewPairs view := by
  rw [viewLines, List.filterMap_flatMap, viewPairs]
  apply List.flatMap_congr
  intro name mem
  have cuts : ∀ value, Text.cut? '=' (name ++ "=" ++ value) = some (name, value) := by
    intro value
    exact about_iff.1 ⟨rfl, plain name (List.mem_mergeSort.1 mem)⟩
  simp only [List.filterMap_map, Function.comp_def, cuts, List.filterMap_eq_map']

theorem expected_line_iff {view : Source} {line : String} (mem : line ∈ viewLines view) :
    Expected line ↔ ¬"--".toList <+: line.toList := by
  have paired : '=' ∈ line.toList := by
    rcases List.mem_flatMap.1 mem with ⟨name, _, lineMem⟩
    rcases List.mem_map.1 lineMem with ⟨value, _, rfl⟩
    simp
  constructor
  · rintro (rfl | ⟨noDashes, _⟩)
    · revert paired
      decide
    · exact noDashes
  · intro noDashes
    exact Or.inr ⟨noDashes, paired⟩

theorem exists_paramsOf_viewLines_iff (view : Source) :
    (∃ back, paramsOf ("--param" :: viewLines view) = .ok back) ↔
      ∀ line ∈ viewLines view, ¬"--".toList <+: line.toList := by
  constructor
  · rintro ⟨back, parsed⟩ line mem
    rcases (paramsOf_eq_ok_iff.1 parsed).1 with shape | ⟨rest, shape, expected⟩
    · cases shape
    · cases shape
      exact (expected_line_iff mem).1 (expected line mem)
  · intro noDashes
    refine ⟨_, paramsOf_of_wellPlaced (Or.inr ⟨_, rfl, fun line mem => ?_⟩)⟩
    exact (expected_line_iff mem).2 (noDashes line mem)

/-- The pairs of a view give all its values back. -/
theorem all?_request_viewPairs (view : Source) (name : String) :
    (Source.request (.ofList (viewPairs view))).all? name = view.all? name := by
  have distinct : (view.names.mergeSort fun left right => decide (left ≤ right)).Nodup :=
    (List.mergeSort_perm _ _).nodup_iff.2 view.nodup_names
  have values : ((Source.request (.ofList (viewPairs view))).all? name).getD [] =
      (view.all? name).getD [] := by
    rw [Source.getD_all?_request, Params.valuesOf_ofList, viewPairs, Params.paired_flatMap distinct]
    simp only [List.mem_mergeSort, Source.mem_names_iff_all?]
    -- A name that the view does not know has no pairs and no values.
    by_cases empty : (view.all? name).getD [] = []
    · rw [if_neg (not_not_intro empty), empty]
    · rw [if_pos empty]
  rw [Source.all?_eq_ite_getD, values, ← Source.all?_eq_ite_getD]

theorem names_request_viewPairs (view : Source) :
    (Source.request (.ofList (viewPairs view))).names =
      view.names.mergeSort fun left right => decide (left ≤ right) := by
  have increasing : (Source.request (.ofList (viewPairs view))).names.Pairwise (· < ·) :=
    List.pairwise_map.2 (Params.ofList (viewPairs view)).values.increasing
  apply increasing.eq_of_mem_iff (SortedMap.increasing_mergeSort view.nodup_names)
  intro name
  rw [List.mem_mergeSort, Source.mem_names_iff_all?, Source.mem_names_iff_all?,
    all?_request_viewPairs]

/-- The lines that show the parameters to go on with are arguments that give these parameters back,
names in order and values in order, unless one of the lines looks like an option. -/
theorem effective_lines_are_parameters {config : Config} {lines : List String}
    (parsed : paramsOf arguments = .ok params)
    (printed : Report.effective config params = .ok lines) :
    ∃ answer, (config.sanitize (.request params)).result = .ok answer ∧
      ((∃ back, paramsOf ("--param" :: lines) = .ok back) ↔
        ∀ line ∈ lines, ¬"--".toList <+: line.toList) ∧
      ∀ back, paramsOf ("--param" :: lines) = .ok back →
        (Source.request back).names =
            answer.view.names.mergeSort (fun left right => decide (left ≤ right)) ∧
          ∀ name, (Source.request back).all? name = answer.view.all? name := by
  rcases Run.ok_or_error (config.sanitize (.request params)) with
    ⟨answer, answered⟩ | ⟨failure, refused⟩
  · rw [Report.effective_of_answered answered, Except.ok.injEq] at printed
    subst printed
    refine ⟨answer, answered, exists_paramsOf_viewLines_iff answer.view, fun back parsedBack => ?_⟩
    have uncut : Text.cut? '=' "--param" = none := Text.cut?_eq_none_iff.2 (by decide)
    have plain : ∀ name ∈ answer.view.names, '=' ∉ name.toList :=
      fun _ mem => plain_of_mem_view parsed answered mem
    rcases paramsOf_eq_ok_iff.1 parsedBack with ⟨_, rfl⟩
    rw [List.filterMap_cons_none uncut, filterMap_viewLines plain]
    exact ⟨names_request_viewPairs answer.view, all?_request_viewPairs answer.view⟩
  · rw [Report.effective_eq_map, refused] at printed
    cases printed

/-- A configured rule for a parameter that looks like an option gives a line that is refused; other
lines bring all values back, also those that hold a `=`. -/
theorem effective_lines_are_parameters_of_rows :
    (∃ answer,
      (Config.sanitize { rules := ["rows=>100:100"] } (.request (.ofList
        [("rows", "500"), ("fq", "b=1"), ("fq", "a")]))).result = .ok answer ∧
      ((∃ back, paramsOf ["--param", "fq=b=1", "fq=a", "rows=100"] = .ok back) ↔
        ∀ line ∈ ["fq=b=1", "fq=a", "rows=100"], ¬"--".toList <+: line.toList) ∧
      ∀ back, paramsOf ["--param", "fq=b=1", "fq=a", "rows=100"] = .ok back →
        (Source.request back).names =
            answer.view.names.mergeSort (fun left right => decide (left ≤ right)) ∧
          ∀ name, (Source.request back).all? name = answer.view.all? name) ∧
    ¬∃ back, paramsOf ["--param", "--x=5"] = .ok back := by
  constructor
  · have parsed : paramsOf ["--param", "rows=500", "fq=b=1", "--param", "fq=a"] =
        .ok (.ofList [("rows", "500"), ("fq", "b=1"), ("fq", "a")]) := by cbv
    have printed : Report.effective { rules := ["rows=>100:100"] }
        (.ofList [("rows", "500"), ("fq", "b=1"), ("fq", "a")]) =
        .ok ["fq=b=1", "fq=a", "rows=100"] := by cbv
    exact effective_lines_are_parameters parsed printed
  · have parsed : paramsOf [] = .ok ∅ := rfl
    have printed : Report.effective { rules := ["--x=5"] } ∅ = .ok ["--x=5"] := by cbv
    rcases effective_lines_are_parameters parsed printed with ⟨_, _, accepted, _⟩
    rw [accepted]
    decide

end CommandLine

end ParamRules
