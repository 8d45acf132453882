import Mathlib
import ParamRules.Fixture.Directory
import ParamRules.Proofs.Attempt
import ParamRules.Proofs.Occurrence
import ParamRules.Proofs.Run
import ParamRules.Proofs.SortedMap
import ParamRules.Proofs.Text.Bytes
import ParamRules.Proofs.Wording

/-!
# Loading the fixtures of a directory

The fixture files of a directory are told by their names alone (`IsFixtureName`). They are loaded in
order of name, and the order has no ties, so it does not matter in which order the directory lists
its entries (`eq_filesOf`). `Loads` says what comes of it: all fixtures of all these files, or the
error of the first of them that cannot be loaded. Every error is the error of one file and names it
(`LoadsFile`).

Nothing is assumed about how files are read, how a text is cut into documents and what a document
is. Names are any bytes.
-/

namespace ParamRules

/-! ## Extensions -/

namespace FileName

variable {α : Type} [BEq α] [LawfulBEq α] {dot : α} {name extension : List α}

theorem extension?_append (free : dot ∉ extension) (stem : List α) :
    extension? dot (stem ++ dot :: extension) = if stem = [] then none else some extension := by
  have pieces : (stem ++ dot :: extension).splitOn dot = stem.splitOn dot ++ [extension] := by
    rw [List.splitOn_append_cons_self, List.splitOn_eq_singleton free]
  have hidden_iff : stem.splitOn dot = [[]] ↔ stem = [] := by
    constructor
    · intro hidden
      have joined := @List.intercalate_splitOn _ stem _ _ dot
      rw [hidden, List.intercalate_singleton] at joined
      exact joined.symm
    · rintro rfl
      exact List.splitOn_nil dot
  rw [extension?, pieces, List.reverse_append]
  by_cases empty : stem = []
  · simp [empty]
  · have notHidden : stem.splitOn dot ≠ [[]] := fun hidden => empty (hidden_iff.1 hidden)
    simp [empty, notHidden, List.splitOn_ne_nil]

/-- An extension stands behind the last dot of a name, and that dot is not the first character. -/
theorem extension?_eq_some_iff :
    extension? dot name = some extension ↔
      ∃ stem, stem ≠ [] ∧ dot ∉ extension ∧ name = stem ++ dot :: extension := by
  constructor
  · intro found
    by_cases mem : dot ∈ name
    · -- The last dot of the name is the first one from behind.
      rcases List.eq_append_cons_of_mem (List.mem_reverse.2 mem) with ⟨after, before, shape, free⟩
      have behind : dot ∉ after.reverse := by simpa using free
      have whole : name = before.reverse ++ dot :: after.reverse := by
        rw [← List.reverse_reverse name, shape]
        simp
      rw [whole, extension?_append behind, Option.ite_none_left_eq_some] at found
      rcases found with ⟨nonempty, same⟩
      cases same
      exact ⟨_, nonempty, behind, whole⟩
    · simp [extension?, List.splitOn_eq_singleton mem] at found
  · rintro ⟨stem, nonempty, free, rfl⟩
    rw [extension?_append free, if_neg nonempty]

end FileName

namespace Fixture

/-- A name before whose extension `yaml` or `yml` something else stands. -/
def IsFixtureName (name : Path) : Prop :=
  ∃ stem, stem ≠ [] ∧ (name = stem ++ Text.bytes ".yaml" ∨ name = stem ++ Text.bytes ".yml")

theorem isFixtureFile_iff {name : Path} : isFixtureFile name = true ↔ IsFixtureName name := by
  have yaml : '.'.toUInt8 ∉ Text.bytes "yaml" ∧
      Text.bytes ".yaml" = '.'.toUInt8 :: Text.bytes "yaml" := by decide
  have yml : '.'.toUInt8 ∉ Text.bytes "yml" ∧
      Text.bytes ".yml" = '.'.toUInt8 :: Text.bytes "yml" := by decide
  simp only [isFixtureFile, Bool.or_eq_true, beq_iff_eq, FileName.extension?_eq_some_iff,
    IsFixtureName, yaml, yml, not_false_eq_true, true_and, ← exists_or, ← and_or_left]

instance : DecidablePred IsFixtureName := fun _ => decidable_of_iff _ isFixtureFile_iff

section

variable {Document : Type} {read : Path → Except ReadError String}
  {documents : String → List Document} {decode : Document → Except String Fixture}
  {directory : Path} {names : List Path}

/-! ## One file -/

/-- What loading one file comes to: the fixtures of all its documents in order, or what is wrong
with the file or with its first document that is no fixture. -/
inductive LoadsFile (read : Path → Except ReadError String) (documents : String → List Document)
    (decode : Document → Except String Fixture) (path : Path) :
    Except LoadError (List Fixture) → Prop where
  | fixtures {text : String} {fixtures : List Fixture} (readable : read path = .ok text)
      (decoded : List.Forall₂ (fun document fixture => decode document = .ok fixture)
        (documents text) fixtures) : LoadsFile read documents decode path (.ok fixtures)
  | unreadable {cause : ReadError} (fails : read path = .error cause) :
      LoadsFile read documents decode path (.error (.unreadable path cause))
  | malformed {text cause : String} {before after : List Document} {document : Document}
      (readable : read path = .ok text) (shape : documents text = before ++ document :: after)
      (decoded : ∀ earlier ∈ before, ∃ fixture, decode earlier = .ok fixture)
      (fails : decode document = .error cause) :
      LoadsFile read documents decode path (.error (.malformed path cause))

theorem loadFile_of_unreadable {path : Path} {cause : ReadError}
    (fails : read path = .error cause) :
    loadFile read documents decode path = .error (.unreadable path cause) := by
  rw [loadFile, fails]
  rfl

theorem loadFile_of_readable {path : Path} {text : String} (readable : read path = .ok text) :
    loadFile read documents decode path =
      ((documents text).mapM decode).mapError (.malformed path) := by
  rw [loadFile, readable]
  rfl

theorem loadFile_eq_iff {path : Path} {result : Except LoadError (List Fixture)} :
    loadFile read documents decode path = result ↔
      LoadsFile read documents decode path result := by
  constructor
  · rintro rfl
    cases readable : read path with
    | error cause =>
        rw [loadFile_of_unreadable readable]
        exact .unreadable readable
    | ok text =>
        rw [loadFile_of_readable readable]
        cases decoded : (documents text).mapM decode with
        | ok fixtures => exact .fixtures readable (Attempt.mapM_eq_ok_iff.1 decoded)
        | error cause =>
            rcases Attempt.mapM_eq_error_iff.1 decoded with
              ⟨before, document, after, shape, earlier, fails⟩
            exact .malformed readable shape earlier fails
  · rintro (⟨readable, decoded⟩ | fails | ⟨readable, shape, earlier, fails⟩)
    · rw [loadFile_of_readable readable, Attempt.mapM_eq_ok_iff.2 decoded]
      rfl
    · exact loadFile_of_unreadable fails
    · rw [loadFile_of_readable readable,
        Attempt.mapM_eq_error_iff.2 ⟨_, _, _, shape, earlier, fails⟩]
      rfl

/-! ## All files of a directory -/

/-- What loading the fixtures of a directory comes to: all fixtures of all fixture files, in order
of name, or the error of the first of those files that has one. -/
inductive Loads (read : Path → Except ReadError String) (documents : String → List Document)
    (decode : Document → Except String Fixture) (directory : Path) :
    Except ReadError (List Path) → Except LoadError (List Fixture) → Prop where
  | unlisted {cause : ReadError} :
      Loads read documents decode directory (.error cause) (.error (.unreadable directory cause))
  | loaded {names files : List Path} {contents : List (List Fixture)}
      (listed : files.Perm (names.filter IsFixtureName)) (ordered : files.Pairwise (· ≤ ·))
      (load : List.Forall₂ (fun name fixtures =>
        LoadsFile read documents decode (FileName.join directory name) (.ok fixtures))
          files contents) :
      Loads read documents decode directory (.ok names) (.ok contents.flatten)
  | failed {names : List Path} {name : Path} {error : LoadError} (listed : name ∈ names)
      (isFixture : IsFixtureName name)
      (fails : LoadsFile read documents decode (FileName.join directory name) (.error error))
      (least : ∀ other ∈ names, IsFixtureName other → other < name →
        ∃ fixtures,
          LoadsFile read documents decode (FileName.join directory other) (.ok fixtures)) :
      Loads read documents decode directory (.ok names) (.error error)

/-- The fixture files among some names in the order in which they are loaded. -/
def filesOf (names : List Path) : List Path :=
  (names.filter isFixtureFile).mergeSort fun left right => decide (left ≤ right)

theorem filesOf_perm (names : List Path) : (filesOf names).Perm (names.filter IsFixtureName) := by
  have same : names.filter IsFixtureName = names.filter isFixtureFile := by
    simp only [← isFixtureFile_iff, Bool.decide_eq_true]
  rw [same]
  exact List.mergeSort_perm _ _

theorem mem_filesOf_iff {name : Path} :
    name ∈ filesOf names ↔ name ∈ names ∧ IsFixtureName name := by
  rw [(filesOf_perm names).mem_iff, List.mem_filter, decide_eq_true_eq]

theorem ordered_filesOf (names : List Path) : (filesOf names).Pairwise (· ≤ ·) :=
  SortedMap.pairwise_mergeSort _

/-- There is only one order of names. -/
theorem eq_filesOf {files : List Path} (listed : files.Perm (names.filter IsFixtureName))
    (ordered : files.Pairwise (· ≤ ·)) : files = filesOf names := by
  have permuted : files.Perm (filesOf names) := listed.trans (filesOf_perm names).symm
  refine permuted.eq_of_pairwise ?_ ordered (ordered_filesOf names)
  intro left right _ _ le ge
  exact Std.le_antisymm le ge

/-- A file with a lesser name is loaded earlier. -/
theorem mem_before_of_lt {before after : List Path} {name other : Path}
    (shape : filesOf names = before ++ name :: after) (mem : other ∈ filesOf names)
    (less : other < name) : other ∈ before := by
  have ordered := ordered_filesOf names
  rw [shape, List.pairwise_append, List.pairwise_cons] at ordered
  rw [shape, List.mem_append, List.mem_cons] at mem
  rcases mem with earlier | rfl | later
  · exact earlier
  · exact absurd less (List.lt_irrefl _)
  · exact absurd less (List.not_lt.2 (ordered.2.1.1 other later))

theorem lt_of_mem_before {before after : List Path} {name other : Path}
    (shape : filesOf names = before ++ name :: after) (fresh : name ∉ before)
    (earlier : other ∈ before) : other < name := by
  have ordered := ordered_filesOf names
  rw [shape, List.pairwise_append] at ordered
  have different : other ≠ name := by
    rintro rfl
    exact fresh earlier
  exact Std.lt_of_le_of_ne (ordered.2.2 other earlier name (by simp)) different

theorem loadDirectory_eq (names : List Path) :
    loadDirectory read documents decode directory names =
      ((filesOf names).mapM fun name =>
        loadFile read documents decode (FileName.join directory name)).map List.flatten := by
  rw [loadDirectory, ← filesOf]
  cases (filesOf names).mapM fun name =>
    loadFile read documents decode (FileName.join directory name) <;> rfl

theorem loadDirectory_eq_ok_iff {fixtures : List Fixture} :
    loadDirectory read documents decode directory names = .ok fixtures ↔
      ∃ contents, List.Forall₂ (fun name fixtures =>
        LoadsFile read documents decode (FileName.join directory name) (.ok fixtures))
          (filesOf names) contents ∧ contents.flatten = fixtures := by
  rw [loadDirectory_eq, Run.map_eq_ok_iff]
  simp only [Attempt.mapM_eq_ok_iff, loadFile_eq_iff]

theorem loadDirectory_eq_error_iff {error : LoadError} :
    loadDirectory read documents decode directory names = .error error ↔
      ∃ name ∈ names, IsFixtureName name ∧
        LoadsFile read documents decode (FileName.join directory name) (.error error) ∧
        ∀ other ∈ names, IsFixtureName other → other < name →
          ∃ fixtures,
            LoadsFile read documents decode (FileName.join directory other) (.ok fixtures) := by
  simp only [loadDirectory_eq, Run.map_eq_error_iff, Attempt.mapM_eq_error_iff, loadFile_eq_iff]
  constructor
  · rintro ⟨before, name, after, shape, loaded, fails⟩
    have mem : name ∈ filesOf names := by simp [shape]
    rcases mem_filesOf_iff.1 mem with ⟨listed, isFixture⟩
    refine ⟨name, listed, isFixture, fails, fun other otherListed otherFixture less => ?_⟩
    have otherMem := mem_filesOf_iff.2 ⟨otherListed, otherFixture⟩
    exact loaded other (mem_before_of_lt shape otherMem less)
  · rintro ⟨name, listed, isFixture, fails, least⟩
    rcases List.eq_append_cons_of_mem (mem_filesOf_iff.2 ⟨listed, isFixture⟩) with
      ⟨before, after, shape, fresh⟩
    refine ⟨before, name, after, shape, fun other earlier => ?_, fails⟩
    have otherMem : other ∈ filesOf names := by simp [shape, earlier]
    rcases mem_filesOf_iff.1 otherMem with ⟨otherListed, otherFixture⟩
    exact least other otherListed otherFixture (lt_of_mem_before shape fresh earlier)

theorem load_of_unlisted {list : Path → Except ReadError (List Path)} {cause : ReadError}
    (fails : list directory = .error cause) :
    load read documents decode list directory = .error (.unreadable directory cause) := by
  rw [load, fails]
  rfl

theorem load_of_listed {list : Path → Except ReadError (List Path)}
    (listed : list directory = .ok names) :
    load read documents decode list directory =
      loadDirectory read documents decode directory names := by
  rw [load, listed]
  rfl

theorem load_eq_iff {list : Path → Except ReadError (List Path)}
    {result : Except LoadError (List Fixture)} :
    load read documents decode list directory = result ↔
      Loads read documents decode directory (list directory) result := by
  cases listed : list directory with
  | error cause =>
      rw [load_of_unlisted listed]
      constructor
      · rintro rfl
        exact .unlisted
      · rintro ⟨⟩
        rfl
  | ok names =>
      rw [load_of_listed listed]
      constructor
      · intro loads
        cases result with
        | ok fixtures =>
            rcases loadDirectory_eq_ok_iff.1 loads with ⟨contents, held, rfl⟩
            exact .loaded (filesOf_perm names) (ordered_filesOf names) held
        | error error =>
            rcases loadDirectory_eq_error_iff.1 loads with ⟨name, listed, isFixture, fails, least⟩
            exact .failed listed isFixture fails least
      · rintro (_ | ⟨listed, ordered, held⟩ | ⟨listed, isFixture, fails, least⟩)
        · rw [eq_filesOf listed ordered] at held
          exact loadDirectory_eq_ok_iff.2 ⟨_, held, rfl⟩
        · exact loadDirectory_eq_error_iff.2 ⟨_, listed, isFixture, fails, least⟩

/-- Only the fixture files of a directory count, in any order, and what reading them gives. -/
theorem load_congr {otherRead : Path → Except ReadError String} {others : List Path}
    (sameFiles : (names.filter IsFixtureName).Perm (others.filter IsFixtureName))
    (sameContents : ∀ name ∈ names, IsFixtureName name →
      read (FileName.join directory name) = otherRead (FileName.join directory name)) :
    load read documents decode (fun _ => .ok names) directory =
      load otherRead documents decode (fun _ => .ok others) directory := by
  have same : filesOf names = filesOf others :=
    eq_filesOf ((filesOf_perm names).trans sameFiles) (ordered_filesOf names)
  rw [load_of_listed rfl, load_of_listed rfl, loadDirectory_eq, loadDirectory_eq, ← same]
  congr 1
  apply Attempt.mapM_congr
  intro name mem
  rcases mem_filesOf_iff.1 mem with ⟨listed, isFixture⟩
  rw [loadFile, loadFile, sameContents name listed isFixture]

theorem exists_load_iff :
    (∃ fixtures, load read documents decode (fun _ => .ok names) directory = .ok fixtures) ↔
      ∀ name ∈ names, IsFixtureName name →
        ∃ fixtures,
          LoadsFile read documents decode (FileName.join directory name) (.ok fixtures) := by
  have listed : load read documents decode (fun _ => .ok names) directory =
      loadDirectory read documents decode directory names := load_of_listed rfl
  rw [listed]
  constructor
  · rintro ⟨_, loads⟩ name listed isFixture
    rcases loadDirectory_eq_ok_iff.1 loads with ⟨contents, held, rfl⟩
    rcases List.append_of_mem (mem_filesOf_iff.2 ⟨listed, isFixture⟩) with ⟨before, after, shape⟩
    rw [shape] at held
    rcases Occurrence.forall₂_append_cons_left held with ⟨_, fixtures, _, _, _, here, _⟩
    exact ⟨fixtures, here⟩
  · intro all
    cases loads : loadDirectory read documents decode directory names with
    | ok fixtures => exact ⟨fixtures, rfl⟩
    | error error =>
        rcases loadDirectory_eq_error_iff.1 loads with ⟨name, listed, isFixture, fails, _⟩
        rcases all name listed isFixture with ⟨fixtures, held⟩
        rw [← loadFile_eq_iff] at fails held
        rw [held] at fails
        cases fails

end

/-- Loading a directory takes the files with one of the two extensions and nothing else of it. It
gives the fixtures of all of them in order of name and of document, or none and the error of the
first file in that order that has one, which names the file. The order in which the directory lists
its entries does not matter. -/
theorem fixtures_load_all_or_nothing :
    (∀ name, isFixtureFile name = true ↔ IsFixtureName name) ∧
    (∀ error : LoadError, error.Tells error.message) ∧
    (∀ name : String, Text.ofBytes (Text.bytes name) = name) ∧
    ∀ (Document : Type) (read : Path → Except ReadError String)
      (documents : String → List Document) (decode : Document → Except String Fixture)
      (directory : Path),
      (∀ list result, load read documents decode list directory = result ↔
        Loads read documents decode directory (list directory) result) ∧
      (∀ names,
        (∃ fixtures, load read documents decode (fun _ => .ok names) directory = .ok fixtures) ↔
          ∀ name ∈ names, IsFixtureName name → ∃ fixtures,
            LoadsFile read documents decode (FileName.join directory name) (.ok fixtures)) ∧
      (∀ names others, names.Perm others →
        load read documents decode (fun _ => .ok names) directory =
          load read documents decode (fun _ => .ok others) directory) ∧
      ∀ otherRead names others,
        (names.filter IsFixtureName).Perm (others.filter IsFixtureName) →
        (∀ name ∈ names, IsFixtureName name →
          read (FileName.join directory name) = otherRead (FileName.join directory name)) →
        load read documents decode (fun _ => .ok names) directory =
          load otherRead documents decode (fun _ => .ok others) directory := by
  refine ⟨fun _ => isFixtureFile_iff, LoadError.tells_message, Text.ofBytes_bytes, ?_⟩
  intro Document read documents decode directory
  refine ⟨fun _ _ => load_eq_iff, fun _ => exists_load_iff, ?_, ?_⟩
  · intro names others permuted
    exact load_congr (permuted.filter _) fun _ _ _ => rfl
  · intro otherRead names others sameFiles sameContents
    exact load_congr sameFiles sameContents

/-- A directory with two sound files, one with a document that is no fixture and nothing else that
can be read. -/
def shelf (path : Path) : Except ReadError String :=
  if path = Text.bytes "rules/a.yaml" then .ok "a;c"
  else if path = Text.bytes "rules/b.yml" then .ok "b"
  else if path = Text.bytes "rules/d.yaml" then .ok "d;]"
  else .error .notFound

/-- The fixture that has a document as its name. -/
def named (document : String) : Except String Fixture :=
  if document = "]" then .error "did not find expected node content"
  else .ok { name := document, rules := [] }

/-- Fixtures come in order of file and document, and hidden files do not count. A name that is no
text counts; it is greater than the name of the file that is reported. -/
theorem fixtures_load_all_or_nothing_of_rows :
    load shelf (Text.split ';') named
        (fun _ => .ok (["b.yml", ".yaml", "a.yaml", "A.YAML"].map Text.bytes))
        (Text.bytes "rules") =
      .ok [⟨"a", "", [], false, []⟩, ⟨"c", "", [], false, []⟩, ⟨"b", "", [], false, []⟩] ∧
    load shelf (Text.split ';') named
        (fun _ => .ok [0xff :: Text.bytes ".yml", Text.bytes "d.yaml", Text.bytes "a.yaml"])
        (Text.bytes "rules") =
      .error (.malformed (Text.bytes "rules/d.yaml") "did not find expected node content") ∧
    load shelf (Text.split ';') named (fun _ => .ok (["a.yaml", "b.yml"].map Text.bytes))
        (Text.bytes "rules") =
      load shelf (Text.split ';') named (fun _ => .ok (["b.yml", "a.yaml"].map Text.bytes))
        (Text.bytes "rules") := by
  rcases fixtures_load_all_or_nothing with ⟨recognised, _, _, loads⟩
  rcases loads _ shelf (Text.split ';') named (Text.bytes "rules") with ⟨meets, _, anyOrder, _⟩
  have readFirst : shelf (Text.bytes "rules/a.yaml") = .ok "a;c" := rfl
  have first : LoadsFile shelf (Text.split ';') named
      (FileName.join (Text.bytes "rules") (Text.bytes "a.yaml"))
      (.ok [⟨"a", "", [], false, []⟩, ⟨"c", "", [], false, []⟩]) :=
    .fixtures readFirst (.cons rfl (.cons rfl .nil))
  refine ⟨?_, ?_, anyOrder _ _ (.swap _ _ _)⟩
  · have readSecond : shelf (Text.bytes "rules/b.yml") = .ok "b" := rfl
    have second : LoadsFile shelf (Text.split ';') named
        (FileName.join (Text.bytes "rules") (Text.bytes "b.yml"))
        (.ok [⟨"b", "", [], false, []⟩]) :=
      .fixtures readSecond (.cons rfl .nil)
    have listed : (["a.yaml", "b.yml"].map Text.bytes).Perm
        ((["b.yml", ".yaml", "a.yaml", "A.YAML"].map Text.bytes).filter IsFixtureName) := by
      decide
    have ordered : (["a.yaml", "b.yml"].map Text.bytes).Pairwise (· ≤ ·) := by decide
    rw [meets]
    exact .loaded listed ordered (.cons first (.cons second .nil))
  · have readable : shelf (Text.bytes "rules/d.yaml") = .ok "d;]" := rfl
    have shape : Text.split ';' "d;]" = ["d"] ++ "]" :: [] := rfl
    have isFixture : IsFixtureName (Text.bytes "d.yaml") := (recognised _).1 (by decide)
    have fails : LoadsFile shelf (Text.split ';') named
        (FileName.join (Text.bytes "rules") (Text.bytes "d.yaml"))
        (.error (.malformed (Text.bytes "rules/d.yaml") "did not find expected node content")) :=
      .malformed readable shape (by simp [named]) rfl
    rw [meets]
    refine .failed (by simp) isFixture fails fun other mem _ less => ?_
    simp only [List.mem_cons, List.not_mem_nil, or_false] at mem
    rcases mem with rfl | rfl | rfl
    · exact absurd less (by decide)
    · exact absurd less (List.lt_irrefl _)
    · exact ⟨_, first⟩

end Fixture

end ParamRules
