import FilterQuery.Command
import FilterQuery.Proofs.Json.Values
import FilterQuery.Proofs.Predicate.Trace

/-!
# How the command ends

* `Command.ofArguments?_arguments` : each command can be asked for;
* `Command.FailsWith` : what goes wrong at each stage of the work, whatever goes wrong at others, and
  `CommandFailure.stage`, the order of the stages;
* `Json.IsLineOf` : a text on one line that is read as a value;
* `Command.Prints` : the output of a command that ends well;
* `Command.EndsWith` : the ways in which a command can end, and `Command.endsWith_result`;
* `Command.execute_allOrNothing` : the whole command.
-/

set_option autoImplicit false

namespace FilterQuery

/-! ### Arguments -/

/-- The long name of an option. -/
def ValueOption.name : ValueOption → List Char
  | schema => ['s', 'c', 'h', 'e', 'm', 'a']
  | root => ['r', 'o', 'o', 't']
  | records => ['r', 'e', 'c', 'o', 'r', 'd', 's']

/-- The long name of a flag. -/
def Flag.name : Flag → List Char
  | wildcardEquality =>
    ['w', 'i', 'l', 'd', 'c', 'a', 'r', 'd', '-', 'e', 'q', 'u', 'a', 'l', 'i', 't', 'y']
  | ignoreCase => ['i', 'g', 'n', 'o', 'r', 'e', '-', 'c', 'a', 's', 'e']
  | verbose => ['v', 'e', 'r', 'b', 'o', 's', 'e']

/-- The argument that sets an option. -/
def ValueOption.argument (option : ValueOption) (value : String) : String :=
  String.ofList ('-' :: '-' :: (option.name ++ '=' :: value.toList))

/-- The argument that raises a flag. -/
def Flag.argument (flag : Flag) : String := String.ofList ('-' :: '-' :: flag.name)

namespace CommandParts

theorem long_option (parts : CommandParts) (option : ValueOption) (value : String) :
    parts.long (option.name ++ '=' :: value.toList) = (parts.set option value).map (·, none) := by
  have hall : option.name.all (· ≠ '=') := by
    cases option <;> rfl
  have hname : ∀ c ∈ option.name, decide (c ≠ '=') := List.all_eq_true.1 hall
  have hmark : ∀ c ∈ ('=' :: value.toList).head?, decide (c ≠ '=') = false := by
    rintro c ⟨⟩
    rfl
  have hoption : longOption? option.name = some (.inl option) := by
    cases option <;> rfl
  rw [long, takeWhile_append_of_stop hname hmark, hoption, List.drop_left]
  dsimp only
  rw [String.ofList_toList]

theorem long_flag (parts : CommandParts) (flag : Flag) :
    parts.long flag.name = (parts.raise flag).map (·, none) := by
  cases flag <;> rfl

theorem read_option (parts : CommandParts) (option : ValueOption) (value : String) (rest : List String) :
    read parts none (option.argument value :: rest) =
      (parts.set option value).bind fun parts => read parts none rest := by
  have hlong := long_option parts option value
  have htext : (option.argument value).toList = '-' :: '-' :: (option.name ++ '=' :: value.toList) :=
    String.toList_ofList
  have hread : read parts none (option.argument value :: rest) =
      (parts.long (option.name ++ '=' :: value.toList)).bind fun step => read step.1 step.2 rest := by
    rw [read.eq_def]
    dsimp only
    rw [htext]
    cases option <;> rfl
  rw [hread, hlong, Option.bind_map]
  rfl

theorem read_flag (parts : CommandParts) (flag : Flag) (rest : List String) :
    read parts none (flag.argument :: rest) =
      (parts.raise flag).bind fun parts => read parts none rest := by
  have htext : flag.argument.toList = '-' :: '-' :: flag.name := String.toList_ofList
  have hread : read parts none (flag.argument :: rest) =
      (parts.long flag.name).bind fun step => read step.1 step.2 rest := by
    rw [read.eq_def]
    dsimp only
    rw [htext]
    cases flag <;> rfl
  rw [hread, long_flag, Option.bind_map]
  rfl

theorem read_query (parts : CommandParts) (query : String) :
    read parts none ["--", query] = parts.ask query := by
  have hquery : read parts none ["--", query] = [query].foldlM ask parts := rfl
  rw [hquery, List.foldlM_cons]
  exact bind_pure (parts.ask query)

end CommandParts

namespace Command

/-- Arguments for a command. -/
def arguments (c : Command) : List String :=
  [ValueOption.schema.argument c.schema, ValueOption.root.argument c.root] ++
    c.records.toList.map ValueOption.records.argument ++
    (if c.options.wildcardEquality then [Flag.wildcardEquality.argument] else []) ++
    (if c.options.caseInsensitiveStrings then [Flag.ignoreCase.argument] else []) ++ ["--", c.query]

/-- Each command has arguments, unless it names a file by no name. -/
theorem ofArguments?_arguments {c : Command} (hschema : c.schema ≠ "") (hrecords : c.records ≠ some "") :
    ofArguments? c.arguments = some c := by
  obtain ⟨schema, root, records, ⟨wildcardEquality, ignoreCase⟩, query⟩ := c
  dsimp only at hschema hrecords
  unfold ofArguments? arguments
  cases records with
  | none =>
    cases wildcardEquality <;> cases ignoreCase <;>
      simp [CommandParts.read_option, CommandParts.read_flag, CommandParts.read_query, CommandParts.set,
        CommandParts.raise, CommandParts.ask, hschema]
  | some path =>
    have hpath : path ≠ "" := fun heq => hrecords (congrArg some heq)
    cases wildcardEquality <;> cases ignoreCase <;>
      simp [CommandParts.read_option, CommandParts.read_flag, CommandParts.read_query, CommandParts.set,
        CommandParts.raise, CommandParts.ask, hschema, hpath]

end Command

/-! ### Work that writes -/

namespace CommandWork

variable {α β : Type} {out out' : List Char}

theorem bind_of_ok {x : CommandWork α} {a : α} (h : x.run.run out = (.ok a, out'))
    (k : α → CommandWork β) : (x >>= k).run.run out = (k a).run.run out' := by
  rw [ExceptT.run_bind, StateT.run_bind, h]
  rfl

theorem bind_of_error {x : CommandWork α} {f : CommandFailure} (h : x.run.run out = (.error f, out'))
    (k : α → CommandWork β) : (x >>= k).run.run out = (.error f, out') := by
  rw [ExceptT.run_bind, StateT.run_bind, h]
  rfl

theorem orFail_some_bind (f : CommandFailure) (a : α) (k : α → CommandWork β) :
    (orFail f (some a) >>= k).run.run out = (k a).run.run out :=
  bind_of_ok rfl k

theorem orFail_none_bind (f : CommandFailure) (k : α → CommandWork β) :
    (orFail f none >>= k).run.run out = (.error f, out) :=
  bind_of_error rfl k

theorem orFailWith_ok_bind {ε : Type} (f : ε → CommandFailure) (a : α) (k : α → CommandWork β) :
    (orFailWith f (.ok a) >>= k).run.run out = (k a).run.run out :=
  bind_of_ok rfl k

theorem orFailWith_error_bind {ε : Type} (f : ε → CommandFailure) (e : ε) (k : α → CommandWork β) :
    (orFailWith f (.error e) >>= k).run.run out = (.error (f e), out) :=
  bind_of_error rfl k

/-- Lines are written one behind the other. -/
theorem run_forM_writeLine (text : α → List Char) (as : List α) (out : List Char) :
    (as.forM fun a => writeLine (text a)).run.run out =
      (.ok (), out ++ as.flatMap fun a => text a ++ ['\n']) := by
  induction as generalizing out with
  | nil =>
    rw [List.flatMap_nil, List.append_nil]
    rfl
  | cons a as ih =>
    have hline : (writeLine (text a)).run.run out = (.ok (), out ++ (text a ++ ['\n'])) := rfl
    have hlines := bind_of_ok hline fun _ => as.forM fun a => writeLine (text a)
    rw [ih, List.append_assoc] at hlines
    exact hlines

end CommandWork

/-! ### Failures -/

/-- When in the work of a command it fails: at reading the schema, at parsing it, at compiling the query,
at reading the records, or at parsing them. -/
def CommandFailure.stage : CommandFailure → Nat
  | noSchema _ => 0
  | badSchema _ => 1
  | badQuery _ => 2
  | noRecords _ => 3
  | badRecords _ => 4

namespace Command

variable {c : Command} {files : String → Option String}

/-- The file with the schema can be read and holds the schema. -/
def Loads (c : Command) (files : String → Option String) (schema : Schema) : Prop :=
  ∃ text, files c.schema = some text ∧ Schema.ofText text = .ok schema

theorem Loads.unique {schema schema' : Schema} (h : c.Loads files schema)
    (h' : c.Loads files schema') : schema = schema' := by
  obtain ⟨text, htext, hschema⟩ := h
  obtain ⟨text', htext', hschema'⟩ := h'
  rw [htext] at htext'
  cases htext'
  rw [hschema] at hschema'
  exact Except.ok.inj hschema'

/-- The file can be read and holds an array of the records. -/
def HoldsRecords (files : String → Option String) (path : String) (records : List Json) : Prop :=
  ∃ text, files path = some text ∧ Json.ofText? .file text.toList = some (.array records)

theorem recordsOfText?_eq_some_iff {text : String} {records : List Json} :
    recordsOfText? text = some records ↔ Json.ofText? .file text.toList = some (.array records) := by
  unfold recordsOfText?
  split
  · next h => simp [h]
  · next h =>
    constructor
    · rintro ⟨⟩
    · intro heq
      exact absurd heq (h records)

theorem recordsOfText?_eq_none_iff {text : String} :
    recordsOfText? text = none ↔ ∀ records, Json.ofText? .file text.toList ≠ some (.array records) := by
  simp only [Option.eq_none_iff_forall_ne_some, ne_eq, recordsOfText?_eq_some_iff]

variable [PatternSize]

/-- With the schema of the file, the query is compiled to the predicate. -/
def Compiles (c : Command) (files : String → Option String) (p : Predicate) : Prop :=
  ∃ schema, c.Loads files schema ∧ Predicate.ofText c.query schema c.root c.options = .ok p

/-- What goes wrong, whether or not something else goes wrong before it. -/
inductive FailsWith (c : Command) (files : String → Option String) : CommandFailure → Prop
  | noSchema : files c.schema = none → FailsWith c files (.noSchema c.schema)
  | badSchema {text : String} {fault : SchemaFault} : files c.schema = some text →
      Schema.ofText text = .error fault → FailsWith c files (.badSchema c.schema)
  | badQuery {schema : Schema} {error : QueryError} : c.Loads files schema →
      Predicate.ofText c.query schema c.root c.options = .error error →
      FailsWith c files (.badQuery error)
  | noRecords {path : String} : c.records = some path → files path = none →
      FailsWith c files (.noRecords path)
  | badRecords {path text : String} : c.records = some path → files path = some text →
      (∀ records, Json.ofText? .file text.toList ≠ some (.array records)) →
      FailsWith c files (.badRecords path)

/-- What goes wrong first. -/
def FailsFirstWith (c : Command) (files : String → Option String) (f : CommandFailure) : Prop :=
  c.FailsWith files f ∧ ∀ g, c.FailsWith files g → f.stage ≤ g.stage

/-- At each stage no more than one thing goes wrong. -/
theorem FailsWith.eq_of_stage {f g : CommandFailure} (hf : c.FailsWith files f)
    (hg : c.FailsWith files g) (h : f.stage = g.stage) : f = g := by
  cases hf with
  | noSchema _ =>
    cases hg with
    | noSchema _ => rfl
    | _ => cases h
  | badSchema _ _ =>
    cases hg with
    | badSchema _ _ => rfl
    | _ => cases h
  | badQuery hload hcompile =>
    cases hg with
    | badQuery hload' hcompile' =>
      rw [hload.unique hload', hcompile'] at hcompile
      cases hcompile
      rfl
    | _ => cases h
  | noRecords hpath _ =>
    cases hg with
    | noRecords hpath' _ =>
      rw [hpath'] at hpath
      cases hpath
      rfl
    | _ => cases h
  | badRecords hpath _ _ =>
    cases hg with
    | badRecords hpath' _ _ =>
      rw [hpath'] at hpath
      cases hpath
      rfl
    | _ => cases h

theorem FailsFirstWith.unique {f g : CommandFailure} (hf : c.FailsFirstWith files f)
    (hg : c.FailsFirstWith files g) : f = g :=
  hf.1.eq_of_stage hg.1 (Nat.le_antisymm (hf.2 g hg.1) (hg.2 f hf.1))

theorem Loads.two_le_stage {schema : Schema} (h : c.Loads files schema) {f : CommandFailure}
    (hf : c.FailsWith files f) : 2 ≤ f.stage := by
  obtain ⟨text, htext, hschema⟩ := h
  cases hf with
  | noSchema hnone =>
    rw [htext] at hnone
    cases hnone
  | badSchema htext' hfault =>
    rw [htext] at htext'
    cases htext'
    rw [hschema] at hfault
    cases hfault
  | badQuery _ _ => exact Nat.le_refl 2
  | noRecords _ _ => exact Nat.le_succ 2
  | badRecords _ _ _ => exact Nat.le_add_right 2 2

/-- Once the query is compiled, nothing but the file of records can go wrong. -/
theorem Compiles.exists_path {p : Predicate} (h : c.Compiles files p) {f : CommandFailure}
    (hf : c.FailsWith files f) : ∃ path, c.records = some path ∧
      (files path = none ∧ f = .noRecords path ∨
        (∃ text, files path = some text ∧ recordsOfText? text = none) ∧ f = .badRecords path) := by
  obtain ⟨schema, hload, hcompile⟩ := h
  have htwo := hload.two_le_stage hf
  cases hf with
  | noSchema _ | badSchema _ _ => simp [CommandFailure.stage] at htwo
  | badQuery hload' herror =>
    rw [hload'.unique hload, hcompile] at herror
    cases herror
  | noRecords hpath hnone => exact ⟨_, hpath, .inl ⟨hnone, rfl⟩⟩
  | badRecords hpath htext hbad =>
    exact ⟨_, hpath, .inr ⟨⟨_, htext, recordsOfText?_eq_none_iff.2 hbad⟩, rfl⟩⟩

end Command

/-! ### Output -/

/-- The text is on one line and is read as the value: as any file is if that reads the floating-point
numbers of the value back from their texts, and in any case if decimals become the nearest numbers. -/
structure Json.IsLineOf (line : List Char) (v : Json) : Prop where
  hasNoControls : HasNoControls line
  nearest : Json.ofText? ⟨JsonFormat.file.maxDepth, .nearest⟩ line = some v
  file : (∀ x, .decimal x ∈ v.numbers → (JsonNumber.decimal x).IsReadBack JsonFormat.file.rounding) →
    Json.ofText? .file line = some v

theorem Json.IsReadable.isLineOf_text {v : Json} (h : v.IsReadable JsonFormat.file.maxDepth) :
    Json.IsLineOf v.text v := by
  refine ⟨v.hasNoControls_text, h.ofText?_text, fun hdecimals => ?_⟩
  refine Json.ofText?_text h.isOrdered h.depth_le fun n hn => ?_
  cases n with
  | integer n => exact JsonNumber.isReadBack_integer (h.isInRange _ hn) _
  | decimal x => exact hdecimals x hn

namespace Command

/-- Each record of a file on which the predicate holds has its text for a line. -/
theorem isLineOf_find {text : String} {records : List Json} (p : Predicate)
    (h : Json.ofText? .file text.toList = some (.array records)) :
    List.Forall₂ Json.IsLineOf ((p.find records).map Json.text) (p.find records) := by
  have hreadable : ∀ r ∈ records, r.IsReadable 126 :=
    Json.isReadable_array_iff.1 (Json.isReadable_of_ofText? h)
  rw [List.forall₂_map_left_iff, List.forall₂_same]
  intro r hr
  rw [Predicate.find_eq_filter] at hr
  have hmem : r ∈ records := List.mem_of_mem_filter hr
  exact ((hreadable r hmem).mono (by decide)).isLineOf_text

variable [PatternSize] {c : Command} {files : String → Option String}

/-- The output of a command that ends well: the text of the predicate, or a line for each record on which
it holds, in their order. -/
inductive Prints (c : Command) (files : String → Option String) : List Char → Prop
  | predicate {p : Predicate} : c.records = none → c.Compiles files p →
      Prints c files (p.text.toList ++ ['\n'])
  | records {p : Predicate} {path : String} {records : List Json} {lines : List (List Char)} :
      c.records = some path → c.Compiles files p → HoldsRecords files path records →
      List.Forall₂ Json.IsLineOf lines (records.filter fun r => (Predicate.evaluate p r).holds) →
      Prints c files (lines.flatMap (· ++ ['\n']))

/-- How a command ends: with the first failure and no output, or with the whole output. -/
inductive EndsWith (c : Command) (files : String → Option String) : CommandResult → Prop
  | failed {f : CommandFailure} : c.FailsFirstWith files f → EndsWith c files ⟨1, [], some f⟩
  | done {output : List Char} : (∀ f, ¬ c.FailsWith files f) → c.Prints files output →
      EndsWith c files ⟨0, output, none⟩

theorem result_of_error {f : CommandFailure} (h : (c.run files).run.run [] = (.error f, [])) :
    c.result files = ⟨1, [], some f⟩ := by
  rw [result, h]

theorem result_of_ok {output : List Char} (h : (c.run files).run.run [] = (.ok (), output)) :
    c.result files = ⟨0, output, none⟩ := by
  rw [result, h]

theorem run_of_loads {schema : Schema} (h : c.Loads files schema) :
    (c.run files).run.run [] =
      (orFailWith .badQuery (Predicate.ofText c.query schema c.root c.options) >>=
        fun p => c.write files p).run.run [] := by
  obtain ⟨text, htext, hschema⟩ := h
  rw [run, htext, CommandWork.orFail_some_bind, hschema, CommandWork.orFailWith_ok_bind]

theorem run_of_compiles {p : Predicate} (h : c.Compiles files p) :
    (c.run files).run.run [] = (c.write files p).run.run [] := by
  obtain ⟨schema, hload, hcompile⟩ := h
  rw [run_of_loads hload, hcompile, CommandWork.orFailWith_ok_bind]

theorem endsWith_of_noSchema (h : files c.schema = none) : c.EndsWith files (c.result files) := by
  have hrun : (c.run files).run.run [] = (.error (.noSchema c.schema), []) := by
    rw [run, h, CommandWork.orFail_none_bind]
  rw [result_of_error hrun]
  exact .failed ⟨.noSchema h, fun g _ => Nat.zero_le _⟩

theorem endsWith_of_badSchema {text : String} {fault : SchemaFault} (htext : files c.schema = some text)
    (h : Schema.ofText text = .error fault) : c.EndsWith files (c.result files) := by
  have hrun : (c.run files).run.run [] = (.error (.badSchema c.schema), []) := by
    rw [run, htext, CommandWork.orFail_some_bind, h, CommandWork.orFailWith_error_bind]
  rw [result_of_error hrun]
  refine .failed ⟨.badSchema htext h, fun g hg => ?_⟩
  cases hg with
  | noSchema hnone =>
    rw [htext] at hnone
    cases hnone
  | _ => simp [CommandFailure.stage]

theorem endsWith_of_badQuery {schema : Schema} {error : QueryError} (hload : c.Loads files schema)
    (h : Predicate.ofText c.query schema c.root c.options = .error error) :
    c.EndsWith files (c.result files) := by
  have hrun : (c.run files).run.run [] = (.error (.badQuery error), []) := by
    rw [run_of_loads hload, h, CommandWork.orFailWith_error_bind]
  rw [result_of_error hrun]
  exact .failed ⟨.badQuery hload h, fun g hg => hload.two_le_stage hg⟩

theorem endsWith_of_noPath {p : Predicate} (h : c.Compiles files p) (hpath : c.records = none) :
    c.EndsWith files (c.result files) := by
  have hrun : (c.run files).run.run [] = (.ok (), p.text.toList ++ ['\n']) := by
    rw [run_of_compiles h, write, hpath]
    rfl
  rw [result_of_ok hrun]
  refine .done (fun f hf => ?_) (.predicate hpath h)
  obtain ⟨path, hpath', -⟩ := h.exists_path hf
  rw [hpath] at hpath'
  cases hpath'

theorem endsWith_of_noRecords {p : Predicate} {path : String} (h : c.Compiles files p)
    (hpath : c.records = some path) (hnone : files path = none) : c.EndsWith files (c.result files) := by
  have hrun : (c.run files).run.run [] = (.error (.noRecords path), []) := by
    rw [run_of_compiles h, write, hpath]
    dsimp only
    rw [hnone, CommandWork.orFail_none_bind]
  rw [result_of_error hrun]
  refine .failed ⟨.noRecords hpath hnone, fun g hg => ?_⟩
  obtain ⟨path', -, ⟨-, rfl⟩ | ⟨-, rfl⟩⟩ := h.exists_path hg
  · exact Nat.le_refl 3
  · exact Nat.le_succ 3

theorem endsWith_of_badRecords {p : Predicate} {path text : String} (h : c.Compiles files p)
    (hpath : c.records = some path) (htext : files path = some text)
    (hnone : recordsOfText? text = none) : c.EndsWith files (c.result files) := by
  have hrun : (c.run files).run.run [] = (.error (.badRecords path), []) := by
    rw [run_of_compiles h, write, hpath]
    dsimp only
    rw [htext, CommandWork.orFail_some_bind, hnone, CommandWork.orFail_none_bind]
  rw [result_of_error hrun]
  refine .failed ⟨.badRecords hpath htext (recordsOfText?_eq_none_iff.1 hnone), fun g hg => ?_⟩
  obtain ⟨path', hpath', ⟨hfile, -⟩ | ⟨-, rfl⟩⟩ := h.exists_path hg
  · rw [hpath] at hpath'
    cases hpath'
    rw [htext] at hfile
    cases hfile
  · exact Nat.le_refl 4

theorem endsWith_of_records {p : Predicate} {path text : String} {records : List Json}
    (h : c.Compiles files p) (hpath : c.records = some path) (htext : files path = some text)
    (hrecords : recordsOfText? text = some records) : c.EndsWith files (c.result files) := by
  have hrun : (c.run files).run.run [] =
      (.ok (), (p.find records).flatMap fun r => r.text ++ ['\n']) := by
    rw [run_of_compiles h, write, hpath]
    dsimp only
    rw [htext, CommandWork.orFail_some_bind, hrecords, CommandWork.orFail_some_bind,
      CommandWork.run_forM_writeLine, List.nil_append]
  have hread := recordsOfText?_eq_some_iff.1 hrecords
  have hlines := isLineOf_find p hread
  rw [Predicate.find_eq_filter] at hrun hlines
  have hprints := Prints.records hpath h ⟨text, htext, hread⟩ hlines
  rw [List.flatMap_map] at hprints
  rw [result_of_ok hrun]
  refine .done (fun f hf => ?_) hprints
  obtain ⟨path', hpath', hfails⟩ := h.exists_path hf
  rw [hpath] at hpath'
  cases hpath'
  rcases hfails with ⟨hnone, -⟩ | ⟨⟨text', htext', hnone⟩, -⟩
  · rw [htext] at hnone
    cases hnone
  · rw [htext] at htext'
    cases htext'
    rw [hrecords] at hnone
    cases hnone

/-- A command ends in one of these ways. -/
theorem endsWith_result (c : Command) (files : String → Option String) :
    c.EndsWith files (c.result files) := by
  cases htext : files c.schema with
  | none => exact endsWith_of_noSchema htext
  | some schemaText =>
    cases hschema : Schema.ofText schemaText with
    | error fault => exact endsWith_of_badSchema htext hschema
    | ok schema =>
      have hload : c.Loads files schema := ⟨schemaText, htext, hschema⟩
      cases hcompile : Predicate.ofText c.query schema c.root c.options with
      | error error => exact endsWith_of_badQuery hload hcompile
      | ok p =>
        have hp : c.Compiles files p := ⟨schema, hload, hcompile⟩
        cases hpath : c.records with
        | none => exact endsWith_of_noPath hp hpath
        | some path =>
          cases hfile : files path with
          | none => exact endsWith_of_noRecords hp hpath hfile
          | some text =>
            cases hrecords : recordsOfText? text with
            | none => exact endsWith_of_badRecords hp hpath hfile hrecords
            | some records => exact endsWith_of_records hp hpath hfile hrecords

/-- The command is all or nothing. Unless it ends well there is no output, and the failure is the first in
the order of the stages. If it ends well the output is the text of the predicate or, with a file of
records, a line for each record on which the predicate holds. -/
theorem execute_allOrNothing (arguments : List String) (files : String → Option String) :
    ((execute arguments files).status ≠ 0 → (execute arguments files).output = []) ∧
    ((execute arguments files).status = 2 ↔ ofArguments? arguments = none) ∧
    (∀ f, (execute arguments files).failure = some f ↔
      ∃ c, ofArguments? arguments = some c ∧ c.FailsFirstWith files f) ∧
    ((execute arguments files).status = 0 ↔
      ∃ c, ofArguments? arguments = some c ∧ ∀ f, ¬ c.FailsWith files f) ∧
    ∀ c, ofArguments? arguments = some c → (execute arguments files).status = 0 →
      c.Prints files (execute arguments files).output := by
  cases harguments : ofArguments? arguments with
  | none =>
    rw [execute, harguments]
    simp
  | some c =>
    have hexecute : execute arguments files = c.result files := by
      rw [execute, harguments]
    rw [hexecute]
    have hends := endsWith_result c files
    generalize c.result files = r at hends
    cases hends with
    | @failed f hf =>
      refine ⟨fun _ => rfl, by simp, fun g => ⟨?_, ?_⟩, ⟨?_, ?_⟩, ?_⟩
      · rintro ⟨⟩
        exact ⟨c, rfl, hf⟩
      · rintro ⟨_, ⟨⟩, hg⟩
        exact congrArg some (hf.unique hg)
      · rintro ⟨⟩
      · rintro ⟨_, ⟨⟩, hnone⟩
        exact absurd hf.1 (hnone f)
      · rintro _ _ ⟨⟩
    | done hnone hprints =>
      refine ⟨fun h => absurd rfl h, by simp, fun g => ⟨?_, ?_⟩, ⟨?_, fun _ => rfl⟩, ?_⟩
      · rintro ⟨⟩
      · rintro ⟨_, ⟨⟩, hg⟩
        exact absurd hg.1 (hnone g)
      · exact fun _ => ⟨c, rfl, hnone⟩
      · rintro _ ⟨⟩ _
        exact hprints

end Command

end FilterQuery
