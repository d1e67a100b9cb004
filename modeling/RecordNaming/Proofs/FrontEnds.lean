/-
  RecordNaming.Proofs.FrontEnds — the command line and the call on two texts make the same names.

  (1) Where nothing sets the settings they are the defaults (`settings_of_unset`), the text of a file is
      the one written to it (`text?_toUTF8`), and a JSON text is read alike wherever it is from
      (`ofJsonText_eq_ok_iff`).
  (2) A preview of files succeeds exactly if the preview of their texts does, and writes its name
      (`preview_eq_ok_iff`, `previewText_eq_ok_iff`): a cache in front of an empty table answers as no
      source. A failure of one is a failure of the other.
  (3) A validation succeeds exactly if the preview of an empty record does.
  (4) The plain spellings ask for these commands (`ofArguments?_preview`, `ofArguments?_validate`).

  `front_ends_agree` puts them together for the process.
-/
import RecordNaming.CommandLine.Run
import RecordNaming.Proofs.Document.Forms
import RecordNaming.Proofs.SymbolCache

namespace RecordNaming

open Document CommandLine

/-! ## (1) Surroundings -/

/-- No file of variables and no variable sets any of the settings. -/
structure Unset (files : FileLookup) (vars : List (String × String)) : Prop where
  noFile : files environmentPath = none
  noVariable : ∀ name ∈ Settings.names settingsStart, ∀ v ∈ vars, v.1 ≠ name

theorem settings_of_unset {files : FileLookup} {vars : List (String × String)} (h : Unset files vars) :
    settings files vars = .ok {} := by
  have hv : ∀ name ∈ Settings.names settingsStart, vars.find? (·.1 == name) = none := fun name hn =>
    List.find?_eq_none.mpr fun v hm => by simpa using h.noVariable name hn v hm
  simp only [Settings.names, List.forall_mem_cons] at hv
  obtain ⟨environment, log, depth, -⟩ := hv
  simp only [settings, h.noFile, Option.bind_none, Settings.ofVariables, environment, log, depth]
  rfl

/-- The text of a file is the one that was written to it. -/
theorem text?_toUTF8 (text : String) : (FileEntry.file text.toUTF8).text? = some text := by
  simp only [FileEntry.text?, String.fromUTF8?]
  exact dif_pos text.isValidUTF8

/-- Where a text is from does not matter to what it is read as. -/
theorem ofJsonText_eq_ok_iff {source source' text : String} {c : Configuration} :
    Configuration.ofJsonText source text = .ok c ↔ Configuration.ofJsonText source' text = .ok c := by
  unfold Configuration.ofJsonText
  cases Json.read? text.toList with
  | none => simp
  | some n =>
    simp only [configurationOfNode]
    cases readConfiguration Json.maxOpen n <;> cases readRules Json.maxOpen n <;> simp

theorem load_eq_ok_iff {files : FileLookup} {path text : String} (hf : files path = some (.file text.toUTF8))
    (hy : isYamlPath path = false) {c : Configuration} :
    Configuration.load files path = .ok c ↔ Configuration.ofJsonText inlineSource text = .ok c := by
  simp only [Configuration.load, hf, text?_toUTF8, hy]
  exact ofJsonText_eq_ok_iff

/-! ## (2) Previews -/

theorem orFail_eq_ok_iff {α : Type} {x : Except RuleError α} {a : α} : orFail x = .ok a ↔ x = .ok a := by
  cases x <;> simp [orFail]

theorem recordOr_eq_ok_iff {x : Except RecordDefect Record} {r : Record} : recordOr x = .ok r ↔ x = .ok r := by
  cases x <;> simp [recordOr]

theorem readRecord_eq_ok_iff {files : FileLookup} {path text : String}
    (hf : files path = some (.file text.toUTF8)) {r : Record} :
    readRecord files path = .ok r ↔ Record.ofText text = .ok r := by
  simp only [readRecord, hf, Option.bind_some, text?_toUTF8, orFail_eq_ok_iff, recordOr_eq_ok_iff]

theorem nameOf_eq_ok_iff {c : Configuration} {r : Record} {name : String} :
    nameOf c r = .ok name ↔ ∃ rules,
      RuleSet.ofConfiguration c Configuration.defaultMaxDepth = .ok rules ∧ rules.build .none r = name :=
  map_eq_ok_iff

/-- The texts give a name if both are read and the configuration is valid. -/
theorem previewText_eq_ok_iff {C R name : String} :
    previewText C R = .ok name ↔ ∃ c r rules, Configuration.ofJsonText inlineSource C = .ok c ∧
      Record.ofText R = .ok r ∧ RuleSet.ofConfiguration c Configuration.defaultMaxDepth = .ok rules ∧
      rules.build .none r = name := by
  unfold previewText RecordNaming.preview
  cases Configuration.ofJsonText inlineSource C with
  | error e => simp [bind, Except.bind]
  | ok c =>
    cases Record.ofText R with
    | error e => simp [bind, Except.bind, recordOr]
    | ok r =>
      simp only [bind, Except.bind, recordOr, Except.ok.injEq, exists_and_left, exists_eq_left',
        ← nameOf_eq_ok_iff]
      cases nameOf c r <;> simp

/-- A cache in front of a table without symbols answers as no source at all. -/
theorem evaluateCached_empty (rules : RuleSet) (r : Record) :
    (rules.evaluateCached (.ofTable (symbolTable [])) {} r).1 = rules.evaluate .none r := by
  have faithful : SymbolCache.Faithful SymbolSource.none {} := fun _ _ h => by cases h
  have empty : SymbolSource.ofTable (symbolTable []) = SymbolSource.none := rfl
  rw [empty, RuleSet.evaluateCached, faithful.source_eq]

section

variable {files : FileLookup} {configuration record C R : String}
  (hc : files configuration = some (.file C.toUTF8)) (hy : isYamlPath configuration = false)
  (hr : files record = some (.file R.toUTF8))
include hc hy hr

/-- The preview of files is that of their texts, shown as asked for. -/
theorem preview_eq_ok_iff {display : Display} {output : Output} :
    CommandLine.preview files Configuration.defaultMaxDepth configuration record [] display = .ok output ↔
      ∃ c r rules, Configuration.ofJsonText inlineSource C = .ok c ∧ Record.ofText R = .ok r ∧
        RuleSet.ofConfiguration c Configuration.defaultMaxDepth = .ok rules ∧
        display.output c (rules.evaluate .none r) = output := by
  simp only [CommandLine.preview, bind_eq_ok_iff, orFail_eq_ok_iff, load_eq_ok_iff hc hy,
    readRecord_eq_ok_iff hr, evaluateCached_empty, pure, Except.pure, Except.ok.injEq]
  constructor
  · rintro ⟨c, hc, r, hr, rules, hs, ho⟩
    exact ⟨c, r, rules, hc, hr, hs, ho⟩
  · rintro ⟨c, r, rules, hc, hr, hs, ho⟩
    exact ⟨c, hc, r, hr, rules, hs, ho⟩

theorem exists_preview_iff {display : Display} :
    (∃ output, CommandLine.preview files Configuration.defaultMaxDepth configuration record [] display =
        .ok output) ↔ ∃ name, previewText C R = .ok name := by
  simp only [preview_eq_ok_iff hc hy hr, previewText_eq_ok_iff]
  constructor
  · rintro ⟨_, c, r, rules, h⟩
    exact ⟨_, c, r, rules, h.1, h.2.1, h.2.2.1, rfl⟩
  · rintro ⟨_, c, r, rules, h⟩
    exact ⟨_, c, r, rules, h.1, h.2.1, h.2.2.1, rfl⟩

/-- Unless the outcome is shown as a document, the name is the line that is written. -/
theorem exists_preview_name_iff {display : Display} (hd : display ≠ .json) {name : String} :
    (∃ output, CommandLine.preview files Configuration.defaultMaxDepth configuration record [] display =
        .ok output ∧ output.stdout = name ++ "\n") ↔ previewText C R = .ok name := by
  have line (c : Configuration) (o : Outcome) : (display.output c o).stdout = o.value ++ "\n" := by
    cases display with
    | json => exact absurd rfl hd
    | _ => rfl
  simp only [preview_eq_ok_iff hc hy hr, previewText_eq_ok_iff]
  constructor
  · rintro ⟨_, ⟨c, r, rules, hc, hr, hs, rfl⟩, hn⟩
    rw [line] at hn
    exact ⟨c, r, rules, hc, hr, hs, (String.append_left_inj _).mp hn⟩
  · rintro ⟨c, r, rules, hc, hr, hs, rfl⟩
    exact ⟨_, ⟨c, r, rules, hc, hr, hs, rfl⟩, line _ _⟩

end

/-! ## (3) Validation -/

theorem exists_ofConfiguration_iff {c : Configuration} {maxDepth : Nat} :
    (∃ rules, RuleSet.ofConfiguration c maxDepth = .ok rules) ↔ c.validate maxDepth = .ok () := by
  unfold RuleSet.ofConfiguration
  split
  · rename_i h
    simp [h]
  · rename_i e h
    simp [h]

/-- The empty object is a record. -/
theorem exists_emptyRecord : ∃ r, Record.ofText "\x7b\x7d" = .ok r := ⟨_, rfl⟩

theorem exists_validate_iff {files : FileLookup} {configuration C : String}
    (hc : files configuration = some (.file C.toUTF8)) (hy : isYamlPath configuration = false) :
    (∃ output, (Command.validate configuration).run files Configuration.defaultMaxDepth = .ok output) ↔
      ∃ name, previewText C "\x7b\x7d" = .ok name := by
  obtain ⟨r, hr⟩ := exists_emptyRecord
  simp only [Command.run, bind_eq_ok_iff, orFail_eq_ok_iff, load_eq_ok_iff hc hy, previewText_eq_ok_iff, hr,
    Except.ok.injEq, pure, Except.pure]
  constructor
  · rintro ⟨_, c, hc, _, hv, _⟩
    obtain ⟨rules, hs⟩ := exists_ofConfiguration_iff.mpr hv
    exact ⟨_, c, r, rules, hc, rfl, hs, rfl⟩
  · rintro ⟨_, c, _, rules, hc, -, hs, -⟩
    exact ⟨_, c, hc, (), exists_ofConfiguration_iff.mp ⟨rules, hs⟩, rfl⟩

/-! ## (4) Processes -/

namespace CommandLine

theorem Exit.code_ofResult_eq_zero_iff {x : Except CommandError Output} :
    (ofResult x).code = 0 ↔ ∃ output, x = .ok output := by
  cases x <;> simp [ofResult]

theorem Exit.code_ofResult_eq_one_iff {x : Except CommandError Output} :
    (ofResult x).code = 1 ↔ ¬∃ output, x = .ok output := by
  cases x <;> simp [ofResult]

theorem Exit.ofResult_writes_iff {x : Except CommandError Output} {text : String} :
    ((ofResult x).code = 0 ∧ (ofResult x).output.stdout = text) ↔ ∃ output, x = .ok output ∧ output.stdout = text := by
  cases x <;> simp [ofResult]

theorem process_eq {files : FileLookup} {vars : List (String × String)} (unset : Unset files vars)
    {args : List String} {command : Command} (h : Command.ofArguments? args = some command) :
    process files vars args = .ofResult (command.run files Configuration.defaultMaxDepth) := by
  simp only [process, h, execute, settings_of_unset unset]

/-- An argument that can be the value of an option that names a path. -/
structure IsValue (arg : String) : Prop where
  nonempty : arg ≠ ""
  plain : isOption arg = false

/-- An option takes the value behind it. -/
theorem scan_option {specs : List OptionSpec} {spec : OptionSpec} {name value : String} {rest : List String}
    (hn : isOption name = true) (hne : name ≠ "--") (hs : splitOption name = (name, none))
    (hf : specs.find? (·.name == name) = some spec) (ht : spec.takesValue = true) (hv : isOption value = false) :
    scan specs (name :: value :: rest) = (scan specs rest).map (·.withOption name value) := by
  rw [scan]
  · simp [hn, hs, hf, ht, hv]
  · exact hne

theorem path?_eq {s : Scanned} {name path : String} (hp : IsValue path) (ho : s.option? name = some path) :
    s.path? name = some path := by
  simp [Scanned.path?, ho, Option.filter, hp.nonempty]

theorem ofArguments?_preview {configuration record : String} (hc : IsValue configuration) (hr : IsValue record) :
    Command.ofArguments? ["preview", "--config", configuration, "--record", record] =
      some (.preview configuration record [] .name) := by
  have hscan : scan (logOption :: previewOptions) ["--config", configuration, "--record", record] =
      some ⟨[("--config", configuration), ("--record", record)], []⟩ := by
    rw [scan_option (by decide +kernel) (by decide) (by decide) rfl rfl hc.plain,
      scan_option (by decide +kernel) (by decide) (by decide) rfl rfl hr.plain]
    rfl
  have hs : scanned? previewOptions ["--config", configuration, "--record", record] =
      some ⟨[("--config", configuration), ("--record", record)], []⟩ := by
    rw [scanned?, hscan]
    rfl
  have hskip : skipLog ["preview", "--config", configuration, "--record", record] =
      some ["preview", "--config", configuration, "--record", record] := rfl
  simp only [Command.ofArguments?, hskip, Option.bind_eq_bind, Option.bind_some, preview?, hs]
  rw [path?_eq hc rfl, path?_eq hr rfl]
  rfl

theorem ofArguments?_validate {configuration : String} (hc : IsValue configuration) :
    Command.ofArguments? ["validate", "--config", configuration] = some (.validate configuration) := by
  have hscan : scan (logOption :: [configOption]) ["--config", configuration] =
      some ⟨[("--config", configuration)], []⟩ := by
    rw [scan_option (by decide +kernel) (by decide) (by decide) rfl rfl hc.plain]
    rfl
  have hs : scanned? [configOption] ["--config", configuration] = some ⟨[("--config", configuration)], []⟩ := by
    rw [scanned?, hscan]
    rfl
  have hskip : skipLog ["validate", "--config", configuration] = some ["validate", "--config", configuration] := rfl
  simp only [Command.ofArguments?, hskip, Option.bind_eq_bind, Option.bind_some, configuration?, hs]
  rw [path?_eq hc rfl]
  rfl

end CommandLine

/-- With the settings at their defaults, a preview of two files ends with 0 exactly if their texts give a
name, and it writes this name unless it shows the whole outcome; it ends with 1 exactly if they give an
error. A validation ends with 0 exactly if the preview of the empty object (the text `\x7b\x7d`) does. The
plain spellings ask for such commands. -/
theorem front_ends_agree {files : FileLookup} {vars : List (String × String)} (unset : Unset files vars)
    {configuration record C R : String} (hc : files configuration = some (.file C.toUTF8))
    (hy : isYamlPath configuration = false) (hr : files record = some (.file R.toUTF8)) :
    (∀ args display, Command.ofArguments? args = some (.preview configuration record [] display) →
      ((process files vars args).code = 0 ↔ ∃ name, previewText C R = .ok name) ∧
      ((process files vars args).code = 1 ↔ ∃ e, previewText C R = .error e) ∧
      (display ≠ .json → ∀ name, ((process files vars args).code = 0 ∧
        (process files vars args).output.stdout = name ++ "\n") ↔ previewText C R = .ok name)) ∧
    (R = "\x7b\x7d" → ∀ args args' display, Command.ofArguments? args = some (.validate configuration) →
      Command.ofArguments? args' = some (.preview configuration record [] display) →
      ((process files vars args).code = 0 ↔ (process files vars args').code = 0)) ∧
    (IsValue configuration →
      Command.ofArguments? ["validate", "--config", configuration] = some (.validate configuration) ∧
      (IsValue record → Command.ofArguments? ["preview", "--config", configuration, "--record", record] =
        some (.preview configuration record [] .name))) := by
  refine ⟨fun args display ha => ?_, ?_, fun vc => ⟨ofArguments?_validate vc, ofArguments?_preview vc⟩⟩
  · rw [process_eq unset ha]
    refine ⟨Exit.code_ofResult_eq_zero_iff.trans (exists_preview_iff hc hy hr), ?_, fun hd name => ?_⟩
    · refine Exit.code_ofResult_eq_one_iff.trans ((not_congr (exists_preview_iff hc hy hr)).trans ?_)
      cases previewText C R <;> simp
    · exact Exit.ofResult_writes_iff.trans (exists_preview_name_iff hc hy hr hd)
  · rintro rfl args args' display ha ha'
    rw [process_eq unset ha, process_eq unset ha', Exit.code_ofResult_eq_zero_iff,
      Exit.code_ofResult_eq_zero_iff]
    exact (exists_validate_iff hc hy).trans (exists_preview_iff hc hy hr).symm

/-- One rule, a record that it makes a name of, and an empty record. -/
def nameRuleText : String := "[\x7b\x22field\x22:\x22name\x22\x7d]"

def annText : String := "\x7b\x22name\x22: \x22Ann\x22\x7d"

def nameFiles : FileLookup := fun path =>
  if path = "rules.json" then some (.file nameRuleText.toUTF8)
  else if path = "ann.json" then some (.file annText.toUTF8)
  else if path = "empty.json" then some (.file "\x7b\x7d".toUTF8)
  else none

theorem name_files_are_previewed :
    let run := process nameFiles [("LANG", "C")]
    Unset nameFiles [("LANG", "C")] ∧ isYamlPath "rules.json" = false ∧
      (run ["preview", "--config", "rules.json", "--record", "ann.json"]).code = 0 ∧
      (run ["preview", "--config", "rules.json", "--record", "ann.json"]).output.stdout = "Ann\n" ∧
      (run ["validate", "--config", "rules.json"]).code = 0 := by
  have unset : Unset nameFiles [("LANG", "C")] := ⟨by simp [nameFiles, environmentPath], by decide⟩
  have hy : isYamlPath "rules.json" = false := by decide
  have hc : nameFiles "rules.json" = some (.file nameRuleText.toUTF8) := by simp [nameFiles]
  have ha : nameFiles "ann.json" = some (.file annText.toUTF8) := by simp [nameFiles]
  have he : nameFiles "empty.json" = some (.file "\x7b\x7d".toUTF8) := by simp [nameFiles]
  have named : previewText nameRuleText annText = .ok "Ann" := by
    rw [← toOption_eq_some_iff]
    decide +kernel
  have unnamed : previewText nameRuleText "\x7b\x7d" = .ok "" := by
    rw [← toOption_eq_some_iff]
    decide +kernel
  have vc : IsValue "rules.json" := ⟨by decide, by decide +kernel⟩
  have va : IsValue "ann.json" := ⟨by decide, by decide +kernel⟩
  have ve : IsValue "empty.json" := ⟨by decide, by decide +kernel⟩
  obtain ⟨previews, -, spelled⟩ := front_ends_agree unset hc hy ha
  obtain ⟨code, stdout⟩ := ((previews _ _ ((spelled vc).2 va)).2.2 (by decide) "Ann").mpr named
  obtain ⟨emptyPreviews, validation, emptySpelled⟩ := front_ends_agree unset hc hy he
  have asked := (emptySpelled vc).2 ve
  have emptyCode := (emptyPreviews _ _ asked).1.mpr ⟨"", unnamed⟩
  exact ⟨unset, hy, code, stdout, (validation rfl _ _ _ (emptySpelled vc).1 asked).mpr emptyCode⟩

end RecordNaming
