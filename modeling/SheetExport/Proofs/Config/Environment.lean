import SheetExport.Config.Environment
import SheetExport.Proofs.Checks
import SheetExport.Proofs.Text.Spelled

/-! # Which configuration an environment asks for

Each variable that is set has to spell a value of its kind, and the sizes that come of it must not be zero. Then every
setting is what its variable says, or else the default (`Environment.Asks`). Otherwise the first variable that spells
nothing is reported, or, when there is none, the first size that is zero.
-/

namespace SheetExport

open Text (Wraps Tight SpellsNumber)

/-! ## Truth values -/

def flagWords : Bool → List String
  | true => ["true", "yes", "1", "on"]
  | false => ["false", "no", "0", "off"]

/-- A word for a truth value, in any case of its letters, with nothing around it but blank characters. -/
def SpellsFlag (s : String) (b : Bool) : Prop :=
  ∃ body, Wraps s body ∧ ∃ word ∈ flagWords b, body.map Char.toLower = word.toList

section Flags

variable {s : String} {body : List Char} {b : Bool} {c : Char}

theorem toLower_blank (blank : Text.isBlank c = true) : c.toLower = c := by
  refine dif_neg fun ⟨above, below⟩ => ?_
  rw [ge_iff_le, UInt32.le_iff_toNat_le] at above
  rw [UInt32.le_iff_toNat_le] at below
  have lower : 65 ≤ c.toNat := above
  have upper : c.toNat ≤ 90 := below
  simp [Text.isBlank] at blank
  omega

theorem flagWord_solid : ∀ word ∈ flagWords b, word.toList ≠ [] ∧ ∀ c ∈ word.toList, Text.isBlank c = false := by
  cases b <;> simp [flagWords, Text.isBlank]

theorem tight_of_flagWord {word : String} (listed : word ∈ flagWords b) (same : body.map Char.toLower = word.toList) :
    Tight body := by
  obtain ⟨some_, plain⟩ := flagWord_solid word listed
  have solid : ∀ c ∈ body, Text.isBlank c = false := by
    intro c inside
    have letter : c.toLower ∈ word.toList := same ▸ List.mem_map_of_mem inside
    cases blank : Text.isBlank c with
    | false => rfl
    | true =>
        -- A blank has no other case, so the word would have it too.
        exact absurd blank (Bool.eq_false_iff.mp (plain c (toLower_blank blank ▸ letter)))
  refine ⟨?_, fun c first => solid c (List.mem_of_head? first), fun c last => solid c (List.mem_of_getLast? last)⟩
  rintro rfl
  exact some_ same.symm

theorem readFlag?_eq_some_iff_mem : readFlag? s = some b ↔ (Text.trim s).map Char.toLower ∈ flagWords b := by
  rw [readFlag?]
  split
  case h_9 =>
    constructor
    · exact nofun
    · intro inside
      cases b <;> simp_all [flagWords]
  all_goals
    rename_i word
    rw [word]
    cases b <;> decide

/-- A truth value is read from a text exactly if the text spells it. -/
theorem readFlag?_eq_some_iff : readFlag? s = some b ↔ SpellsFlag s b := by
  rw [readFlag?_eq_some_iff_mem]
  refine Iff.trans ?_ (Text.exists_wraps_iff fun body ⟨word, listed, same⟩ => tight_of_flagWord listed same).symm
  constructor
  · exact fun listed => ⟨_, listed, by rw [String.toList_map]⟩
  · rintro ⟨word, listed, same⟩
    rw [← String.toList_map, String.toList_inj] at same
    exact same ▸ listed

end Flags

/-! ## Variables -/

namespace Environment

/-- The variables for the settings. -/
inductive Variable where
  | window
  | flushBatch
  | compressSpill
  | styleHeader
  | borderData
  | escapeFormulas
  | recordMetrics
  | maxRows
  deriving DecidableEq, Repr

namespace Variable

def name : Variable → String
  | window => "SHEETSTREAM_ROW_WINDOW_SIZE"
  | flushBatch => "SHEETSTREAM_FLUSH_BATCH_SIZE"
  | compressSpill => "SHEETSTREAM_COMPRESS_TEMP_FILES"
  | styleHeader => "SHEETSTREAM_APPLY_HEADER_STYLE"
  | borderData => "SHEETSTREAM_APPLY_DATA_BORDERS"
  | escapeFormulas => "SHEETSTREAM_PREVENT_FORMULA_INJECTION"
  | recordMetrics => "SHEETSTREAM_ENABLE_METRICS"
  | maxRows => "SHEETSTREAM_MAX_ROWS"

/-- All of them, in the order in which they are read. -/
def all : List Variable :=
  [window, flushBatch, compressSpill, styleHeader, borderData, escapeFormulas, recordMetrics, maxRows]

def isSize : Variable → Bool
  | window | flushBatch | maxRows => true
  | _ => false

/-- A text that the variable may have. -/
def Accepts (v : Variable) (text : String) : Prop :=
  if v.isSize then ∃ n, SpellsNumber text n else ∃ b, SpellsFlag text b

/-- What is said about any other text. -/
def complaint (v : Variable) (text : String) : String :=
  if v.isSize then "cannot parse '" ++ text ++ "'" else "expected a boolean, got '" ++ text ++ "'"

def reads (v : Variable) (text : String) : Bool :=
  if v.isSize then (Text.readWord? (Text.trim text)).isSome else (readFlag? text).isSome

theorem reads_iff {v : Variable} {text : String} : v.reads text = true ↔ v.Accepts text := by
  rw [reads, Accepts]
  cases v.isSize with
  | true => simp [Option.isSome_iff_exists, Text.readWord?_trim_eq_some_iff]
  | false => simp [Option.isSome_iff_exists, readFlag?_eq_some_iff]

/-- What comes of reading a variable, but for its value. -/
def check (env : Environment) (v : Variable) : Except ExportError Unit :=
  match env v.name with
  | none => .ok ()
  | some text => if v.reads text then .ok () else .error (.misconfigured v.name (v.complaint text))

end Variable

/-- The variable is not set, or spells something. -/
def Readable (env : Environment) (v : Variable) : Prop := ∀ text, env v.name = some text → v.Accepts text

/-- A setting is what its variable spells, or else the default. -/
def Gives {α : Type} (env : Environment) (v : Variable) (spells : String → α → Prop) (default a : α) : Prop :=
  match env v.name with
  | none => a = default
  | some text => spells text a

section Readings

variable {α : Type} {env : Environment} {v : Variable} {ofNat : Nat → α} {default a : α} {b flag : Bool}
  {e : ExportError}

theorem check_eq_ok_iff : v.check env = .ok () ↔ env.Readable v := by
  rw [Variable.check, Readable]
  cases env v.name with
  | none => exact iff_of_true rfl nofun
  | some text =>
      simp only [Option.some.injEq, forall_eq', ← Variable.reads_iff]
      cases v.reads text with
      | true => exact iff_of_true rfl rfl
      | false => exact iff_of_false nofun nofun

theorem check_eq_error_iff :
    v.check env = .error e ↔
      ∃ text, env v.name = some text ∧ ¬v.Accepts text ∧ e = .misconfigured v.name (v.complaint text) := by
  rw [Variable.check]
  cases env v.name with
  | none => exact iff_of_false nofun fun ⟨_, set_, _⟩ => nomatch set_
  | some text =>
      simp only [Option.some.injEq, exists_eq_left', ← Variable.reads_iff]
      cases v.reads text with
      | true => exact iff_of_false nofun fun both => both.1 rfl
      | false => simp [eq_comm]

theorem size_eq_ok_iff :
    env.size v.name ofNat default = .ok a ↔
      env.Gives v (fun text a => ∃ n, SpellsNumber text n ∧ a = ofNat n) default a := by
  rw [size, Gives]
  cases env v.name with
  | none => exact ⟨fun same => (Except.ok.inj same).symm, fun same => congrArg Except.ok same.symm⟩
  | some text =>
      simp only [← Text.readWord?_trim_eq_some_iff]
      cases Text.readWord? (Text.trim text) with
      | none => exact iff_of_false nofun fun ⟨_, read, _⟩ => nomatch read
      | some n => simp [eq_comm]

theorem flag_eq_ok_iff : env.flag v.name flag = .ok b ↔ env.Gives v SpellsFlag flag b := by
  rw [Environment.flag, Gives]
  cases env v.name with
  | none => exact ⟨fun same => (Except.ok.inj same).symm, fun same => congrArg Except.ok same.symm⟩
  | some text =>
      simp only [← readFlag?_eq_some_iff]
      cases readFlag? text with
      | none => exact iff_of_false nofun nofun
      | some read => simp

/-- But for its value, a size is read as its variable is checked. -/
theorem size_checked (isSize : v.isSize = true) (ofNat : Nat → α) (default : α) :
    (env.size v.name ofNat default).map (fun _ => ()) = v.check env := by
  rw [size, Variable.check]
  cases env v.name with
  | none => rfl
  | some text =>
      simp only [Variable.reads, Variable.complaint, isSize, if_true]
      cases Text.readWord? (Text.trim text) <;> rfl

theorem flag_checked (isFlag : v.isSize = false) (flag : Bool) :
    (env.flag v.name flag).map (fun _ => ()) = v.check env := by
  rw [Environment.flag, Variable.check]
  cases env v.name with
  | none => rfl
  | some text =>
      simp only [Variable.reads, Variable.complaint, isFlag, Bool.false_eq_true, if_false]
      cases readFlag? text <;> rfl

end Readings

/-! ## Settings -/

/-- The profile that the memory limit stands for. A limit that is not set or spells no number counts as high. -/
inductive Limits (env : Environment) : MemoryProfile → Prop
  | limited {text : String} {limit : Nat} (isSet : env "MEMORY_LIMIT_MB" = some text)
      (spelled : SpellsNumber text limit) : Limits env (.ofMegabytes limit)
  | unlimited (unspelled : ∀ text limit, env "MEMORY_LIMIT_MB" = some text → ¬SpellsNumber text limit) :
      Limits env .high

/-- The settings that an environment asks for. -/
structure Asks (env : Environment) (s : Settings) : Prop where
  sizes : ∃ profile, env.Limits profile ∧ env.Gives .window SpellsNumber profile.sizes.1 s.window ∧
    env.Gives .flushBatch SpellsNumber profile.sizes.2 s.flushBatch
  compressSpill : env.Gives .compressSpill SpellsFlag true s.compressSpill
  styleHeader : env.Gives .styleHeader SpellsFlag true s.styleHeader
  borderData : env.Gives .borderData SpellsFlag true s.borderData
  escapeFormulas : env.Gives .escapeFormulas SpellsFlag true s.escapeFormulas
  recordMetrics : env.Gives .recordMetrics SpellsFlag false s.recordMetrics
  maxRows : env.Gives .maxRows (fun text limit => ∃ n, SpellsNumber text n ∧ limit = some n) none s.maxRows

variable {env : Environment} {s : Settings} {profile : MemoryProfile} {e : ExportError}

theorem limits_iff : env.Limits profile ↔ MemoryProfile.ofEnvironment env = profile := by
  rw [MemoryProfile.ofEnvironment]
  constructor
  · rintro (⟨isSet, spelled⟩ | unspelled)
    · rw [isSet, Option.bind_some, Text.readWord?_trim_eq_some_iff.mpr spelled]
    · cases isSet : env "MEMORY_LIMIT_MB" with
      | none => rfl
      | some text =>
          rw [Option.bind_some]
          cases read : Text.readWord? (Text.trim text) with
          | none => rfl
          | some limit => exact absurd (Text.readWord?_trim_eq_some_iff.mp read) (unspelled text limit isSet)
  · rintro rfl
    cases isSet : env "MEMORY_LIMIT_MB" with
    | none => exact .unlimited fun text limit other => nomatch isSet.symm.trans other
    | some text =>
        rw [Option.bind_some]
        cases read : Text.readWord? (Text.trim text) with
        | none =>
            refine .unlimited fun other limit same spelled => ?_
            cases isSet.symm.trans same
            exact nomatch read.symm.trans (Text.readWord?_trim_eq_some_iff.mpr spelled)
        | some limit => exact .limited isSet (Text.readWord?_trim_eq_some_iff.mp read)

theorem number_eq_ok_iff {v : Variable} {default n : Nat} :
    env.size v.name id default = .ok n ↔ env.Gives v SpellsNumber default n := by
  rw [size_eq_ok_iff, Gives, Gives]
  cases env v.name with
  | none => rfl
  | some text => simp

theorem settings_eq_ok_iff : Settings.ofEnvironment env = .ok s ↔ env.Asks s := by
  simp only [Settings.ofEnvironment, bind_eq_ok_iff]
  constructor
  · intro ⟨_, window, _, flushBatch, _, compressSpill, _, styleHeader, _, borderData, _, escapeFormulas, _,
      recordMetrics, _, maxRows, made⟩
    cases made
    exact {
      sizes := ⟨_, limits_iff.mpr rfl, (@number_eq_ok_iff env .window _ _).mp window,
        (@number_eq_ok_iff env .flushBatch _ _).mp flushBatch⟩
      compressSpill := (@flag_eq_ok_iff env .compressSpill _ _).mp compressSpill
      styleHeader := (@flag_eq_ok_iff env .styleHeader _ _).mp styleHeader
      borderData := (@flag_eq_ok_iff env .borderData _ _).mp borderData
      escapeFormulas := (@flag_eq_ok_iff env .escapeFormulas _ _).mp escapeFormulas
      recordMetrics := (@flag_eq_ok_iff env .recordMetrics _ _).mp recordMetrics
      maxRows := (@size_eq_ok_iff _ env .maxRows _ _ _).mp maxRows }
  · intro asks
    obtain ⟨profile, limits, window, flushBatch⟩ := asks.sizes
    cases limits_iff.mp limits
    exact ⟨_, number_eq_ok_iff.mpr window, _, number_eq_ok_iff.mpr flushBatch, _, flag_eq_ok_iff.mpr asks.compressSpill,
      _, flag_eq_ok_iff.mpr asks.styleHeader, _, flag_eq_ok_iff.mpr asks.borderData,
      _, flag_eq_ok_iff.mpr asks.escapeFormulas, _, flag_eq_ok_iff.mpr asks.recordMetrics,
      _, size_eq_ok_iff.mpr asks.maxRows, rfl⟩

/-- Settings are refused as the checks of the variables are. -/
theorem settings_eq_error_iff : Settings.ofEnvironment env = .error e ↔ Variable.all.forM (·.check env) = .error e := by
  rw [Settings.ofEnvironment, Variable.all]
  simp only [forM_cons]
  -- The readings are made in the order of the checks, and none depends on what an earlier one yields.
  refine bind_eq_error_iff_of_check (@size_checked _ env .window rfl _ _) fun _ => ?_
  refine bind_eq_error_iff_of_check (@size_checked _ env .flushBatch rfl _ _) fun _ => ?_
  refine bind_eq_error_iff_of_check (@flag_checked env .compressSpill rfl _) fun _ => ?_
  refine bind_eq_error_iff_of_check (@flag_checked env .styleHeader rfl _) fun _ => ?_
  refine bind_eq_error_iff_of_check (@flag_checked env .borderData rfl _) fun _ => ?_
  refine bind_eq_error_iff_of_check (@flag_checked env .escapeFormulas rfl _) fun _ => ?_
  refine bind_eq_error_iff_of_check (@flag_checked env .recordMetrics rfl _) fun _ => ?_
  refine bind_eq_error_iff_of_check (@size_checked _ env .maxRows rfl _ _) fun _ => ?_
  exact iff_of_false nofun nofun

/-- The first variable that cannot be read, and its text. -/
def FirstUnreadable (env : Environment) (v : Variable) (text : String) : Prop :=
  ∃ before after, Variable.all = before ++ v :: after ∧ (∀ u ∈ before, env.Readable u) ∧ env v.name = some text ∧
    ¬v.Accepts text

theorem settings_refused_iff :
    Settings.ofEnvironment env = .error e ↔
      ∃ v text, env.FirstUnreadable v text ∧ e = .misconfigured v.name (v.complaint text) := by
  simp only [settings_eq_error_iff, forM_eq_error_iff, check_eq_ok_iff, check_eq_error_iff, FirstUnreadable]
  constructor
  · rintro ⟨before, v, after, split, passed, text, isSet, refused, failure⟩
    exact ⟨v, text, ⟨before, after, split, passed, isSet, refused⟩, failure⟩
  · rintro ⟨v, text, ⟨before, after, split, passed, isSet, refused⟩, failure⟩
    exact ⟨before, v, after, split, passed, text, isSet, refused, failure⟩

/-- Settings are to be had exactly if every variable can be read. -/
theorem exists_asks_iff : (∃ s, env.Asks s) ↔ ∀ v, env.Readable v := by
  have checked : Variable.all.forM (·.check env) = .ok () ↔ ∀ v, env.Readable v := by
    simp only [forM_eq_ok_iff, check_eq_ok_iff]
    exact ⟨fun all v => all v (by cases v <;> decide), fun all v _ => all v⟩
  rw [← checked]
  cases asked : Settings.ofEnvironment env with
  | error e =>
      refine iff_of_false ?_ fun passed => nomatch passed.symm.trans (settings_eq_error_iff.mp asked)
      exact fun ⟨_, asks⟩ => nomatch asked.symm.trans (settings_eq_ok_iff.mpr asks)
  | ok s =>
      refine iff_of_true ⟨s, settings_eq_ok_iff.mp asked⟩ ?_
      cases failed : Variable.all.forM (·.check env) with
      | error e => exact nomatch asked.symm.trans (settings_eq_error_iff.mpr failed)
      | ok => rfl

end Environment

/-! ## Configurations -/

namespace Settings

variable {s : Settings} {c : Config} {size : String} {e : ExportError}

/-- None of the sizes is zero. -/
structure Positive (s : Settings) : Prop where
  window : 0 < s.window
  flushBatch : 0 < s.flushBatch
  maxRows : s.maxRows ≠ some 0

/-- The first size that is zero. -/
inductive FirstZero (s : Settings) : String → Prop
  | window (zero : s.window = 0) : FirstZero s "row_window_size"
  | flushBatch (window_pos : 0 < s.window) (zero : s.flushBatch = 0) : FirstZero s "flush_batch_size"
  | maxRows (window_pos : 0 < s.window) (flushBatch_pos : 0 < s.flushBatch) (zero : s.maxRows = some 0) :
      FirstZero s "max_rows"

theorem positive_or_firstZero (s : Settings) : s.Positive ∨ ∃ size, s.FirstZero size := by
  rcases Nat.eq_zero_or_pos s.window with window | window_pos
  · exact .inr ⟨_, .window window⟩
  rcases Nat.eq_zero_or_pos s.flushBatch with flushBatch | flushBatch_pos
  · exact .inr ⟨_, .flushBatch window_pos flushBatch⟩
  by_cases maxRows : s.maxRows = some 0
  · exact .inr ⟨_, .maxRows window_pos flushBatch_pos maxRows⟩
  · exact .inl ⟨window_pos, flushBatch_pos, maxRows⟩

theorem check_positive (positive : s.Positive) :
    s.check = .ok { s with
      window_pos := positive.window, flushBatch_pos := positive.flushBatch, maxRows_pos := positive.maxRows } := by
  rw [check, dif_pos positive.window, dif_pos positive.flushBatch, dif_pos positive.maxRows]

theorem FirstZero.check (first : s.FirstZero size) : s.check = .error (zeroSize size) := by
  rw [Settings.check]
  cases first with
  | window zero => rw [dif_neg (zero ▸ Nat.lt_irrefl 0)]
  | flushBatch window_pos zero => rw [dif_pos window_pos, dif_neg (zero ▸ Nat.lt_irrefl 0)]
  | maxRows window_pos flushBatch_pos zero =>
      rw [dif_pos window_pos, dif_pos flushBatch_pos, dif_neg (not_not_intro zero)]

theorem check_eq_ok_iff : s.check = .ok c ↔ c.toSettings = s := by
  constructor
  · intro passed
    rcases s.positive_or_firstZero with positive | ⟨size, first⟩
    · cases (check_positive positive).symm.trans passed
      rfl
    · exact nomatch first.check.symm.trans passed
  · rintro rfl
    exact check_positive ⟨c.window_pos, c.flushBatch_pos, c.maxRows_pos⟩

theorem check_eq_error_iff : s.check = .error e ↔ ∃ size, s.FirstZero size ∧ e = zeroSize size := by
  constructor
  · intro refused
    rcases s.positive_or_firstZero with positive | ⟨size, first⟩
    · exact nomatch (check_positive positive).symm.trans refused
    · cases first.check.symm.trans refused
      exact ⟨size, first, rfl⟩
  · rintro ⟨size, first, rfl⟩
    exact first.check

/-- Settings make a configuration exactly if none of their sizes is zero. -/
theorem exists_config_iff : (∃ c : Config, c.toSettings = s) ↔ s.Positive := by
  constructor
  · rintro ⟨c, rfl⟩
    exact ⟨c.window_pos, c.flushBatch_pos, c.maxRows_pos⟩
  · exact fun positive => ⟨_, check_eq_ok_iff.mp (check_positive positive)⟩

end Settings

namespace Environment

variable {env : Environment} {c : Config} {e : ExportError}

theorem config_eq_ok_iff : Config.ofEnvironment env = .ok c ↔ env.Asks c.toSettings := by
  simp only [Config.ofEnvironment, bind_eq_ok_iff, settings_eq_ok_iff, Settings.check_eq_ok_iff, exists_eq_right']

theorem config_eq_error_iff :
    Config.ofEnvironment env = .error e ↔
      (∃ v text, env.FirstUnreadable v text ∧ e = .misconfigured v.name (v.complaint text)) ∨
      ∃ s size, env.Asks s ∧ s.FirstZero size ∧ e = Settings.zeroSize size := by
  simp only [Config.ofEnvironment, bind_eq_error_iff, settings_refused_iff, settings_eq_ok_iff,
    Settings.check_eq_error_iff, exists_and_left]

end Environment

/-- An environment gives the configuration it asks for, if all its variables can be read and no size is zero. Otherwise
    the first variable that cannot be read is reported, or the first size that is zero. Settings that come from
    elsewhere make a configuration under the same condition, so no configuration has batches without rows. -/
theorem config_from_environment (env : Environment) :
    (∀ c, Config.ofEnvironment env = .ok c ↔ env.Asks c.toSettings) ∧
    ((∃ c, Config.ofEnvironment env = .ok c) ↔ (∀ v, env.Readable v) ∧ ∃ s, env.Asks s ∧ s.Positive) ∧
    (∀ e, Config.ofEnvironment env = .error e ↔
      (∃ v text, env.FirstUnreadable v text ∧ e = .misconfigured v.name (v.complaint text)) ∨
      ∃ s size, env.Asks s ∧ s.FirstZero size ∧ e = Settings.zeroSize size) ∧
    (∀ s : Settings, (∃ c, s.check = .ok c ∧ c.toSettings = s) ↔ s.Positive) ∧
    ∀ c : Config, c.Positive ∧ ∀ rows, rows % c.flushBatch < c.flushBatch := by
  refine ⟨fun _ => Environment.config_eq_ok_iff, ?_, fun _ => Environment.config_eq_error_iff, fun s => ?_, fun c => ?_⟩
  · simp only [Environment.config_eq_ok_iff, ← Settings.exists_config_iff, ← Environment.exists_asks_iff]
    constructor
    · exact fun ⟨c, asks⟩ => ⟨⟨_, asks⟩, _, asks, c, rfl⟩
    · rintro ⟨-, _, asks, c, rfl⟩
      exact ⟨c, asks⟩
  · simp only [Settings.check_eq_ok_iff, and_self, Settings.exists_config_iff]
  · exact ⟨Settings.exists_config_iff.mp ⟨c, rfl⟩, fun rows => Nat.mod_lt rows c.flushBatch_pos⟩

/-- A variable that cannot be read is reported before a size that is zero. -/
example :
    Config.ofEnvironment (fun
      | "SHEETSTREAM_ROW_WINDOW_SIZE" => some " +0 "
      | "SHEETSTREAM_MAX_ROWS" => some "all"
      | _ => none) = .error (.misconfigured "SHEETSTREAM_MAX_ROWS" "cannot parse 'all'") :=
  rfl

end SheetExport
