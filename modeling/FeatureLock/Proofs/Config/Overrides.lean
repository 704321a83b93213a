import FeatureLock.Config.Configuration
import FeatureLock.Proofs.Config.Options
import FeatureLock.Proofs.Config.Overlay
import FeatureLock.Proofs.Lookup

/-!
# Settings of the command line

The options of a command line are laid over what the file and the variables set.  What an
option sets is then read back as it was given, whatever stood at its place or on the way to
it, and nothing else changes.

## Main Definitions

- `Environment.without`: the variables but one
- `Configuration.below`, `Configuration.laid`: the settings of the file and the variables, and
  values that are laid over them
- `Configuration.Loads`: the configuration that a host comes to
- `Configuration.OverriddenBy`: what options make of a configuration

Main statements: `Configuration.get?_ofLayers_of_override` and
`Configuration.get?_ofLayers_of_apart`, what stands at a path under the overrides, and
`command_line_settings_win`.
-/

namespace FeatureLock

/-! ### Variables -/

namespace Environment

variable {env : Environment} {name : String}

/-- The variables but one. -/
def without (env : Environment) (name : String) : Environment :=
  env.filter fun e => e.1 ≠ name

/-- The variable that was left out has no value; the others keep theirs. -/
theorem get?_without (other : String) :
    (env.without name).get? other = if other = name then none else env.get? other := by
  unfold get? without
  rw [Lookup.lookup_filter fun n => decide (n ≠ name)]
  simp

/-- A variable that is no setting does not count among the settings. -/
theorem layer_without (plain : keyOf? name = none) : (env.without name).layer = env.layer := by
  unfold layer without
  rw [List.filterMap_filter]
  congr 1
  funext e
  by_cases here : e.1 = name
  · simp [here, plain]
  · simp [here]

end Environment

namespace Configuration

variable {file : Entries} {env : Environment} {cl : CommandLine} {p : Path} {v : Value}

/-! ### What stands under the overrides -/

/-- The settings of the file and the variables. -/
def below (file : Entries) (env : Environment) : Value :=
  addLayer (addLayer (.table []) file) env.layer

/-- Values that are laid over one after the other. -/
def laid (tree : Value) (os : List (Path × Value)) : Value :=
  os.foldl (fun tree o => tree.overlay o.1 o.2) tree

theorem tree_ofLayers : (ofLayers file env cl).tree = laid (below file env) (overrides cl) := rfl

/-- **A path apart from all that is laid over leads to what it led to before.** -/
theorem get?_laid_of_apart {os : List (Path × Value)} (apart : ∀ o ∈ os, o.1.Apart p)
    (tree : Value) : (laid tree os).get? p = tree.get? p := by
  induction os generalizing tree with
  | nil => rfl
  | cons o os ih =>
    rw [List.forall_mem_cons] at apart
    rw [laid, List.foldl_cons, ← laid, ih apart.2, Value.get?_overlay_of_apart apart.1]

/-- **What is laid over stands at its path**, when it is no table and nothing else touches it. -/
theorem get?_laid_of_mem {os : List (Path × Value)} (other : ∀ es, v ≠ .table es)
    (apart : os.Pairwise fun o o' => o'.1.Apart o.1) (mem : (p, v) ∈ os) (tree : Value) :
    (laid tree os).get? p = some v := by
  induction os generalizing tree with
  | nil => cases mem
  | cons o os ih =>
    rw [List.pairwise_cons] at apart
    rw [laid, List.foldl_cons, ← laid]
    rcases List.mem_cons.mp mem with rfl | mem
    · rw [get?_laid_of_apart apart.1, Value.get?_overlay_self other]
    · exact ih apart.2 mem _

theorem mem_overrides {o : Path × Value} :
    o ∈ overrides cl ↔
      (∃ s, cl.dbUrl = some s ∧ o = (dbUrlPath, .text s)) ∨
      (∃ s, cl.storage = some s ∧ o = (storagePath, .text s)) ∨
      cl.initSchema = true ∧ o = (initSchemaPath, .bool true) := by
  have switch : o ∈ (if cl.initSchema then [(initSchemaPath, Value.bool true)] else []) ↔
      cl.initSchema = true ∧ o = (initSchemaPath, .bool true) := by
    cases cl.initSchema <;> simp
  simp only [overrides, List.mem_append, switch, Option.mem_toList, Option.map_eq_some_iff,
    @eq_comm _ _ o, or_assoc]

/-- The places of overrides are apart. -/
theorem pairwise_overrides (cl : CommandLine) :
    (overrides cl).Pairwise fun o o' => o'.1.Apart o.1 := by
  have url_storage : storagePath.Apart dbUrlPath := by decide
  have url_init : initSchemaPath.Apart dbUrlPath := by decide
  have storage_init : initSchemaPath.Apart storagePath := by decide
  obtain ⟨config, url | url, storage | storage, init | init⟩ := cl <;>
    simp [overrides, url_storage, url_init, storage_init]

/-- No override lays a table over. -/
theorem not_table_of_override (mem : (p, v) ∈ overrides cl) (es : Entries) : v ≠ .table es := by
  rintro rfl
  simp [mem_overrides] at mem

/-- **An override stands at its path**, whatever the file and the variables have there or on the
way to it. -/
theorem get?_ofLayers_of_override (mem : (p, v) ∈ overrides cl) :
    (ofLayers file env cl).tree.get? p = some v := by
  rw [tree_ofLayers]
  exact get?_laid_of_mem (not_table_of_override mem) (pairwise_overrides cl) mem _

/-- **A path apart from the overrides leads to what the file and the variables have there.** -/
theorem get?_ofLayers_of_apart (url : cl.dbUrl = none ∨ dbUrlPath.Apart p)
    (storage : cl.storage = none ∨ storagePath.Apart p)
    (init : cl.initSchema = false ∨ initSchemaPath.Apart p) :
    (ofLayers file env cl).tree.get? p = (below file env).get? p := by
  rw [tree_ofLayers]
  refine get?_laid_of_apart (fun o mem => ?_) _
  rcases mem_overrides.mp mem with ⟨s, given, rfl⟩ | ⟨s, given, rfl⟩ | ⟨given, rfl⟩
  · exact url.resolve_left (by simp [given])
  · exact storage.resolve_left (by simp [given])
  · exact init.resolve_left (by simp [given])

/-! ### Settings of the same values -/

section Same

variable {c c₀ : Configuration}

theorem text_congr (same : c.tree.get? p = c₀.tree.get? p) : c.text p = c₀.text p := by
  unfold text Value.setting
  rw [same]

theorem int?_congr (same : c.tree.get? p = c₀.tree.get? p) : c.int? p = c₀.int? p := by
  unfold int?
  rw [same]

theorem flag_congr (same : c.tree.get? p = c₀.tree.get? p) (default : Bool) :
    c.flag p default = c₀.flag p default := by
  unfold flag
  rw [same]

theorem count_congr (same : c.tree.get? p = c₀.tree.get? p) (bound default : Nat) :
    c.count p bound default = c₀.count p bound default := by
  unfold count
  rw [int?_congr same]

theorem storageMode_congr (same : c.tree.get? storagePath = c₀.tree.get? storagePath) :
    c.storageMode = c₀.storageMode := by
  unfold storageMode
  rw [text_congr same]

theorem defaultLock_congr (same : c.tree.get? defaultLockPath = c₀.tree.get? defaultLockPath) :
    c.defaultLock = c₀.defaultLock := by
  unfold defaultLock
  rw [int?_congr same]

theorem reasonCatalog_congr (same : c.tree.get? reasonsPath = c₀.tree.get? reasonsPath) :
    c.reasonCatalog = c₀.reasonCatalog := by
  unfold reasonCatalog
  rw [same]

/-- The log plan reads the settings of logs, and variables for the directory. -/
theorem logPlan_congr
    (same : ∀ name, c.tree.get? (.ofNames ["featgate", "logs", name]) =
      c₀.tree.get? (.ofNames ["featgate", "logs", name]))
    (dir : defaultLogDir c.env = defaultLogDir c₀.env) : c.logPlan = c₀.logPlan := by
  unfold logPlan
  simp only [text_congr (same _), flag_congr (same _), dir]

theorem pool_congr (same : ∀ name, c.tree.get? (poolPath name) = c₀.tree.get? (poolPath name)) :
    c.pool = c₀.pool := by
  unfold pool
  simp only [count_congr (same _)]

end Same

/-! ### Texts that were given -/

/-- The storage mode that a text names, or its refusal. -/
def modeOf (s : String) : Except SettingFault StorageMode :=
  match StorageMode.read? s with
  | some m => .ok m
  | none => .error (.message (StorageMode.invalidMessage s))

theorem text_of_get? {c : Configuration} {s : String} (there : c.tree.get? p = some (.text s)) :
    c.text p = .ok s := by
  unfold text Value.setting
  rw [there]
  rfl

theorem storageMode_of_text {c : Configuration} {s : String} (there : c.text storagePath = .ok s) :
    c.storageMode = modeOf s := by
  cases mode : StorageMode.read? s with
  | none => simp only [storageMode, modeOf, there, mode]
  | some m => simp only [storageMode, modeOf, there, mode]

theorem flag_of_get? {c : Configuration} {b default : Bool}
    (there : c.tree.get? p = some (.bool b)) : c.flag p default = b := by
  unfold flag
  rw [there]
  rfl

/-! ### Loading -/

/-- The settings of a configuration file; one that is not there has none. -/
def settings? : Option Source → Option Entries
  | none => some []
  | some source => source.entries?

theorem load_eq_ok_iff {source : Option Source} {c : Configuration} :
    load cl env source = .ok c ↔
      ∃ file, settings? source = some file ∧ ofLayers file env cl = c := by
  cases source with
  | none => simp [load, settings?]
  | some source =>
    cases found : source.entries? with
    | none => simp [load, settings?, found]
    | some file => simp [load, settings?, found]

/-- **The configuration that a host comes to**, from its command line, its variables and the
configuration files by their paths. -/
def Loads (words : List String) (env : Environment) (files : String → Option Source)
    (c : Configuration) : Prop :=
  ∃ cl, CommandLine.read env words = .ok cl ∧ load cl env (files cl.configFile) = .ok c

/-! ### What options make of a configuration -/

open CommandLine (Choice Spells)

/-- **What options make of a configuration**: the settings that they give are as given, and every
other one is as before. -/
structure OverriddenBy (c₀ : Configuration) (os : List Choice) (env : Environment)
    (c : Configuration) : Prop where
  dbUrl : ∀ url, .value .dbUrl url ∈ os → c.dbUrl = .ok url
  /-- where no option gives the address, the variable does -/
  dbUrl_variable : (∀ url, .value .dbUrl url ∉ os) →
    ∀ url, env.get? "DATABASE_URL" = some url → c.dbUrl = .ok url
  dbUrl_kept : (∀ url, .value .dbUrl url ∉ os) → env.get? "DATABASE_URL" = none →
    c.dbUrl = c₀.dbUrl
  storageMode : ∀ s, .value .storage s ∈ os → c.storageMode = modeOf s
  storageMode_kept : (∀ s, .value .storage s ∉ os) → c.storageMode = c₀.storageMode
  initSchema : .initSchema ∈ os → c.initSchema = true
  initSchema_kept : .initSchema ∉ os → c.initSchema = c₀.initSchema
  defaultLock : c.defaultLock = c₀.defaultLock
  reasonCatalog : c.reasonCatalog = c₀.reasonCatalog
  logPlan : c.logPlan = c₀.logPlan
  pool : c.pool = c₀.pool
  /-- also what no setting of the host reads is as before -/
  elsewhere : ∀ p, dbUrlPath.Apart p → storagePath.Apart p → initSchemaPath.Apart p →
    c.tree.get? p = c₀.tree.get? p

/-- The configuration without overrides. -/
theorem get?_ofLayers_bare (config : String) (p : Path) :
    (ofLayers file (env.without "DATABASE_URL") ⟨config, none, none, false⟩).tree.get? p =
      (below file env).get? p := by
  have plain : Environment.keyOf? "DATABASE_URL" = none := by decide
  rw [get?_ofLayers_of_apart (.inl rfl) (.inl rfl) (.inl rfl), below, below,
    Environment.layer_without plain]

theorem defaultLogDir_without : defaultLogDir (env.without "DATABASE_URL") = defaultLogDir env := by
  unfold defaultLogDir
  rw [Environment.get?_without, Environment.get?_without, if_neg (by decide), if_neg (by decide)]

section Layers

variable {os : List Choice}

/-- **Layers under options and layers without them**, setting by setting: one that is given is what
stands at its path, and any other one is apart from all that is given. -/
theorem overriddenBy_ofLayers (once : (os.map Choice.option).Nodup) (file : Entries)
    (env : Environment) (config : String) :
    (ofLayers file (env.without "DATABASE_URL") ⟨config, none, none, false⟩).OverriddenBy os env
      (ofLayers file env (CommandLine.ofChoices env os)) := by
  have elsewhere : ∀ p, dbUrlPath.Apart p → storagePath.Apart p → initSchemaPath.Apart p →
      (ofLayers file env (CommandLine.ofChoices env os)).tree.get? p =
        (ofLayers file (env.without "DATABASE_URL") ⟨config, none, none, false⟩).tree.get? p := by
    intro p url storage init
    rw [get?_ofLayers_bare, get?_ofLayers_of_apart (.inr url) (.inr storage) (.inr init)]
  constructor
  case elsewhere => exact elsewhere
  case dbUrl =>
    intro url mem
    refine text_of_get? (get?_ofLayers_of_override (mem_overrides.mpr (.inl ⟨url, ?_, rfl⟩)))
    simp [CommandLine.ofChoices, CommandLine.lookup_valuesOf_of_mem once mem]
  case dbUrl_variable =>
    intro absent url exported
    refine text_of_get? (get?_ofLayers_of_override (mem_overrides.mpr (.inl ⟨url, ?_, rfl⟩)))
    simp [CommandLine.ofChoices, CommandLine.lookup_valuesOf_of_absent absent, exported]
  case dbUrl_kept =>
    intro absent missing
    refine text_congr ?_
    rw [get?_ofLayers_bare, get?_ofLayers_of_apart (.inl ?_) (.inr (by decide)) (.inr (by decide))]
    simp [CommandLine.ofChoices, CommandLine.lookup_valuesOf_of_absent absent, missing]
  case storageMode =>
    intro s mem
    refine storageMode_of_text (text_of_get? (get?_ofLayers_of_override
      (mem_overrides.mpr (.inr (.inl ⟨s, ?_, rfl⟩)))))
    exact CommandLine.lookup_valuesOf_of_mem once mem
  case storageMode_kept =>
    intro absent
    refine storageMode_congr ?_
    rw [get?_ofLayers_bare, get?_ofLayers_of_apart (.inr (by decide)) (.inl ?_) (.inr (by decide))]
    exact CommandLine.lookup_valuesOf_of_absent absent
  case initSchema =>
    intro mem
    refine flag_of_get? (get?_ofLayers_of_override (mem_overrides.mpr (.inr (.inr ⟨?_, rfl⟩))))
    exact decide_eq_true mem
  case initSchema_kept =>
    intro absent
    refine flag_congr ?_ false
    rw [get?_ofLayers_bare, get?_ofLayers_of_apart (.inr (by decide)) (.inr (by decide)) (.inl ?_)]
    exact decide_eq_false absent
  case defaultLock => exact defaultLock_congr (elsewhere _ (by decide) (by decide) (by decide))
  case reasonCatalog => exact reasonCatalog_congr (elsewhere _ (by decide) (by decide) (by decide))
  case logPlan =>
    refine logPlan_congr (fun name => elsewhere _ (.parts (by decide)) ?_ ?_)
      defaultLogDir_without.symm
    · exact .step (.parts (by decide))
    · exact .step (.parts (by decide))
  case pool =>
    refine pool_congr fun name => elsewhere _ ?_ (.parts (by decide)) (.parts (by decide))
    exact .step (.parts (by decide))

/-- The options for the configuration file are left, when the others are left out. -/
theorem ofChoices_bare (once : (os.map Choice.option).Nodup) (env : Environment) :
    CommandLine.ofChoices (env.without "DATABASE_URL")
        (os.filter fun o => o.option = some .config) =
      ⟨(CommandLine.ofChoices env os).configFile, none, none, false⟩ := by
  have once' : ((os.filter fun o => o.option = some .config).map Choice.option).Nodup :=
    once.sublist (List.filter_sublist.map _)
  have config : (CommandLine.valuesOf (os.filter fun o => o.option = some .config)).lookup .config =
      (CommandLine.valuesOf os).lookup .config := by
    ext v
    rw [CommandLine.lookup_valuesOf_eq_some_iff once', CommandLine.lookup_valuesOf_eq_some_iff once]
    simp [Choice.option]
  have none_left : ∀ o ≠ .config,
      (CommandLine.valuesOf (os.filter fun o => o.option = some .config)).lookup o = none := by
    intro o other
    refine CommandLine.lookup_valuesOf_of_absent fun v mem => other ?_
    simpa [Choice.option] using (List.mem_filter.mp mem).2
  have off : Choice.initSchema ∉ os.filter fun o => o.option = some .config := by
    simp [Choice.option]
  simp only [CommandLine.ofChoices, config, none_left .dbUrl nofun, none_left .storage nofun,
    Environment.get?_without, off]
  rfl

/-- **A host comes to the layers of its options** over the settings of its configuration file, if
that can be read. -/
theorem loads_iff {words : List String} {files : String → Option Source} {c : Configuration}
    (spelled : Spells os words) (once : (os.map Choice.option).Nodup) :
    Loads words env files c ↔
      ∃ file, settings? (files (CommandLine.ofChoices env os).configFile) = some file ∧
        ofLayers file env (CommandLine.ofChoices env os) = c := by
  unfold Loads
  rw [CommandLine.read_spells spelled once env]
  simp only [Except.ok.injEq, exists_eq_left', load_eq_ok_iff]

end Layers

end Configuration

open CommandLine in
/-- **The settings of the command line win and touch nothing else.**  Options of any texts, each at
most once and spelled in any way, do not decide whether a configuration is loaded.  What they set is
read back as it was given, and everything else is as it is without them: with the options for the
configuration file alone, and without the variable for the database address. -/
theorem command_line_settings_win {os : List Choice} {words bare : List String}
    (spelled : Spells os words) (once : (os.map Choice.option).Nodup)
    (rest : Spells (os.filter fun o => o.option = some .config) bare) (env : Environment)
    (files : String → Option Source) :
    ((∃ c, Configuration.Loads words env files c) ↔
      ∃ c₀, Configuration.Loads bare (env.without "DATABASE_URL") files c₀) ∧
    ∀ c c₀, Configuration.Loads words env files c →
      Configuration.Loads bare (env.without "DATABASE_URL") files c₀ →
      c₀.OverriddenBy os env c := by
  have once' : ((os.filter fun o => o.option = some .config).map Choice.option).Nodup :=
    once.sublist (List.filter_sublist.map _)
  simp only [Configuration.loads_iff spelled once, Configuration.loads_iff rest once',
    Configuration.ofChoices_bare once]
  constructor
  · -- both read the same file, and whether it can be read is all that counts
    constructor
    · rintro ⟨_, file, found, -⟩
      exact ⟨_, file, found, rfl⟩
    · rintro ⟨_, file, found, -⟩
      exact ⟨_, file, found, rfl⟩
  · rintro c c₀ ⟨file, found, rfl⟩ ⟨file', found', rfl⟩
    obtain rfl : file = file' := Option.some.inj (found.symm.trans found')
    exact Configuration.overriddenBy_ofLayers once file env _

open CommandLine in
/-- Options of all spellings, over a variable that makes the table of the database a number. -/
theorem settings_win_over_scalar_ancestor :
    let os : List Choice := [.value .dbUrl "sqlite::memory:", .value .storage "mem", .initSchema,
      .value .config "lock.json"]
    let words := ["--db-url=sqlite::memory:", "-s", "mem", "--init-schema", "-clock.json"]
    let env : Environment := [("FEATGATE_DB", "7"), ("DATABASE_URL", "sqlite:other.db")]
    ∃ c c₀, Configuration.Loads words env (fun _ => none) c ∧
      Configuration.Loads ["-clock.json"] (env.without "DATABASE_URL") (fun _ => none) c₀ ∧
      c₀.OverriddenBy os env c := by
  intro os words env
  have spelled : Spells os words :=
    .cons (.long .dbUrl "sqlite::memory:") (.cons (.shortApart rfl (by decide))
      (.cons .initSchema (.cons (.short rfl rfl) .nil)))
  have rest : Spells [.value .config "lock.json"] ["-clock.json"] :=
    .cons (.short rfl rfl) .nil
  have once : (os.map Choice.option).Nodup := by decide
  have given : Configuration.Loads words env (fun _ => none) _ :=
    (Configuration.loads_iff spelled once).mpr ⟨[], rfl, rfl⟩
  have bare : Configuration.Loads ["-clock.json"] (env.without "DATABASE_URL") (fun _ => none) _ :=
    (Configuration.loads_iff rest (by decide)).mpr ⟨[], rfl, rfl⟩
  obtain ⟨-, overridden⟩ := command_line_settings_win spelled once rest env fun _ => none
  exact ⟨_, _, given, bare, overridden _ _ given bare⟩

end FeatureLock
