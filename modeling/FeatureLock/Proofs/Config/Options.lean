import FeatureLock.Config.CommandLine
import FeatureLock.Proofs.Lookup
import Mathlib.Data.List.Nodup

/-!
# Command lines that give options

An option may be spelled long or short, with its value attached or as the next word, and
options may be given in any order.  However they are spelled, a command line that gives
each of them at most once is read as the options that it gives.

## Main Definitions

- `CommandLine.Choice`, `CommandLine.Choice.Spelled`: an option with its value, and the
  words that give it
- `CommandLine.Spells`: the words of a list of options
- `CommandLine.valuesOf`, `CommandLine.ofChoices`: the values of options, and the command
  line that they make
- `CommandLine.Scan.Amounts`: what a reading has come to, once the option that was named
  last is settled

Main statements: `CommandLine.Scan.Amounts.spelled`, one option;
`CommandLine.Scan.Amounts.spells`, a list of them; and `CommandLine.read_spells`.
-/

namespace FeatureLock.CommandLine

/-! ### Options and their spellings -/

/-- The long name of an option with a value. -/
def Valued.name : Valued → String
  | config => "config"
  | dbUrl => "db-url"
  | storage => "storage"

/-- An option that is given. -/
inductive Choice where
  | value (o : Valued) (v : String)
  | initSchema
  deriving DecidableEq

namespace Choice

/-- Which option it is: one with a value, or else the switch. -/
def option : Choice → Option Valued
  | value o _ => some o
  | initSchema => none

/-- The option with its value, if it has one. -/
def valued? : Choice → Option (Valued × String)
  | value o v => some (o, v)
  | initSchema => none

/-- **The words that give an option.**  A value that is a word of its own must not look like an
option; one that is attached may be any text. -/
inductive Spelled : Choice → List String → Prop
  | long (o : Valued) (v : String) : Spelled (value o v) ["--" ++ o.name ++ "=" ++ v]
  | longApart (o : Valued) {v : String} :
      v.toList.head? ≠ some '-' → Spelled (value o v) ["--" ++ o.name, v]
  | short {o : Valued} {c : Char} {rest : List Char} {v : String} :
      short? c = some (.value o) → attachedTo rest = some v →
      Spelled (value o v) [String.ofList ('-' :: c :: rest)]
  | shortApart {o : Valued} {c : Char} {v : String} :
      short? c = some (.value o) → v.toList.head? ≠ some '-' →
      Spelled (value o v) [String.ofList ['-', c], v]
  | initSchema : Spelled initSchema ["--init-schema"]

end Choice

/-- **The words that give options**, one after the other. -/
inductive Spells : List Choice → List String → Prop
  | nil : Spells [] []
  | cons {o : Choice} {os : List Choice} {words rest : List String} :
      o.Spelled words → Spells os rest → Spells (o :: os) (words ++ rest)

/-! ### Words -/

theorem Word.ofString_long (o : Valued) (v : String) :
    Word.ofString ("--" ++ o.name ++ "=" ++ v) = .long o.name (some v) := by
  cases o <;> simp [Word.ofString, Valued.name, String.toList_append]

theorem Word.ofString_longApart (o : Valued) :
    Word.ofString ("--" ++ o.name) = .long o.name none := by
  cases o <;> rfl

theorem long?_name (o : Valued) : long? o.name = some (.value o) := by
  cases o <;> rfl

/-- There are two short spellings of options with a value. -/
theorem eq_of_short? {c : Char} {o : Valued} (known : short? c = some (.value o)) :
    c = 'c' ∨ c = 's' := by
  unfold short? at known
  split at known
  · next config => exact .inl config
  · split at known
    · next storage => exact .inr storage
    · split at known <;> cases known

theorem Word.ofString_short {c : Char} {o : Valued} (known : short? c = some (.value o))
    (rest : List Char) : Word.ofString (String.ofList ('-' :: c :: rest)) = .short c rest := by
  rcases eq_of_short? known with rfl | rfl <;> simp [Word.ofString]

theorem Word.ofString_plain {v : String} (plain : v.toList.head? ≠ some '-') :
    Word.ofString v = .plain v := by
  unfold Word.ofString
  split
  · next chars => simp [chars] at plain
  · next chars => simp [chars] at plain
  · next chars => simp [chars] at plain
  · rfl

/-! ### What options give -/

/-- The values of options. -/
def valuesOf (os : List Choice) : List (Valued × String) :=
  os.filterMap Choice.valued?

@[simp] theorem valuesOf_value (o : Valued) (v : String) (os : List Choice) :
    valuesOf (.value o v :: os) = (o, v) :: valuesOf os := rfl

@[simp] theorem valuesOf_initSchema (os : List Choice) :
    valuesOf (.initSchema :: os) = valuesOf os := rfl

/-- An option that is not given has no value. -/
theorem lookup_valuesOf_of_absent {os : List Choice} {o : Valued}
    (absent : ∀ v, .value o v ∉ os) : (valuesOf os).lookup o = none := by
  induction os with
  | nil => rfl
  | cons other os ih =>
    have fewer : ∀ v, .value o v ∉ os := fun v mem => absent v (List.mem_cons_of_mem _ mem)
    cases other with
    | initSchema => exact ih fewer
    | value p w =>
      have unlike : o ≠ p := by
        rintro rfl
        exact absent w List.mem_cons_self
      rw [valuesOf_value, Lookup.lookup_cons, if_neg unlike]
      exact ih fewer

/-- Options that are given once have the values that they are given with. -/
theorem lookup_valuesOf_eq_some_iff {os : List Choice} (once : (os.map Choice.option).Nodup)
    {o : Valued} {v : String} : (valuesOf os).lookup o = some v ↔ .value o v ∈ os := by
  induction os with
  | nil => simp [valuesOf]
  | cons other os ih =>
    rw [List.map_cons, List.nodup_cons] at once
    obtain ⟨new, once⟩ := once
    cases other with
    | initSchema => simpa using ih once
    | value p w =>
      rw [valuesOf_value, Lookup.lookup_cons, List.mem_cons, Choice.value.injEq]
      by_cases same : o = p
      · subst same
        have elsewhere : Choice.value o v ∉ os := fun there =>
          new (List.mem_map.mpr ⟨_, there, rfl⟩)
        simp [elsewhere, eq_comm]
      · simpa [same] using ih once

theorem lookup_valuesOf_of_mem {os : List Choice} (once : (os.map Choice.option).Nodup)
    {o : Valued} {v : String} (mem : .value o v ∈ os) : (valuesOf os).lookup o = some v :=
  (lookup_valuesOf_eq_some_iff once).mpr mem

/-- It does not matter in which order options are given. -/
theorem lookup_valuesOf_reverse {os : List Choice} (once : (os.map Choice.option).Nodup)
    (o : Valued) :
    (valuesOf os.reverse).lookup o = (valuesOf os).lookup o := by
  have once' : (os.reverse.map Choice.option).Nodup := by
    rw [List.map_reverse, List.nodup_reverse]
    exact once
  ext v
  rw [lookup_valuesOf_eq_some_iff once', lookup_valuesOf_eq_some_iff once, List.mem_reverse]

/-- The command line that options make.  Where no database address is given, the variable
`DATABASE_URL` gives it. -/
def ofChoices (env : Environment) (os : List Choice) : CommandLine where
  configFile := ((valuesOf os).lookup .config).getD defaultConfigFile
  dbUrl := ((valuesOf os).lookup .dbUrl).or (env.get? "DATABASE_URL")
  storage := (valuesOf os).lookup .storage
  initSchema := .initSchema ∈ os

namespace Scan

variable {s t : Scan} {o : Valued} {v : String}

/-! ### Reading a word -/

/-- The long spelling with its value. -/
theorem word_long (more : s.ended = false) (settled : s.settle = .ok t) :
    s.word ("--" ++ o.name ++ "=" ++ v) = t.give o v := by
  simp only [word, more, Word.ofString_long, long?_name, ask, settled]
  rfl

/-- The short spelling with its value. -/
theorem word_short {c : Char} {rest : List Char} (more : s.ended = false)
    (settled : s.settle = .ok t) (known : short? c = some (.value o))
    (attached : attachedTo rest = some v) :
    s.word (String.ofList ('-' :: c :: rest)) = t.give o v := by
  simp only [word, more, Word.ofString_short known, known, attached, ask, settled]
  rfl

/-- The long spelling, whose value is the next word. -/
theorem word_longApart (more : s.ended = false) (settled : s.settle = .ok t) :
    s.word ("--" ++ o.name) = .ok { t with pending := some (o, none) } := by
  simp only [word, more, Word.ofString_longApart, long?_name, ask, settled]
  rfl

/-- The short spelling, whose value is the next word. -/
theorem word_shortApart {c : Char} (more : s.ended = false) (settled : s.settle = .ok t)
    (known : short? c = some (.value o)) :
    s.word (String.ofList ['-', c]) = .ok { t with pending := some (o, none) } := by
  simp only [word, more, Word.ofString_short known, known, attachedTo, ask, settled]
  rfl

/-- The value of the option that was named before. -/
theorem word_plain (more : s.ended = false) (waiting : s.pending = some (o, none))
    (plain : v.toList.head? ≠ some '-') :
    s.word v = .ok { s with pending := some (o, some v) } := by
  simp only [word, more, Word.ofString_plain plain, waiting]
  rfl

/-- The switch. -/
theorem word_initSchema (more : s.ended = false) (settled : s.settle = .ok t)
    (off : t.initSchema = false) :
    s.word "--init-schema" = .ok { t with initSchema := true } := by
  have kind : Word.ofString "--init-schema" = .long "init-schema" none := rfl
  have known : long? "init-schema" = some .initSchema := rfl
  simp only [word, more, kind, known, ask, settled]
  simp only [bind, Except.bind, off]
  rfl

/-! ### Reading options -/

/-- The reading that has come to options, the latest first. -/
def of (os : List Choice) : Scan :=
  ⟨valuesOf os, .initSchema ∈ os, none, false⟩

/-- **A reading that amounts to options** once the one that was named last is settled; more may
come. -/
def Amounts (s : Scan) (os : List Choice) : Prop :=
  s.ended = false ∧ s.settle = .ok (of os)

theorem Amounts.of (os : List Choice) : (of os).Amounts os :=
  ⟨rfl, rfl⟩

theorem give_of {os : List Choice} (new : some o ∉ os.map Choice.option) :
    (Scan.of os).give o v = .ok (Scan.of (.value o v :: os)) := by
  have free : (Scan.of os).given.lookup o = none :=
    lookup_valuesOf_of_absent fun v mem => new (List.mem_map.mpr ⟨_, mem, rfl⟩)
  rw [give, free]
  simp [Scan.of]

/-- An option whose value was the last word is settled by what comes after it. -/
theorem Amounts.waiting {os : List Choice} (new : some o ∉ os.map Choice.option) :
    ({ Scan.of os with pending := some (o, some v) } : Scan).Amounts (.value o v :: os) :=
  ⟨rfl, give_of new⟩

/-- **One option.**  The words that give an option which was not given before add it to what the
reading amounts to. -/
theorem Amounts.spelled {os : List Choice} {c : Choice} {words : List String}
    (sofar : s.Amounts os) (given : c.Spelled words) (new : c.option ∉ os.map Choice.option) :
    ∃ s', words.foldlM word s = .ok s' ∧ s'.Amounts (c :: os) := by
  obtain ⟨more, settled⟩ := sofar
  -- a value that is a word of its own is left to be settled, any other one is given at once
  cases given with
  | long o v =>
    refine ⟨_, ?_, Amounts.of _⟩
    rw [List.foldlM_cons, word_long more settled, give_of new]
    rfl
  | longApart o plain =>
    refine ⟨_, ?_, Amounts.waiting new⟩
    rw [List.foldlM_cons, word_longApart more settled]
    show List.foldlM word _ [_] = _
    rw [List.foldlM_cons, word_plain rfl rfl plain]
    rfl
  | short known attached =>
    refine ⟨_, ?_, Amounts.of _⟩
    rw [List.foldlM_cons, word_short more settled known attached, give_of new]
    rfl
  | shortApart known plain =>
    refine ⟨_, ?_, Amounts.waiting new⟩
    rw [List.foldlM_cons, word_shortApart more settled known]
    show List.foldlM word _ [_] = _
    rw [List.foldlM_cons, word_plain rfl rfl plain]
    rfl
  | initSchema =>
    have off : (Scan.of os).initSchema = false :=
      decide_eq_false fun there => new (List.mem_map_of_mem there)
    refine ⟨_, ?_, Amounts.of _⟩
    rw [List.foldlM_cons, word_initSchema more settled off]
    simp [Scan.of]

/-- **A list of options**, none of them given before. -/
theorem Amounts.spells {os done : List Choice} {words : List String} (spelled : Spells os words)
    (sofar : s.Amounts done) (once : ((os.reverse ++ done).map Choice.option).Nodup) :
    ∃ s', words.foldlM word s = .ok s' ∧ s'.Amounts (os.reverse ++ done) := by
  induction spelled generalizing s done with
  | nil => exact ⟨s, rfl, sofar⟩
  | @cons o os words rest first _ ih =>
    rw [List.reverse_cons, List.append_assoc, List.singleton_append] at once ⊢
    have new : o.option ∉ done.map Choice.option := by
      rw [List.map_append, List.map_cons] at once
      exact (List.nodup_cons.mp once.of_append_right).1
    obtain ⟨s', read, amounts⟩ := sofar.spelled first new
    obtain ⟨s'', rest, amounts⟩ := ih amounts once
    refine ⟨s'', ?_, amounts⟩
    rw [List.foldlM_append, read]
    exact rest

end Scan

/-- **A command line is read as the options that its words give**, when it gives each of them at
most once. -/
theorem read_spells {os : List Choice} {words : List String} (spelled : Spells os words)
    (once : (os.map Choice.option).Nodup) (env : Environment) :
    read env words = .ok (ofChoices env os) := by
  have back : ((os.reverse ++ []).map Choice.option).Nodup := by
    rw [List.append_nil, List.map_reverse, List.nodup_reverse]
    exact once
  obtain ⟨s, run, amounts⟩ := Scan.Amounts.spells spelled (Scan.Amounts.of []) back
  rw [List.append_nil] at amounts
  have start : Scan.start = Scan.of [] := rfl
  simp only [read, start, run, amounts.2, bind, Except.bind, pure, Except.pure]
  simp only [Scan.of, lookup_valuesOf_reverse once, List.mem_reverse]
  rfl

end FeatureLock.CommandLine
