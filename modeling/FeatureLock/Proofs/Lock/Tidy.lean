import FeatureLock.Proofs.Lock.Calls
import FeatureLock.Proofs.Lock.Granularity
import FeatureLock.Proofs.Lock.Resolution

/-!
# What the service writes is tidy

Nothing in the type of features ties the deadline and the reasons to the flag, or the
messages to the codes.  The service does: whatever it stores is tidy, and so is
whatever it reports, as long as nobody else writes to the store.

## Main Definitions

- `LockReasons.IsTidy`, `Feature.IsTidy`, `Reply.IsTidy`: codes that are trimmed and
  not repeated, each with its message; features that hold no trace of a lock when they
  are open; replies made of such features
- `Store.features?`, `Store.IsTidy`: the features of all rows, and a store in which
  they are tidy and no two have one key
- `Catalog.tidily`, `Catalog.tidyRows`: the contracts of operations that write only
  what is tidy, for calls and for statements

Main statements: `LockReasons.isTidy_of_resolve`, what a catalog makes of any codes;
and `stored_features_stay_tidy`, every state of every run.
-/

namespace FeatureLock

/-! ### Tidy features -/

/-- **Reasons as a lock stores them**: codes without white space around them, none of them blank,
too long or repeated, and at the position of each code its message. -/
structure LockReasons.IsTidy (cat : Catalog) (r : LockReasons) : Prop where
  code : ∀ code ∈ r.codes,
    Text.trim code = code ∧ ¬ Text.IsBlank code ∧ code.length ≤ maxPartLength
  distinct : r.codes.Nodup
  message : r.reasons = r.codes.map cat.describe

/-- **A feature as the service stores it**: under a key that is accepted, with tidy reasons, and
without a deadline and reasons when it is open. -/
structure Feature.IsTidy (cat : Catalog) (f : Feature) : Prop where
  key : f.key.validate = .ok ()
  whenOpen : f.locked = false → f.unlockTime = noDeadline ∧ f.codes = [] ∧ f.reasons = []
  reasons : f.lockReasons.IsTidy cat

namespace LockReasons

variable {cat : Catalog} {r : LockReasons}

theorem isTidy_empty (cat : Catalog) : empty.IsTidy cat where
  code := fun _ mem => absurd mem List.not_mem_nil
  distinct := List.nodup_nil
  message := rfl

namespace IsTidy

theorem length_eq (h : r.IsTidy cat) : r.codes.length = r.reasons.length := by
  rw [h.message, List.length_map]

/-- The pairs of codes and messages leave out nothing. -/
theorem unzip_pairs (h : r.IsTidy cat) : r.pairs.unzip = (r.codes, r.reasons) :=
  List.unzip_zip h.length_eq

end IsTidy

/-- **Whatever codes a catalog resolves, the reasons are tidy.** -/
theorem isTidy_of_resolve {codes : List String} (resolved : cat.resolve codes = .ok r) :
    r.IsTidy cat := by
  obtain ⟨passes, rfl⟩ := Catalog.resolve_eq_ok_iff.mp resolved
  have first := FirstOccurrences.eraseDups (codes.map Text.trim)
  refine ⟨fun x mem => ?_, first.distinct, rfl⟩
  obtain ⟨code, held, rfl⟩ := List.mem_map.mp ((first.mem_iff x).mp mem)
  have accepted := Catalog.checkPart_reasonCode_eq_ok_iff.mp
    (Catalog.checkCodes_eq_ok_iff.mp passes code held)
  obtain ⟨filled, short⟩ := not_or.mp accepted
  refine ⟨Text.trim_trim code, fun blank => filled ?_, Nat.le_of_not_lt short⟩
  rw [← Text.trim_trim code]
  exact Text.trim_eq_empty_iff.mpr blank

end LockReasons

namespace Feature

variable {cat : Catalog} {f : Feature}

theorem isTidy_fresh (cat : Catalog) {k : Key} (valid : k.validate = .ok ()) :
    (fresh k).IsTidy cat where
  key := valid
  whenOpen := fun _ => ⟨rfl, rfl, rfl⟩
  reasons := LockReasons.isTidy_empty cat

theorem IsTidy.unlocked (h : f.IsTidy cat) : f.unlocked.IsTidy cat :=
  isTidy_fresh cat h.key

/-- Whatever a lock leaves behind is tidy. -/
theorem isTidy_of_locksAs {s : Service} {k : Key} {codes : List String}
    (locks : s.LocksAs k codes f) : f.IsTidy s.catalog := by
  obtain ⟨valid, reasons, resolved, t, rfl⟩ := locks
  exact ⟨valid, fun isOpen => absurd isOpen (by simp), LockReasons.isTidy_of_resolve resolved⟩

end Feature

/-- A reply that is made of tidy features.  The pairs that its reasons make leave out no code and no
message. -/
def Reply.IsTidy (cat : Catalog) : Reply → Prop
  | feature f => f.IsTidy cat ∧ f.lockReasons.pairs.unzip = (f.codes, f.reasons)
  | reasons r => r.IsTidy cat ∧ r.pairs.unzip = (r.codes, r.reasons)
  | flag _ => True
  | deleted => True

theorem Reply.isTidy_feature {cat : Catalog} {f : Feature} (h : f.IsTidy cat) :
    (feature f).IsTidy cat :=
  ⟨h, h.reasons.unzip_pairs⟩

/-- A report on a tidy feature is tidy. -/
theorem Feature.IsTidy.report {cat : Catalog} {f : Feature} (h : f.IsTidy cat) (c : Command) :
    (c.report f).IsTidy cat := by
  cases c with
  | isLocked k => trivial
  | lockReasons k => exact ⟨h.reasons, h.reasons.unzip_pairs⟩
  | _ => exact Reply.isTidy_feature h

/-- Where searches find what is tidy, replies are tidy. -/
theorem Service.MayReply.isTidy {s : Service} {stored : Feature → Prop} {c : Command}
    {reply : Reply}
    (h : s.MayReply (·.IsTidy s.catalog) stored c reply) : reply.IsTidy s.catalog := by
  cases h with
  | add valid => exact Reply.isTidy_feature (Feature.isTidy_fresh _ valid)
  | found _ _ holds => exact holds.report c
  | released _ _ holds => exact holds.unlocked.report c
  | lock locks => exact Reply.isTidy_feature (Feature.isTidy_of_locksAs locks)
  | lockForDefault locks => exact Reply.isTidy_feature (Feature.isTidy_of_locksAs locks)
  | unlock valid => exact Reply.isTidy_feature (Feature.isTidy_fresh _ valid)
  | delete => trivial

/-! ### Tidy stores -/

/-- The features of all rows of a store, in case all of them can be read. -/
def Store.features? : Store → Option (List Feature)
  | memory m => some m.features
  | database db =>
    if db.strays = [] then db.table.bind fun rows => rows.mapM fun r => r.toFeature.toOption
    else none

/-- **A store in which all features are tidy**, and no two have one key. -/
def Store.IsTidy (cat : Catalog) (s : Store) : Prop :=
  ∃ fs, s.features? = some fs ∧ (fs.map Feature.key).Nodup ∧ ∀ f ∈ fs, f.IsTidy cat

/-- Features in memory that are tidy. -/
structure Memory.IsTidy (cat : Catalog) (m : Memory) : Prop where
  distinct : m.Distinct
  features : ∀ f ∈ m.features, f.IsTidy cat

theorem Row.mapM_toFeature (fs : List Feature) :
    ((fs.map ofFeature).mapM fun r => r.toFeature.toOption) = some fs := by
  induction fs with
  | nil => rfl
  | cons f fs ih =>
    rw [List.map_cons, List.mapM_cons, toFeature_ofFeature, ih]
    rfl

theorem Store.features?_lay (b : Backend) (m : Memory) :
    (b.lay m).features? = some m.features := by
  cases b with
  | memory => rfl
  | database counting =>
    simp only [Backend.lay, features?, Database.ofMemory, if_true, Option.bind_some]
    exact Row.mapM_toFeature m.features

theorem Memory.IsTidy.lay {cat : Catalog} {m : Memory} (h : m.IsTidy cat) (b : Backend) :
    (b.lay m).IsTidy cat :=
  ⟨m.features, Store.features?_lay b m, h.distinct, h.features⟩

/-- A call that stores only features of a kind. -/
def Call.Stores (kind : Feature → Prop) : Call → Prop
  | insert f => kind f
  | update f => kind f
  | _ => True

namespace Memory

theorem mem_replace {m : Memory} {f g : Feature} (mem : g ∈ (m.replace f).features) :
    g = f ∨ g ∈ m.features := by
  obtain ⟨old, held, rfl⟩ := List.mem_map.mp mem
  split
  · exact .inl rfl
  · exact .inr held

/-- What a memory holds after a call: what it held before, what the call stores, and a feature whose
lock was taken off. -/
theorem mem_answer {m : Memory} {c : Call} {g : Feature} (mem : g ∈ (m.answer c).2.features) :
    g ∈ m.features ∨ c = .insert g ∨ c = .update g ∨ ∃ f ∈ m.features, g = f.unlocked := by
  cases c with
  | insert f =>
    simp only [answer] at mem
    split at mem
    · exact .inl mem
    · rcases List.mem_cons.mp mem with rfl | held
      · exact .inr (.inl rfl)
      · exact .inl held
  | find k => exact .inl mem
  | update f =>
    simp only [answer] at mem
    split at mem
    · rcases mem_replace mem with rfl | held
      · exact .inr (.inr (.inl rfl))
      · exact .inl held
    · exact .inl mem
  | expire k now =>
    simp only [answer] at mem
    split at mem
    · next f found =>
      split at mem
      · rcases mem_replace mem with rfl | held
        · exact .inr (.inr (.inr ⟨f, mem_of_find? found, rfl⟩))
        · exact .inl held
      · exact .inl mem
    · exact .inl mem
  | delete k => exact .inl (List.mem_of_mem_filter mem)

namespace IsTidy

variable {cat : Catalog} {m : Memory}

theorem empty (cat : Catalog) : Memory.empty.IsTidy cat :=
  ⟨distinct_empty, fun _ mem => absurd mem List.not_mem_nil⟩

/-- **A call that stores what is tidy leaves a memory tidy.** -/
theorem answer (h : m.IsTidy cat) {c : Call} (stores : c.Stores (·.IsTidy cat)) :
    (m.answer c).2.IsTidy cat := by
  refine ⟨h.distinct.answer c, fun g mem => ?_⟩
  rcases mem_answer mem with held | rfl | rfl | ⟨f, held, rfl⟩
  · exact h.features g held
  · exact stores
  · exact stores
  · exact (h.features f held).unlocked

theorem find? (h : m.IsTidy cat) {k : Key} {f : Feature} (found : m.find? k = some f) :
    f.IsTidy cat :=
  h.features f (mem_of_find? found)

theorem replace (h : m.IsTidy cat) {f : Feature} (tidy : f.IsTidy cat) :
    (m.replace f).IsTidy cat := by
  constructor
  · rw [Distinct, map_key_replace]
    exact h.distinct
  · intro g mem
    rcases mem_replace mem with rfl | held
    · exact tidy
    · exact h.features g held

end IsTidy

end Memory

/-! ### Call by call -/

namespace Catalog

/-- **The contract of operations that store only what is tidy**: they can count on finding only what
is tidy. -/
def tidily (cat : Catalog) : Contract Ask Ask.Answer where
  asks
    | .call c => c.Stores (·.IsTidy cat)
    | .clock => True
  answers
    | .call (.find _), (found : Except Failure (Option Feature)) =>
      ∀ f, found = .ok (some f) → f.IsTidy cat
    | _, _ => True

end Catalog

/-- The calls of an operation store what is tidy. -/
theorem Service.MayCall.stores {s : Service} {c : Command} {call : Call} (h : s.MayCall c call) :
    call.Stores (·.IsTidy s.catalog) := by
  cases h with
  | add valid => exact Feature.isTidy_fresh _ valid
  | lock locks => exact Feature.isTidy_of_locksAs locks
  | lockForDefault locks => exact Feature.isTidy_of_locksAs locks
  | unlock valid => exact Feature.isTidy_fresh _ valid
  | _ => trivial

/-- **Every operation stores only what is tidy, and replies so.** -/
theorem Service.perform_tidily (s : Service) (c : Command) :
    (s.perform c).Ensures s.catalog.tidily (·.IsTidy s.catalog) := by
  have clock : s.catalog.tidily.asks .clock := trivial
  exact (s.perform_ensures c (·.IsTidy s.catalog) (fun _ => True) clock (fun _ may => may.stores)
    (fun f found => found f rfl) fun _ _ => trivial).mono fun _ may => may.isTidy

/-- A session whose store is tidy stays so. -/
theorem Session.world_honours (cat : Catalog) (b : Backend) :
    Session.world.Honours cat.tidily fun s =>
      s.hooks = [] ∧ ∃ m : Memory, m.IsTidy cat ∧ s.store = b.lay m where
  answer := by
    rintro (c | _) s asks ⟨quiet, m, tidy, store⟩
    · have answered : s.store.answer c = ((m.answer c).1, b.lay (m.answer c).2) := by
        rw [store, b.answer_lay tidy.distinct]
      simp only [world, answer_call quiet, answered]
      refine ⟨?_, quiet, _, tidy.answer asks, rfl⟩
      cases c with
      | find k =>
        intro f found
        cases found' : m.find? k with
        | none =>
          simp only [Memory.answer, found'] at found
          cases found
        | some g =>
          simp only [Memory.answer, found'] at found
          cases found
          exact tidy.find? found'
      | _ => trivial
    · exact ⟨trivial, quiet, m, tidy, store⟩
  failing := by
    rintro why (c | _) a fails
    · cases fails
      cases c with
      | find k =>
        intro f found
        cases found
      | _ => trivial
    · cases fails
  setClock := fun _ _ holds => holds

/-! ### Statement by statement -/

namespace Catalog

/-- **The contract of statements that write only rows of tidy features.** -/
def tidyRows (cat : Catalog) : Contract Query Query.Answer where
  asks
    | .statement (.insert r) => ∃ f : Feature, f.IsTidy cat ∧ r = .ofFeature f
    | .statement (.update k columns) =>
      ∃ f : Feature, f.IsTidy cat ∧ k = f.key ∧ columns = .ofFeature f
    | _ => True
  answers
    | .statement (.select _), (found : Except StatementFault (Option Row)) =>
      ∀ r, found = .ok (some r) → ∃ f : Feature, f.IsTidy cat ∧ r = .ofFeature f
    | _, _ => True

end Catalog

/-- The statements of a call that stores what is tidy write rows of tidy features. -/
theorem Call.queries_tidily {cat : Catalog} (c : Call) (stores : c.Stores (·.IsTidy cat)) :
    c.queries.Fulfils cat.tidyRows (cat.tidily.answers (.call c)) := by
  refine (c.queries_fulfil fun s executes => ?_).mono fun outcome reads => ?_
  · cases executes with
    | insert f => exact ⟨f, stores, rfl⟩
    | update f => exact ⟨f, stores, rfl, rfl⟩
    | _ => trivial
  · cases c with
    | find k =>
      intro f found
      obtain ⟨r, counted, read⟩ := reads f found
      obtain ⟨g, tidy, rfl⟩ := counted r rfl
      rw [Row.toFeature_ofFeature] at read
      cases read
      exact tidy
    | _ => trivial

theorem Ask.queries_tidily {cat : Catalog} (q : Ask) (asks : cat.tidily.asks q) :
    q.queries.Fulfils cat.tidyRows (cat.tidily.answers q) := by
  cases q with
  | call c => exact c.queries_tidily asks
  | clock => exact ⟨trivial, fun _ _ => trivial⟩

namespace Database

variable {cat : Catalog} {counting : Counting} {m : Memory}

/-- **A statement that writes rows of tidy features only** leaves a table of tidy features, and
selects the row of a tidy feature. -/
theorem execute_tidily (tidy : m.IsTidy cat) {s : Statement}
    (asks : cat.tidyRows.asks (.statement s)) :
    cat.tidyRows.answers (.statement s) (execute s (ofMemory counting m)).1 ∧
      ∃ m' : Memory, m'.IsTidy cat ∧
        (execute s (ofMemory counting m)).2 = ofMemory counting m' := by
  cases s with
  | insert r =>
    obtain ⟨f, stores, rfl⟩ := asks
    rw [execute_insert]
    have after := tidy.answer (c := .insert f) stores
    simp only [Memory.answer] at after
    refine ⟨trivial, ?_⟩
    cases found : m.find? f.key with
    | none =>
      rw [found] at after
      exact ⟨_, after, rfl⟩
    | some g => exact ⟨m, tidy, rfl⟩
  | select k =>
    rw [execute_select]
    refine ⟨?_, m, tidy, rfl⟩
    rintro r selected
    cases found : m.find? k with
    | none =>
      rw [found] at selected
      cases selected
    | some f =>
      rw [found] at selected
      cases selected
      exact ⟨f, tidy.find? found, rfl⟩
  | update k columns =>
    obtain ⟨f, stores, rfl, rfl⟩ := asks
    rw [execute_update]
    exact ⟨trivial, _, tidy.replace stores, rfl⟩
  | count k =>
    rw [execute_count]
    exact ⟨trivial, m, tidy, rfl⟩
  | expire k now =>
    rw [execute_expire counting tidy.distinct]
    exact ⟨trivial, _, tidy.answer (c := .expire k now) trivial, rfl⟩
  | delete k =>
    rw [execute_delete]
    exact ⟨trivial, _, tidy.answer (c := .delete k) trivial, rfl⟩

/-- A database whose rows are tidy stays so. -/
theorem world_honours (cat : Catalog) (counting : Counting) :
    world.Honours cat.tidyRows fun x =>
      ∃ m : Memory, m.IsTidy cat ∧ x.1 = ofMemory counting m where
  answer := by
    rintro (s | _) ⟨db, now⟩ asks ⟨m, tidy, rfl⟩
    · exact execute_tidily tidy asks
    · exact ⟨trivial, m, tidy, rfl⟩
  failing := by
    rintro why (s | _) a fails
    · cases fails
      cases s with
      | select k =>
        intro r selected
        cases selected
      | _ => trivial
    · cases fails
  setClock := fun _ _ holds => holds

end Database

/-! ### Every state of every run -/

/-- **What the service writes is tidy.**  Operations side by side, with any arguments, over a store
that was empty and that nobody else writes to; whatever order they make their calls in, whichever
calls fail, and wherever the clock is set: at every moment all features of the store are tidy and no
two have one key, and whatever an operation has replied is tidy.  The same holds over a database
when other operations come between the statements of a call and single statements fail. -/
theorem stored_features_stay_tidy {ι : Type} [DecidableEq ι] (s : Service) (now : Instant)
    (command : ι → Command) :
    (∀ (b : Backend) (schedule : Nat → Happening ι Failure) (n : Nat),
      ((s.callByCall b.empty now command schedule).state n).store.IsTidy s.catalog ∧
        ∀ i reply, (s.callByCall b.empty now command schedule).pending i n = .done (.ok reply) →
          reply.IsTidy s.catalog) ∧
      ∀ (counting : Counting) (schedule : Nat → Happening ι StatementFault) (n : Nat),
        (Store.database ((s.statementByStatement (.ofMemory counting .empty) now command
          schedule).state n).1).IsTidy s.catalog ∧
          ∀ i reply, (s.statementByStatement (.ofMemory counting .empty) now command
            schedule).pending i n = .done (.ok reply) → reply.IsTidy s.catalog := by
  constructor
  · intro b schedule n
    obtain ⟨⟨-, m, tidy, store⟩, left⟩ := (s.callByCall b.empty now command schedule).keeps
      (Session.world_honours s.catalog b) ⟨rfl, .empty, .empty _, b.empty_eq_lay⟩
      (fun i => (s.perform_tidily (command i)).fulfils) n
    refine ⟨store ▸ tidy.lay b, fun i reply done => ?_⟩
    have replied := left i
    rw [done] at replied
    exact replied reply rfl
  · intro counting schedule n
    obtain ⟨⟨m, tidy, database⟩, left⟩ :=
      (s.statementByStatement (.ofMemory counting .empty) now command schedule).keeps
        (Database.world_honours s.catalog counting) ⟨.empty, .empty _, rfl⟩
        (fun i => (s.perform_tidily (command i)).fulfils.expand Ask.queries_tidily) n
    refine ⟨database ▸ tidy.lay (.database counting), fun i reply done => ?_⟩
    have replied := left i
    rw [done] at replied
    exact replied reply rfl

end FeatureLock
