import FeatureLock.Proofs.Lock.Calls
import FeatureLock.Proofs.Lock.Granularity
import FeatureLock.Proofs.Lock.Stage
import FeatureLock.Proofs.Store.Selection

/-!
# Replacements, statement by statement

A replacement is an UPDATE, and a count where the UPDATE counted no row: for some
databases do not count a row that was overwritten with the values it had.  But a row
that is counted then need not have been there before.

## Main Definitions

- `Command.IsReplacement`: the commands that lock and unlock
- `Run.database`: the database of a run of statements
- `Run.Replaced`: how an operation came to report that it replaced a feature

Main statements: `reported_replacement`, what a replacement that is reported has done;
and `lock_reported_but_never_stored`, a run in which that was nothing.

## Design Notes

The table is any that does not ignore an UPDATE, with any rows, and it may count rows
either way.
-/

namespace FeatureLock

/-- The commands that replace a feature. -/
def Command.IsReplacement : Command → Prop
  | lock .. => True
  | lockForDefault .. => True
  | unlock _ => True
  | _ => False

theorem Command.IsReplacement.not_isRead {c : Command} (replaces : c.IsReplacement) :
    ¬ c.IsRead := by
  intro read
  cases c <;> first | exact False.elim read | exact False.elim replaces

/-- **A replacement is refused at once, or a feature is put in place of the one of its key**,
whatever the state that answers. -/
theorem Service.run_replacement {σ : Type} {answer : (q : Ask) → σ → q.Answer × σ} {x : σ}
    {now : Instant} (clock : answer .clock x = (now, x)) (s : Service) {c : Command}
    (replaces : c.IsReplacement) :
    (∃ why, Program.run answer (s.perform c) x = (.error (.illegalArgument why), x)) ∨
      ∃ f : Feature, f.key = c.key ∧
        Program.run answer (s.perform c) x = Program.run answer (Stage.replace f) x := by
  have locks : ∀ k d codes,
      (∃ why, Program.run answer (s.perform (.lock k d codes)) x =
          (.error (.illegalArgument why), x)) ∨
        ∃ f : Feature, f.key = k ∧
          Program.run answer (s.perform (.lock k d codes)) x =
            Program.run answer (Stage.replace f) x := by
    intro k d codes
    rw [run_lock clock]
    cases locked : s.lockedAt now k d codes with
    | error why => exact .inl ⟨why, rfl⟩
    | ok f =>
      obtain ⟨reasons, t, -, -, rfl⟩ := lockedAt_ok locked
      exact .inr ⟨_, rfl, rfl⟩
  cases c with
  | lock k d codes => exact locks k d codes
  | lockForDefault k codes => exact locks k (some s.defaultDuration) codes
  | unlock k =>
    rw [perform_eq_program]
    simp only [Stage.first]
    cases k.validate with
    | error why => exact .inl ⟨why, rfl⟩
    | ok _ => exact .inr ⟨.fresh k, rfl, rfl⟩
  | _ => exact replaces.elim

namespace Run

variable {ι α : Type} [DecidableEq ι]
  {r : Run ι Query Query.Answer StatementFault (Database × Instant) α} {i : ι} {k : Key} {n m : Nat}

/-- The database after some moments of a run of statements. -/
def database (r : Run ι Query Query.Answer StatementFault (Database × Instant) α) (n : Nat) :
    Database :=
  (r.state n).1

/-! ### One moment and many -/

/-- **How the database comes through a moment**: it stays, or a statement is executed. -/
theorem database_cases (world : r.world = Database.world) (n : Nat) :
    r.database (n + 1) = r.database n ∨
      ∃ i s, r.Asks i n (.statement s) ∧
        r.database (n + 1) = (Database.execute s (r.database n)).2 := by
  rcases r.state_cases n with same | ⟨t, set⟩ | ⟨i, q, asks, answered⟩
  · exact .inl (congrArg Prod.fst same)
  · refine .inl ((congrArg Prod.fst set).trans ?_)
    rw [world]
    rfl
  · rw [world] at answered
    cases q with
    | statement s => exact .inr ⟨i, s, asks, congrArg Prod.fst answered⟩
    | clock => exact .inl (congrArg Prod.fst answered)

theorem database_of_asks (world : r.world = Database.world) {s : Statement}
    (asks : r.Asks i n (.statement s)) :
    r.database (n + 1) = (Database.execute s (r.database n)).2 := by
  rw [database, asks.state_eq, world]
  rfl

theorem frozen_database (world : r.world = Database.world) (n : Nat) :
    (r.database n).frozen = (r.database 0).frozen := by
  induction n with
  | zero => rfl
  | succ n ih =>
    rcases database_cases world n with same | ⟨i, s, -, executed⟩
    · rw [same, ih]
    · rw [executed, Database.frozen_execute, ih]

/-- **A row that appears was inserted.** -/
theorem row_appears (world : r.world = Database.world) (empty : (r.database n).Selects k none)
    (le : n ≤ m) :
    (r.database m).Selects k none ∨
      ∃ l, n ≤ l ∧ l < m ∧ ∃ i row, r.Asks i l (.statement (.insert row)) ∧ row.key = k ∧
        (r.database (l + 1)).Selects k (some row) := by
  induction le with
  | refl => exact .inl empty
  | @step m le ih =>
    rcases ih with still | ⟨l, from', before, inserted⟩
    · rcases database_cases world m with same | ⟨i, s, asks, executed⟩
      · exact .inl (same ▸ still)
      · rw [executed]
        rcases Database.row_appears s still with still | ⟨row, rfl, key, appears⟩
        · exact .inl still
        · exact .inr ⟨m, le, Nat.lt_succ_self m, i, row, asks, key, executed ▸ appears⟩
    · exact .inr ⟨l, from', Nat.lt_succ_of_lt before, inserted⟩

/-! ### What a replacement rests on -/

/-- **How an operation came to report that it replaced a feature**: its UPDATE wrote the row, or it
found no row to write, and later a row was counted. -/
inductive Replaced (r : Run ι Query Query.Answer StatementFault (Database × Instant) α) (i : ι)
    (f : Feature) : Prop where
  | stored (n : Nat) (updates : r.Asks i n (.statement (.update f.key (.ofFeature f))))
    (row : (r.database (n + 1)).Selects f.key (some (.ofFeature f)))
  | counted (n m : Nat) (updates : r.Asks i n (.statement (.update f.key (.ofFeature f))))
    (empty : (r.database (n + 1)).Selects f.key none) (later : n < m)
    (counts : r.Asks i m (.statement (.count f.key))) (row : ¬ (r.database m).Selects f.key none)

/-- A count that follows an UPDATE without a row is more than zero only if there is a row by
then. -/
theorem recount_leads (world : r.world = Database.world) {f : Feature}
    (updates : r.Asks i n (.statement (.update f.key (.ofFeature f))))
    (empty : (r.database (n + 1)).Selects f.key none) :
    r.Leads i (fun outcome : Outcome (.update f) => outcome = .ok true → r.Replaced i f)
      (Call.recount f) (n + 1) := by
  intro m later
  constructor
  · intro counts
    rw [world]
    generalize result : (Database.world.answer (.statement (.count f.key)) (r.state m)).1 = outcome
    rcases outcome with e | count
    · intro ok
      cases ok
    · intro ok
      refine .counted n m updates empty later counts fun still => ?_
      rw [Database.count_of_selects_none still result] at ok
      cases ok
  · intro why a fails
    rw [world] at fails
    cases fails
    intro ok
    cases ok

/-- **An update that is answered with yes** has replaced the feature. -/
theorem update_leads (world : r.world = Database.world) (thawed : (r.database 0).frozen = false)
    (f : Feature) (n : Nat) :
    r.Leads i (fun outcome : Outcome (.update f) => outcome = .ok true → r.Replaced i f)
      (Call.update f).queries n := by
  rw [Call.queries_update]
  intro n _
  constructor
  · intro updates
    have written := database_of_asks world updates
    rw [world]
    generalize result : (Database.world.answer (.statement (.update f.key (.ofFeature f)))
      (r.state n)).1 = outcome
    rcases outcome with e | count
    · intro ok
      cases ok
    · rcases Database.selects_update ((frozen_database world n).trans thawed) result with
        row | ⟨rfl, empty⟩
      · exact leads_of_forall (fun _ _ => .stored n updates (written ▸ row)) _ _
      · exact recount_leads world updates (written ▸ empty)
  · intro why a fails
    rw [world] at fails
    cases fails
    intro ok
    cases ok

/-- **The contract of an operation that counts on its updates**: one that is answered with yes has
replaced the feature. -/
def replacing (r : Run ι Query Query.Answer StatementFault (Database × Instant) α) (i : ι) :
    Contract Ask Ask.Answer where
  asks _ := True
  answers
    | .call (.update f), (outcome : Outcome (.update f)) => outcome = .ok true → r.Replaced i f
    | _, _ => True

/-- The queries of an operation lead to answers that it can count on. -/
theorem queries_lead (world : r.world = Database.world) (thawed : (r.database 0).frozen = false)
    (q : Ask) (n : Nat) : r.Leads i ((r.replacing i).answers q) q.queries n := by
  match q with
  | .call (.update f) => exact update_leads world thawed f n
  | .call (.insert _) => exact leads_of_forall (fun _ => trivial) _ n
  | .call (.find _) => exact leads_of_forall (fun _ => trivial) _ n
  | .call (.expire _ _) => exact leads_of_forall (fun _ => trivial) _ n
  | .call (.delete _) => exact leads_of_forall (fun _ => trivial) _ n
  | .clock => exact leads_of_forall (fun _ => trivial) _ n

end Run

/-! ### Insertions -/

namespace Command

/-- **The contract of a command that inserts only the fresh feature that it adds.** -/
def inserting (c : Command) : Contract Ask Ask.Answer where
  asks
    | .call (.insert f) => c = .add f.key ∧ f = .fresh f.key
    | _ => True
  answers _ _ := True

/-- The same for rows. -/
def insertingRows (c : Command) : Contract Query Query.Answer where
  asks
    | .statement (.insert row) => ∃ k, c = .add k ∧ row = .ofFeature (.fresh k)
    | _ => True
  answers _ _ := True

/-- The statements of an operation insert only the row of the fresh feature that it adds. -/
theorem queries_inserting (s : Service) (c : Command) :
    (s.queries c).Fulfils c.insertingRows fun _ => True := by
  have ensures := s.perform_ensures (K := c.inserting) c (fun _ => True) (fun _ => True) trivial
    (fun call may => by cases may <;> first | exact ⟨rfl, rfl⟩ | trivial)
    (fun _ _ => trivial) fun _ _ => trivial
  refine (ensures.fulfils.expand fun q asks => ?_).mono fun _ _ => trivial
  cases q with
  | clock => exact ⟨trivial, fun _ _ => trivial⟩
  | call call =>
    refine (call.queries_fulfil fun s executes => ?_).mono fun _ _ => trivial
    cases executes with
    | insert f => exact ⟨f.key, asks.1, congrArg Row.ofFeature asks.2⟩
    | _ => trivial

end Command

/-! ### Operations -/

namespace Service

variable {ι : Type} [DecidableEq ι] {s : Service} {db : Database} {now : Instant}
  {command : ι → Command} {schedule : Nat → Happening ι StatementFault} {i : ι} {n : Nat}

/-- A row is inserted by an operation that adds it. -/
theorem add_of_insert {row : Row}
    (inserts : (s.statementByStatement db now command schedule).Asks i n
      (.statement (.insert row))) :
    ∃ k, command i = .add k ∧ row = .ofFeature (.fresh k) := by
  obtain ⟨-, next, left⟩ := inserts
  have fulfils := Run.fulfils (r := s.statementByStatement db now command schedule)
    (fun _ _ => trivial) ((command i).queries_inserting s) n
  rw [left] at fulfils
  exact fulfils.1

/-- A command that replaces a feature returns one that it replaced; an unlock returns the fresh
one. -/
theorem MayReply.replaced {found stored : Feature → Prop} {c : Command} {reply : Reply}
    (h : s.MayReply found stored c reply) (replaces : c.IsReplacement) :
    ∃ f, reply = .feature f ∧ stored f ∧ ((∃ k, c = .unlock k) → f = .fresh f.key) := by
  cases h with
  | lock locks holds => exact ⟨_, rfl, holds, fun ⟨k, unlocks⟩ => nomatch unlocks⟩
  | lockForDefault locks holds => exact ⟨_, rfl, holds, fun ⟨k, unlocks⟩ => nomatch unlocks⟩
  | unlock valid holds => exact ⟨_, rfl, holds, fun _ => rfl⟩
  | found read => exact absurd read replaces.not_isRead
  | released read => exact absurd read replaces.not_isRead
  | add => cases replaces
  | delete => cases replaces

/-- An operation reports what it has replaced. -/
theorem replaced_of_done (thawed : db.frozen = false) {reply : Reply}
    (done : (s.statementByStatement db now command schedule).pending i n = .done (.ok reply)) :
    s.MayReply (fun _ => True) ((s.statementByStatement db now command schedule).Replaced i)
      (command i) reply := by
  have ensures := s.perform_ensures
    (K := (s.statementByStatement db now command schedule).replacing i) (command i)
    (fun _ => True) _ trivial (fun _ _ => trivial) (fun _ _ => trivial)
    fun _ replaced => replaced rfl
  have leads := Run.leads_expand ensures.fulfils (Run.queries_lead rfl thawed) 0
  exact Run.of_leads leads done reply rfl

end Service

/-- **What a replacement that is reported has done.**  Operations side by side over a table that
does not ignore an UPDATE, with any rows and either way of counting; whatever order their statements
are executed in, and whichever fail.  Where an operation that locks or unlocks returns a feature,
the row was exactly that feature right after its UPDATE.  Or there was no row to write, another
operation added the feature afresh, and that row was counted.  For an unlock it comes to the same,
since it returns the fresh feature. -/
theorem reported_replacement {ι : Type} [DecidableEq ι] (s : Service) {db : Database}
    (thawed : db.frozen = false) (now : Instant) (command : ι → Command)
    (schedule : Nat → Happening ι StatementFault) {i : ι} (replaces : (command i).IsReplacement) :
    let r := s.statementByStatement db now command schedule
    ∀ (f : Feature) (t : Nat), r.pending i t = .done (.ok (.feature f)) →
      ∃ n m, n ≤ m ∧ m < t ∧ r.Asks i n (.statement (.update f.key (.ofFeature f))) ∧
        (m = n ∧ (r.database (n + 1)).Selects f.key (some (.ofFeature f)) ∨
          (r.database (n + 1)).Selects f.key none ∧
            (∃ j, command j = .add f.key ∧
              r.Asks j m (.statement (.insert (.ofFeature (.fresh f.key))))) ∧
            (r.database (m + 1)).Selects f.key (some (.ofFeature (.fresh f.key))) ∧
            ∃ l, m < l ∧ l < t ∧ r.Asks i l (.statement (.count f.key))) ∧
        ((∃ k, command i = .unlock k) →
          (r.database (m + 1)).Selects f.key (some (.ofFeature f))) := by
  intro r f t done
  obtain ⟨g, same, replaced, fresh⟩ := (s.replaced_of_done thawed done).replaced replaces
  cases same
  cases replaced with
  | stored n updates row =>
    exact ⟨n, n, Nat.le_refl n, updates.lt_of_done done, updates, .inl ⟨rfl, row⟩, fun _ => row⟩
  | counted n l updates empty later counts row =>
    rcases Run.row_appears rfl empty later with
      still | ⟨m, from', before, j, inserted, inserts, key, appears⟩
    · exact absurd still row
    · obtain ⟨k, adds, rfl⟩ := Service.add_of_insert inserts
      cases key
      have returned := counts.lt_of_done done
      refine ⟨n, m, Nat.le_of_succ_le from', Nat.lt_trans before returned, updates, ?_, ?_⟩
      · exact .inr ⟨empty, ⟨j, adds, inserts⟩, appears, l, before, returned, counts⟩
      · intro unlocks
        -- what an unlock returns is the fresh feature, so it does not matter who wrote that
        rw [fresh unlocks]
        exact appears

/-! ### A lock that is overtaken -/

/-- A feature is locked while it is added. -/
def lockWhileAdding : Bool → Command
  | true => .lock ⟨1, "alice", "api"⟩ none ["fraud"]
  | false => .add ⟨1, "alice", "api"⟩

/-- The lock finds no row to write; then the feature is added, and only then the lock counts
rows. -/
def overtakenLock :
    Run Bool Query Query.Answer StatementFault (Database × Instant) (Except Failure Reply) :=
  Service.statementByStatement ⟨.empty, standardDuration⟩ (.ofMemory .matched .empty) 1000
    lockWhileAdding fun
      | 1 => .turn false
      | _ => .turn true

/-- It returns the locked feature. -/
theorem overtakenLock_returns :
    overtakenLock.pending true 3 =
      .done (.ok (.feature ⟨⟨1, "alice", "api"⟩, true, noDeadline, ["fraud"], ["fraud"]⟩)) := rfl

/-- But at no moment until then is there another row than the one that was added. -/
theorem overtakenLock_rows {n : Nat} (le : n ≤ 3) {row : Row}
    (selects : (overtakenLock.database n).Selects ⟨1, "alice", "api"⟩ (some row)) :
    row = .ofFeature (.fresh ⟨1, "alice", "api"⟩) := by
  match n with
  | 0 => cases Except.ok.inj selects
  | 1 => cases Except.ok.inj selects
  | 2 => exact (Option.some.inj (Except.ok.inj selects)).symm
  | 3 => exact (Option.some.inj (Except.ok.inj selects)).symm

/-- **A lock that is reported need not have been stored.** -/
theorem lock_reported_but_never_stored :
    ∃ f : Feature, overtakenLock.pending true 3 = .done (.ok (.feature f)) ∧
      ∀ n ≤ 3, ¬ (overtakenLock.database n).Selects f.key (some (.ofFeature f)) := by
  refine ⟨_, overtakenLock_returns, fun n le stored => ?_⟩
  have locked := congrArg (fun row => row.columns.locked) (overtakenLock_rows le stored)
  cases locked

/-- The insertion that came in between is found. -/
theorem overtakenLock_overtaken :
    ∃ m < 3, overtakenLock.Asks false m
      (.statement (.insert (.ofFeature (.fresh ⟨1, "alice", "api"⟩)))) := by
  have thawed : (Database.ofMemory .matched .empty).frozen = false := rfl
  have replaces : (lockWhileAdding true).IsReplacement := trivial
  obtain ⟨n, m, le, before, -, written | ⟨-, ⟨j, adds, inserts⟩, -⟩, -⟩ :=
    reported_replacement ⟨.empty, standardDuration⟩ thawed 1000 _ _ replaces _ 3
      overtakenLock_returns
  · have locked := congrArg (fun row => row.columns.locked)
      (overtakenLock_rows (Nat.lt_of_le_of_lt le before) written.2)
    cases locked
  · cases j with
    | false => exact ⟨m, before, inserts⟩
    | true => cases adds

end FeatureLock
