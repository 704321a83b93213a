import FeatureLock.Proofs.Lock.Refusal
import FeatureLock.Proofs.Lock.Replacement
import FeatureLock.Proofs.Session.Isolation

/-!
# Rows that cannot be read

The texts of a row may be written by hand, and then they may stand for no reasons.  A
search for such a row fails, and so does every operation that begins with one.  No
other operation looks at the texts: it does what it would do if they were other ones,
and a row that it writes can be read.

## Main Definitions

- `Columns.IsReadable`, `Table.IsReadable`: both texts are lists of reasons
- `Session.IsBlocked`: a failure that all reads of a key come to
- `Table.retext`: other texts in the row of a key
- `Table.ComeThrough`: what may become of two tables that differ in the texts of a row
- `Table.IgnoresTexts`: what does not depend on the texts of a row

Main statement: `unreadable_row_blocks_only_its_reads`.

## Design Notes

A row that cannot be read is not compared with one that can, but a row with any texts with the same
row with any other texts.  What is said of the two holds then whichever of them can be read.
-/

namespace FeatureLock

/-! ### Texts -/

namespace Columns

/-- **Both texts of a row are lists of reasons.** -/
def IsReadable (c : Columns) : Prop :=
  (∃ reasons, ReasonText.decode c.reasonText = .ok reasons) ∧
    ∃ codes, ReasonText.decode c.codeText = .ok codes

/-- The same flag and the same deadline beside other texts. -/
def withTexts (c : Columns) (reasonText codeText : Option String) : Columns :=
  { c with reasonText := reasonText, codeText := codeText }

end Columns

namespace Call

variable {k : Key} {columns : Columns}

/-- **A row is read if both of its texts are lists of reasons**, and otherwise the failure says that
one of them is not. -/
theorem readRow_cases (k : Key) (columns : Columns) :
    (columns.IsReadable ∧ ∃ f, readRow k ⟨k, columns⟩ = .ok (some f)) ∨
      (¬ columns.IsReadable ∧
        ∃ why, readRow k ⟨k, columns⟩ = .error (.server .decode k (.undecodable why))) := by
  rw [readRow, Row.toFeature, Columns.IsReadable]
  cases ReasonText.decode columns.reasonText with
  | error why =>
    refine .inr ⟨?_, why, rfl⟩
    rintro ⟨⟨_, ok⟩, -⟩
    cases ok
  | ok reasons =>
    cases ReasonText.decode columns.codeText with
    | error why =>
      refine .inr ⟨?_, why, rfl⟩
      rintro ⟨-, _, ok⟩
      cases ok
    | ok codes => exact .inl ⟨⟨⟨reasons, rfl⟩, codes, rfl⟩, _, rfl⟩

/-- **A call that is no search does not look at the texts of its row.**  The columns that it leaves
do not depend on them either, unless it leaves the row as it is. -/
theorem onColumns_withTexts {c : Call} (writes : c.kind ≠ .find) (columns : Option Columns)
    (reasonText codeText : Option String) :
    let other := columns.map (·.withTexts reasonText codeText)
    (c.onColumns other).1 = (c.onColumns columns).1 ∧
      ((c.onColumns other).2 = (c.onColumns columns).2 ∨
        ((c.onColumns other).2 = other ∧ (c.onColumns columns).2 = columns)) := by
  cases columns with
  | none => exact ⟨rfl, .inl rfl⟩
  | some columns =>
    cases c with
    | insert f => exact ⟨rfl, .inr ⟨rfl, rfl⟩⟩
    | find k => exact absurd rfl writes
    | update f => exact ⟨rfl, .inl rfl⟩
    | expire k now =>
      -- whether a lock is expired is in the flag and the deadline
      have same : (columns.withTexts reasonText codeText).isExpiredAt now =
          columns.isExpiredAt now := rfl
      simp only [Option.map_some, onColumns, same]
      cases columns.isExpiredAt now with
      | false => exact ⟨rfl, .inr ⟨rfl, rfl⟩⟩
      | true => exact ⟨rfl, .inl rfl⟩
    | delete k => exact ⟨rfl, .inl rfl⟩

end Call

namespace Table

variable {t u : Table} {k : Key}

/-- The row of a key can be read, if there is one. -/
def IsReadable (t : Table) (k : Key) : Prop :=
  ∀ r ∈ t.rows, r.key = k → r.columns.IsReadable

theorem isReadable_iff : t.IsReadable k ↔ ∀ columns ∈ t.columns? k, columns.IsReadable := by
  simp only [Option.mem_def, columns?_eq_some_iff]
  constructor
  · exact fun readable columns mem => readable _ mem rfl
  · rintro readable ⟨_, columns⟩ mem rfl
    exact readable columns mem

/-- **A search succeeds if and only if the row can be read**, and leaves the table in any case. -/
theorem find_cases (t : Table) (k : Key) :
    (t.IsReadable k ∧ ∃ found, t.answer (.find k) = (.ok found, t)) ∨
      (¬ t.IsReadable k ∧ (t.columns? k).isSome = true ∧
        ∃ why, t.answer (.find k) = (.error (.server .decode k (.undecodable why)), t)) := by
  rw [isReadable_iff]
  simp only [answer, Call.key]
  cases found : t.columns? k with
  | none =>
    refine .inl ⟨?_, none, ?_⟩
    · rintro _ ⟨⟩
    · simp only [Call.onColumns, set_eq_self found]
  | some columns =>
    simp only [Call.onColumns, set_eq_self found, Option.mem_some_iff, forall_eq',
      Option.isSome_some, true_and]
    rcases Call.readRow_cases k columns with ⟨readable, f, read⟩ | ⟨unreadable, why, read⟩
    · exact .inl ⟨readable, some f, by rw [read]⟩
    · exact .inr ⟨unreadable, why, by rw [read]⟩

theorem find_eq_ok_iff (t : Table) (counting : Counting) (k : Key) :
    (∃ found, (t.stored counting).answer (.find k) = (.ok found, t.stored counting)) ↔
      t.IsReadable k := by
  rw [answer_stored]
  rcases t.find_cases k with ⟨readable, found, answered⟩ | ⟨unreadable, -, why, answered⟩
  · exact ⟨fun _ => readable, fun _ => ⟨found, by rw [answered]⟩⟩
  · refine ⟨?_, fun readable => absurd readable unreadable⟩
    rintro ⟨found, ok⟩
    rw [answered] at ok
    cases ok

/-- A feature whose lock was taken off is found as the open feature. -/
theorem fresh_of_expire {counting : Counting} {now : Instant} {db : Database}
    (released : (t.stored counting).answer (.expire k now) = (.ok true, db)) :
    db.answer (.find k) = (.ok (some (.fresh k)), db) := by
  rw [answer_stored, answer_expire_fst] at released
  obtain ⟨lapsed, rfl⟩ := Prod.mk.inj released
  exact (t.writes_expire k now).found (Except.ok.inj lapsed) counting

/-! ### Other texts -/

/-- **The table with other texts in the row of a key**, if there is one. -/
def retext (t : Table) (k : Key) (reasonText codeText : Option String) : Table :=
  t.set k ((t.columns? k).map (·.withTexts reasonText codeText))

/-- Two tables come through the same: they become one table, or both stay as they are. -/
def ComeThrough (t u t' u' : Table) : Prop :=
  t' = u' ∨ (t' = t ∧ u' = u)

variable (t k) (reasonText codeText : Option String)

theorem columns?_retext_self :
    (t.retext k reasonText codeText).columns? k =
      (t.columns? k).map (·.withTexts reasonText codeText) := by
  rw [retext, columns?_set, Function.update_self]

/-- What is set does not depend on the texts that were there. -/
theorem set_retext (columns : Option Columns) :
    (t.retext k reasonText codeText).set k columns = t.set k columns := by
  apply ext_rows
  have texts := columns?_retext_self t k reasonText codeText
  cases columns with
  | none =>
    rw [rows_set_none, rows_set_none]
    exact filter_set (by simp) _
  | some columns =>
    cases found : t.columns? k with
    | none =>
      rw [retext, found, Option.map_none, set_eq_self found]
    | some before =>
      have taken : (t.columns? k).isSome = true := by simp [found]
      have taken' : ((t.retext k reasonText codeText).columns? k).isSome = true := by
        simp [texts, found]
      rw [rows_set_of_taken taken', rows_set_of_taken taken, retext, found, Option.map_some,
        rows_set_of_taken taken, Database.setWhere_setWhere]

/-- **A call that is no search answers alike** whatever the texts of its row are. -/
theorem answer_retext {c : Call} (key : c.key = k) (writes : c.kind ≠ .find) :
    ((t.retext k reasonText codeText).answer c).1 = (t.answer c).1 ∧
      ComeThrough t (t.retext k reasonText codeText) (t.answer c).2
        ((t.retext k reasonText codeText).answer c).2 := by
  subst key
  obtain ⟨same, after⟩ := c.onColumns_withTexts writes (t.columns? c.key) reasonText codeText
  simp only [answer, columns?_retext_self, set_retext]
  refine ⟨same, ?_⟩
  rcases after with alike | ⟨other, own⟩
  · exact .inl (by rw [alike])
  · exact .inr ⟨set_eq_self own.symm, by rw [other, retext]⟩

end Table

/-! ### Sessions over a table -/

/-- A session over a table, in which no hook waits. -/
def Session.onTable (service : Service) (counting : Counting) (now : Instant)
    (calls : List CallKind)
    (t : Table) : Session :=
  ⟨service, .database (t.stored counting), now, [], calls⟩

namespace Session

variable {service : Service} {counting : Counting} {now : Instant} {calls : List CallKind}
  {t u : Table} {k : Key}

theorem answer_onTable (calls : List CallKind) (t : Table) (c : Call) :
    (onTable service counting now calls t).answer (.call c) =
      ((t.answer c).1, onTable service counting now (calls ++ [c.kind]) (t.answer c).2) := by
  rw [answer_call rfl]
  simp only [onTable, Store.answer, Table.answer_stored]
  rfl

/-- What a session over a table answers to a command whose operation has run. -/
theorem perform_onTable {c : Command} {result : Except Failure Reply} {t' : Table}
    (ran : Program.run answer (service.perform c) (onTable service counting now [] t) =
      (result, onTable service counting now calls t')) :
    (onTable service counting now [] t).perform (.command c) =
      (.performed result calls (t'.answer (.find c.key)).1,
        onTable service counting now calls t') := by
  rw [Session.perform_command _ c rfl]
  simp only [onTable] at ran
  simp only [onTable, ran, Store.answer, Table.answer_stored]

/-- **All reads of a key come to one failure**, which they report after a single search, and change
nothing; and so does the search.  The key is found to be taken all the same. -/
structure IsBlocked (s : Session) (k : Key) (e : Failure) : Prop where
  find : s.store.answer (.find k) = (.error e, s.store)
  read : ∀ c : Command, c.IsRead → c.key = k → k.validate = .ok () →
    s.perform (.command c) = (.performed (.error e) [.find] (.error e), { s with calls := [.find] })
  /-- a key that is refused is not searched for -/
  refused : ∀ (c : Command) (why : Complaint), c.IsRead → c.key = k → k.validate = .error why →
    s.perform (.command c) =
      (.performed (.error (.illegalArgument why)) [] (.error e), { s with calls := [] })
  add : k.validate = .ok () →
    s.perform (.command (.add k)) =
      (.performed (.error (.alreadyExists k)) [.insert] (.error e), { s with calls := [.insert] })

theorem isBlocked_of_find {e : Failure} (taken : (t.columns? k).isSome = true)
    (fails : t.answer (.find k) = (.error e, t)) :
    (onTable service counting now [] t).IsBlocked k e where
  find := by simp only [onTable, Store.answer, Table.answer_stored, fails]
  read := by
    rintro c looks rfl valid
    have asked : answer (.call (.find c.key)) (onTable service counting now [] t) =
        (.error e, onTable service counting now [.find] t) := by
      rw [answer_onTable, fails]
      rfl
    rw [perform_onTable (service.run_read_of_error looks valid asked), fails]
    rfl
  refused := by
    rintro c why looks rfl refused
    have judged : service.judge now c = .error why := by
      cases c with
      | lock => exact looks.elim
      | lockForDefault => exact looks.elim
      | _ => exact refused
    rw [perform_onTable ((heedsVerdict_judge service _ c).refused why judged), fails]
    rfl
  add := by
    intro valid
    have asked : answer (.call (.insert (.fresh k))) (onTable service counting now [] t) =
        (.error (.alreadyExists k), onTable service counting now [.insert] t) := by
      rw [answer_onTable, t.answer_insert_of_taken (f := .fresh k) taken]
      rfl
    have ran : Program.run answer (service.perform (.add k)) (onTable service counting now [] t) =
        (.error (.alreadyExists k), onTable service counting now [.insert] t) := by
      rw [Service.perform_eq_program]
      simp only [Stage.first, valid, Stage.checked, Stage.program, Command.key, Program.run_ask,
        asked]
      rfl
    rw [perform_onTable ran, show (Command.add k).key = k from rfl, fails]
    rfl

theorem isBlocked_of_not_isReadable (service : Service) (counting : Counting) (now : Instant)
    (unreadable : ¬ t.IsReadable k) :
    ∃ why,
      (onTable service counting now [] t).IsBlocked k (.server .decode k (.undecodable why)) := by
  rcases t.find_cases k with ⟨readable, -⟩ | ⟨-, taken, why, answered⟩
  · exact absurd readable unreadable
  · exact ⟨why, isBlocked_of_find taken answered⟩

/-! ### Writes -/

/-- The contract of programs that make calls under one key, but no search. -/
def blindUnder (k : Key) : Contract Ask Ask.Answer where
  asks
    | .call c => c.key = k ∧ c.kind ≠ .find
    | .clock => True
  answers _ _ := True

/-- An operation that is no read makes no search. -/
theorem perform_blind (service : Service) {c : Command} (writes : ¬ c.IsRead) :
    Program.Fulfils (blindUnder c.key) (fun _ => True) (service.perform c) := by
  have calls : ∀ call, service.MayCall c call → (blindUnder c.key).asks (.call call) := by
    intro call may
    refine ⟨may.key, ?_⟩
    cases may with
    | find read => exact absurd read writes
    | _ => nofun
  exact (service.perform_ensures (K := blindUnder c.key) c (fun _ => True) (fun _ => True) trivial
    calls (fun _ _ => trivial) fun _ _ => trivial).fulfils.mono fun _ _ => trivial

/-- **An operation that is no read comes through alike** on two tables, if each of its calls
does. -/
theorem run_blind (service : Service) (counting : Counting) (now : Instant) {c : Command}
    (writes : ¬ c.IsRead)
    (alike : ∀ call : Call, call.key = c.key → call.kind ≠ .find →
      (u.answer call).1 = (t.answer call).1 ∧
        Table.ComeThrough t u (t.answer call).2 (u.answer call).2) :
    ∃ result calls t' u', Table.ComeThrough t u t' u' ∧
      Program.run answer (service.perform c) (onTable service counting now [] t) =
        (result, onTable service counting now calls t') ∧
      Program.run answer (service.perform c) (onTable service counting now [] u) =
        (result, onTable service counting now calls u') := by
  -- every call keeps: both have made the same calls, and the tables have come through the same
  have keeps : ∀ (q : Ask) (x y : Session), (blindUnder c.key).asks q →
      (∃ calls t' u', Table.ComeThrough t u t' u' ∧
        x = onTable service counting now calls t' ∧ y = onTable service counting now calls u') →
      (x.answer q).1 = (y.answer q).1 ∧ True ∧
        ∃ calls t' u', Table.ComeThrough t u t' u' ∧
          (x.answer q).2 = onTable service counting now calls t' ∧
            (y.answer q).2 = onTable service counting now calls u' := by
    rintro q x y asks ⟨calls, t', u', through, rfl, rfl⟩
    cases q with
    | clock => exact ⟨rfl, trivial, calls, t', u', through, rfl, rfl⟩
    | call call =>
      obtain ⟨key, blind⟩ := asks
      rw [answer_onTable, answer_onTable]
      rcases through with rfl | ⟨rfl, rfl⟩
      · exact ⟨rfl, trivial, _, _, _, .inl rfl, rfl, rfl⟩
      · obtain ⟨same, after⟩ := alike call key blind
        exact ⟨same.symm, trivial, _, _, _, after, rfl, rfl⟩
  obtain ⟨same, calls, t', u', through, left, right⟩ :=
    (perform_blind service writes).run_related keeps (s := onTable service counting now [] t)
      (t := onTable service counting now [] u) ⟨[], t, u, .inr ⟨rfl, rfl⟩, rfl, rfl⟩
  exact ⟨_, calls, t', u', through, Prod.ext rfl left, Prod.ext same.symm right⟩

/-- A replacement on a table succeeds if and only if there is a row of its key. -/
theorem run_replace_onTable (calls : List CallKind) (t : Table) (f : Feature) :
    Program.run answer (Stage.replace f) (onTable service counting now calls t) =
      (if (t.columns? f.key).isSome then .ok (.feature f) else .error (.notFound f.key),
        onTable service counting now (calls ++ [.update]) (t.answer (.update f)).2) := by
  simp only [Stage.replace, Program.run_ask, answer_onTable, t.answer_update_fst]
  cases (t.columns? f.key).isSome <;> rfl

/-- **A replacement that succeeds replies with the feature that is found afterwards.** -/
theorem stored_of_replacement {c : Command} (replaces : c.IsReplacement) {reply : Reply}
    {stored : Except Failure (Option Feature)}
    (performed : ((onTable service counting now [] t).perform (.command c)).1 =
      .performed (.ok reply) calls stored) :
    ∃ f : Feature, f.key = c.key ∧ reply = .feature f ∧ stored = .ok (some f) := by
  have clock : Session.answer .clock (onTable service counting now [] t) =
      (now, onTable service counting now [] t) := rfl
  rcases service.run_replacement clock replaces with ⟨why, ran⟩ | ⟨f, key, ran⟩
  · rw [perform_onTable ran] at performed
    cases performed
  · rw [run_replace_onTable] at ran
    rw [perform_onTable ran] at performed
    split at performed
    · next taken =>
      cases performed
      have found := (t.writes_update f).found taken counting
      rw [Table.answer_stored] at found
      exact ⟨f, key, rfl, key ▸ congrArg Prod.fst found⟩
    · cases performed

end Session

namespace Table

/-- **What does not depend on the texts of a row**, in two tables that differ in them: calls and
operations under the key that do not read it, and all operations under other keys. -/
structure IgnoresTexts (service : Service) (counting : Counting) (now : Instant) (k : Key)
    (t u : Table) : Prop where
  call : ∀ c : Call, c.key = k → c.kind ≠ .find → ∃ (answer : Outcome c) (t' u' : Table),
    ComeThrough t u t' u' ∧ (t.stored counting).answer c = (answer, t'.stored counting) ∧
      (u.stored counting).answer c = (answer, u'.stored counting)
  command : ∀ c : Command, c.key = k → ¬ c.IsRead →
    ∃ (result : Except Failure Reply) (calls : List CallKind) (t' u' : Table),
      ComeThrough t u t' u' ∧
      (Session.onTable service counting now [] t).perform (.command c) =
        (.performed result calls (t'.answer (.find k)).1,
          Session.onTable service counting now calls t') ∧
      (Session.onTable service counting now [] u).perform (.command c) =
        (.performed result calls (u'.answer (.find k)).1,
          Session.onTable service counting now calls u')
  elsewhere : ∀ k' : Key, k' ≠ k →
    ((t.stored counting).answer (.find k')).1 = ((u.stored counting).answer (.find k')).1 ∧
      ∀ c : Command, c.key = k' →
        ((Session.onTable service counting now [] t).perform (.command c)).1 =
          ((Session.onTable service counting now [] u).perform (.command c)).1

theorem ignoresTexts_retext (service : Service) (counting : Counting) (now : Instant) (k : Key)
    (t : Table) (reasonText codeText : Option String) :
    IgnoresTexts service counting now k t (t.retext k reasonText codeText) where
  call c key writes := by
    obtain ⟨same, through⟩ :=
      t.answer_retext k reasonText codeText key writes
    refine ⟨(t.answer c).1, _, _, through, t.answer_stored counting c, ?_⟩
    rw [answer_stored, same]
  command := by
    rintro c rfl writes
    obtain ⟨result, calls, t', u', through, left, right⟩ :=
      Session.run_blind service counting now writes fun call key blind =>
        t.answer_retext c.key reasonText codeText key blind
    exact ⟨result, calls, t', u', through, Session.perform_onTable left,
      Session.perform_onTable right⟩
  elsewhere := by
    intro k' other
    have rows : (t.retext k reasonText codeText).rows.filter (·.key = k') =
        t.rows.filter (·.key = k') :=
      filter_set (by simp [Ne.symm other]) _
    have only : (Store.database (t.stored counting)).only k' =
        (Store.database ((t.retext k reasonText codeText).stored counting)).only k' := by
      simp only [Store.only, Database.only, stored, Option.map_some, rows]
    refine ⟨?_, ?_⟩
    · have found := (Store.answer_of_only_eq (c := .find k') rfl only).1
      exact found
    · rintro c key
      have alike : Session.SameAt k' (.onTable service counting now [] t)
          (.onTable service counting now [] (t.retext k reasonText codeText)) :=
        ⟨only, rfl, rfl, rfl, rfl⟩
      exact (alike.perform_command key).1

end Table

/-- **A row that cannot be read blocks its own reads only, and is repaired by any write.**  Take any
table, whatever the texts of its rows are.  A search succeeds if and only if there is no row or both
of its texts are lists of reasons.  Otherwise every read of the key comes to the same failure, after
a single search and even if the lock has lapsed.  What does not read the row is what it would be
with any other texts, and so is all that is done under other keys.  A feature that is locked or
unlocked, or whose lock has been taken off, is found afterwards exactly as it was written. -/
theorem unreadable_row_blocks_only_its_reads (service : Service) (counting : Counting)
    (now : Instant)
    (t : Table) (k : Key) :
    ((∃ found, (t.stored counting).answer (.find k) = (.ok found, t.stored counting)) ↔
      t.IsReadable k) ∧
    (¬ t.IsReadable k → ∃ why,
      (Session.onTable service counting now [] t).IsBlocked k
        (.server .decode k (.undecodable why))) ∧
    (∀ reasonText codeText,
      Table.IgnoresTexts service counting now k t (t.retext k reasonText codeText)) ∧
    (∀ c : Command, c.IsReplacement → c.key = k → ∀ reply calls stored,
      ((Session.onTable service counting now [] t).perform (.command c)).1 =
        .performed (.ok reply) calls stored →
      ∃ f : Feature, f.key = k ∧ reply = .feature f ∧ stored = .ok (some f)) ∧
    ∀ (later : Instant) (db : Database),
      (t.stored counting).answer (.expire k later) = (.ok true, db) →
      db.answer (.find k) = (.ok (some (.fresh k)), db) := by
  refine ⟨t.find_eq_ok_iff counting k, Session.isBlocked_of_not_isReadable service counting now,
    t.ignoresTexts_retext service counting now k, ?_, fun later db => t.fresh_of_expire⟩
  rintro c replaces rfl reply calls stored performed
  exact Session.stored_of_replacement replaces performed

/-- Codes that are joined by a bar cannot be read, and a lapsed lock with such codes is not taken
off; a new lock takes its place. -/
example :
    let k : Key := ⟨1, "alice", "api"⟩
    let db : Database := ⟨some [⟨k, true, 5, some "[]", some "fraud|spam"⟩], false, .matched, []⟩
    let steps : List Session.Step :=
      [.command (.read k), .command (.add k), .command (.lock k none ["fraud"]), .command (.read k)]
    (((Session.start ⟨.empty, standardDuration⟩ (.database db) 9).play steps).map fun a =>
        a.result?.map fun result => result.mapError Failure.code) =
      [some (.error .decode), some (.error .alreadyExists),
        some (.ok (.feature ⟨k, true, noDeadline, ["fraud"], ["fraud"]⟩)),
        some (.ok (.feature ⟨k, true, noDeadline, ["fraud"], ["fraud"]⟩))] := by
  decide +kernel

end FeatureLock
