import FeatureLock.Proofs.Config.ReasonList
import FeatureLock.Proofs.Lock.Lapse

/-!
# Which messages of a catalog are used

The codes of a lock are trimmed before the catalog is asked for them, and the codes of
the catalog are kept as they were entered.  So a message is used for every spelling of
its code if it was entered under the trimmed code, and under any other spelling it is
never used at all.

## Main Definitions

- `Catalog.IsMadeFrom`: the catalogs that are made from entries, entered by hand or
  listed in a configuration
- `LockReasons.Explains`: what reasons say about a code of a lock

Main statements: `Catalog.resolve_filter`, entries under other spellings do not count;
`message_of_trimmed_code_is_used`; and `message_of_padded_code_is_lost`, a message that
is not used for the very code that it was entered under.
-/

namespace FeatureLock

/-- **The catalogs that are made from entries**: the entries are entered one after the other, or
they are listed in a configuration. -/
inductive Catalog.IsMadeFrom : Catalog → List (String × String) → Prop
  | entered (entries : List (String × String)) :
      IsMadeFrom (entries.foldl (fun cat e => cat.withReason e.1 e.2) .empty) entries
  | configured {c : Configuration} {cat : Catalog} {entries : List (String × String)} :
      c.ListsReasons entries → c.reasonCatalog = .ok cat → IsMadeFrom cat entries

/-- **What reasons say about a code of a lock**: the trimmed code is among theirs, and at its
position stands the message of its last entry, or the code itself if it has no entry. -/
def LockReasons.Explains (r : LockReasons) (entries : List (String × String)) (code : String) :
    Prop :=
  Text.trim code ∈ r.codes ∧ ∀ i : Nat, r.codes[i]? = some (Text.trim code) →
    (∀ message, Catalog.LastMessage entries (Text.trim code) message →
      r.reasons[i]? = some message) ∧
    (Text.trim code ∉ entries.map Prod.fst → r.reasons[i]? = some (Text.trim code))

namespace Catalog

variable {cat : Catalog} {entries : List (String × String)} {codes : List String} {r : LockReasons}

/-- However a catalog is made from entries, it is the same. -/
theorem IsMadeFrom.eq_ofList (made : cat.IsMadeFrom entries) : cat = ofList entries := by
  cases made with
  | entered => rfl
  | configured listed taken =>
    have all := Configuration.reasonCatalog_eq_ok_iff.mpr ⟨entries, rfl, .inl listed⟩
    exact Except.ok.inj (taken.symm.trans all)

/-- Whatever codes are resolved, each of them is explained. -/
theorem explains_of_resolve (resolved : (ofList entries).resolve codes = .ok r) {code : String}
    (mem : code ∈ codes) : r.Explains entries code := by
  obtain ⟨-, rfl⟩ := resolve_eq_ok_iff.mp resolved
  refine ⟨List.mem_eraseDups.mpr (List.mem_map_of_mem mem), fun i here => ?_⟩
  have stands : (LockReasons.describing (ofList entries)
      (codes.map Text.trim).eraseDups).reasons[i]? =
        some ((ofList entries).describe (Text.trim code)) := by
    simp only [LockReasons.describing] at here ⊢
    rw [List.getElem?_map, here, Option.map_some]
  rw [stands]
  constructor
  · intro message last
    rw [describe, message?_ofList_eq_some_iff.mpr last, Option.getD_some]
  · intro absent
    rw [describe, message?_ofList_eq_none_iff.mpr absent, Option.getD_none]

/-- **Entries whose code is not trimmed do not count.** -/
theorem resolve_filter (entries : List (String × String)) (codes : List String) :
    (ofList (entries.filter fun e => Text.trim e.1 = e.1)).resolve codes =
      (ofList entries).resolve codes := by
  have same : ∀ code ∈ (codes.map Text.trim).eraseDups,
      (ofList (entries.filter fun e => Text.trim e.1 = e.1)).describe code =
        (ofList entries).describe code := by
    intro code mem
    obtain ⟨spelling, -, rfl⟩ := List.mem_map.mp (List.mem_eraseDups.mp mem)
    have kept : decide (Text.trim (Text.trim spelling) = Text.trim spelling) = true :=
      decide_eq_true (Text.trim_trim spelling)
    rw [describe, describe, message?_ofList_filter (fun c => Text.trim c = c) kept]
  simp only [resolve_eq, LockReasons.describing, List.map_congr_left same]

end Catalog

/-- **A lock that is granted stores reasons that explain its codes.** -/
theorem Session.IsPlain.lock_explains {b : Backend} {s : Session} {k : Key} {d : Option Duration}
    {codes : List String} {reply : Reply} {entries : List (String × String)} (plain : s.IsPlain b)
    (made : s.service.catalog = .ofList entries)
    (granted : (s.perform (.command (.lock k d codes))).1.result? = some (.ok reply)) :
    ∃ f, reply = .feature f ∧
      ((s.perform (.command (.lock k d codes))).2.store.answer (.find k)).1 = .ok (some f) ∧
      ∀ code ∈ codes, f.lockReasons.Explains entries code := by
  obtain ⟨f, reports, -, locks, shows'⟩ := plain.lock_shows granted
  obtain ⟨reasons, t, resolved, -, made'⟩ := Service.lockedAt_ok locks
  have shown : f.lockReasons = reasons := by rw [made', Feature.lockReasons]
  rw [made] at resolved
  refine ⟨f, reports, shows'.answer_find, fun code mem => ?_⟩
  rw [shown]
  exact Catalog.explains_of_resolve resolved mem

/-- **A message is used exactly if it is entered under the trimmed code.**  However a catalog is
made from entries:

- When codes are resolved, each of them is explained by the last entry of the trimmed code, at the
  position of the trimmed code; without such an entry it stands for itself.
- Entries under any code that is not trimmed make no difference to what codes are resolved to.
- A lock that is granted, in either kind of store and whatever happened there before, answers and
  leaves behind a feature whose reasons explain all its codes in this way. -/
theorem message_of_trimmed_code_is_used {cat : Catalog} {entries : List (String × String)}
    (made : cat.IsMadeFrom entries) :
    (∀ codes r, cat.resolve codes = .ok r → ∀ code ∈ codes, r.Explains entries code) ∧
    (∀ codes, cat.resolve codes =
      (Catalog.ofList (entries.filter fun e => Text.trim e.1 = e.1)).resolve codes) ∧
    ∀ (b : Backend) (s : Session), s.IsPlain b → s.service.catalog = cat →
      ∀ (k : Key) (d : Option Duration) (codes : List String) (reply : Reply),
        (s.perform (.command (.lock k d codes))).1.result? = some (.ok reply) →
        ∃ f, reply = .feature f ∧
          ((s.perform (.command (.lock k d codes))).2.store.answer (.find k)).1 = .ok (some f) ∧
          ∀ code ∈ codes, f.lockReasons.Explains entries code := by
  obtain rfl := made.eq_ofList
  refine ⟨fun codes r resolved code => Catalog.explains_of_resolve resolved,
    fun codes => (Catalog.resolve_filter entries codes).symm, ?_⟩
  intro b s plain catalog k d codes reply granted
  exact plain.lock_explains catalog granted

/-- The last message of a trimmed code is used for another spelling of it, though that spelling has
an entry of its own. -/
theorem message_used_for_other_spelling :
    ∃ r,
      (Catalog.ofList [("A", "one"), (" A", "two"), ("A", "three")]).resolve ["B", " A"] = .ok r ∧
      r.Explains [("A", "one"), (" A", "two"), ("A", "three")] " A" ∧
      r.reasons[1]? = some "three" := by
  obtain ⟨explained, -⟩ :=
    message_of_trimmed_code_is_used (.entered [("A", "one"), (" A", "two"), ("A", "three")])
  have resolved :
      (Catalog.ofList [("A", "one"), (" A", "two"), ("A", "three")]).resolve ["B", " A"] =
        .ok ⟨["B", "A"], ["B", "three"]⟩ := rfl
  have explains := explained _ _ resolved " A" (by simp)
  exact ⟨_, resolved, explains, (explains.2 1 rfl).1 "three"
    ⟨[("A", "one"), (" A", "two")], [], rfl, by simp⟩⟩

/-- **A message can be lost.**  It was entered under a code with a space in front, and a lock with
that very code does not have it. -/
theorem message_of_padded_code_is_lost :
    let entries := [(" fraud", "Suspected fraud")]
    let s := Session.start ⟨.ofList entries, standardDuration⟩
      (Backend.memory.empty.after [.insert (.fresh ⟨1, "alice", "api"⟩)]) 1000
    let locked := s.perform (.command (.lock ⟨1, "alice", "api"⟩ none [" fraud"]))
    Catalog.LastMessage entries " fraud" "Suspected fraud" ∧
      (Catalog.ofList entries).describe " fraud" = "Suspected fraud" ∧
      (Catalog.ofList entries).resolve [" fraud"] = .ok ⟨["fraud"], ["fraud"]⟩ ∧
      (locked.2.store.answer (.find ⟨1, "alice", "api"⟩)).1 =
        .ok (some ⟨⟨1, "alice", "api"⟩, true, 0, ["fraud"], ["fraud"]⟩) :=
  ⟨⟨[], [], rfl, by simp⟩, rfl, rfl, rfl⟩

end FeatureLock
