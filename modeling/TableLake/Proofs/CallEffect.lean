/-
# TableLake.Proofs.CallEffect — a call does one thing or nothing

A call goes through the name, the mounted catalog, the procedure and its arguments before a
store is asked, and what comes after the store's answer cannot fail (`outcome_report`).
So a call that is refused leaves every catalog as it was, and one that is accepted has done one
operation in one store, on the table that its arguments name, and reports it
(`call_all_or_nothing`).
-/
import TableLake.Session.Statement
import TableLake.Proofs.ProcedureEffect

namespace TableLake

open TableLake.Text TableLake.Sql TableLake.Outcome

set_option autoImplicit false

variable {α β : Type}

/-! ## Sessions -/

/-- The result of an operation and the session it leaves behind. -/
def InSession.outcome (act : InSession α) (s : Session) : Except EngineError α × Session :=
  act.run s

theorem InSession.outcome_bind (act : InSession α) (next : α → InSession β) (s : Session) :
    InSession.outcome (act >>= next) s =
      match act.outcome s with
      | (.ok a, s') => (next a).outcome s'
      | (.error e, s') => (.error e, s') := by
  have chained : InSession.outcome (act >>= next) s =
      ExceptT.bindCont next (act.outcome s).1 (act.outcome s).2 := rfl
  rw [chained]
  rcases act.outcome s with ⟨e | a, s'⟩ <;> rfl

theorem InSession.outcome_ofExcept (result : Except EngineError α) (s : Session) :
    InSession.outcome (ofExcept result) s = (result, s) := by
  cases result <;> rfl

namespace Session

/-- The catalogs of the stores that the session can reach. -/
def catalogs (s : Session) : List Catalog := s.loader.stores.map Store.catalog

/-- The session with a store in the place of another. -/
def withStore (s : Session) (ref : StoreRef) (store : Store) : Session :=
  { s with loader := { s.loader with stores := s.loader.stores.set ref store } }

/-- The sessions differ at most in what is in their catalogs and in the logs of gates. -/
structure Alike (s s' : Session) : Prop where
  settings : s'.settings = s.settings
  mounts : s'.mounts = s.mounts
  loaded : s'.loader.loaded = s.loader.loaded
  now : s'.loader.now = s.loader.now
  stores : List.Forall₂ Store.Alike s.loader.stores s'.loader.stores

/-- Work on one of the loader's stores gives what it gives there, and leaves the rest alone. -/
theorem outcome_within {ε : Type} (words : ε → EngineError) (ref : StoreRef)
    (act : InStore ε α) (s : Session) :
    (inLoader words (Loader.within ref act)).outcome s =
      ((act.outcome (s.loader.storeAt ref)).1.mapError words,
        s.withStore ref (act.outcome (s.loader.storeAt ref)).2) := by
  let left : Loader :=
    { s.loader with stores := s.loader.stores.set ref (act.outcome (s.loader.storeAt ref)).2 }
  have inside : (Loader.within ref act).run s.loader =
      (ofExcept (act.outcome (s.loader.storeAt ref)).1 : InLoader ε α).run left := rfl
  have inside : (Loader.within ref act).run s.loader =
      ((act.outcome (s.loader.storeAt ref)).1, left) := by
    rw [inside]
    cases (act.outcome (s.loader.storeAt ref)).1 <;> rfl
  have outside : (inLoader words (Loader.within ref act)).outcome s =
      InSession.outcome (ofExcept (((Loader.within ref act).run s.loader).1.mapError words))
        { s with loader := ((Loader.within ref act).run s.loader).2 } := rfl
  rw [outside, inside, InSession.outcome_ofExcept]
  rfl

theorem Alike.refl (s : Session) : s.Alike s :=
  ⟨rfl, rfl, rfl, rfl, List.forall₂_same.mpr fun store _ => .refl store⟩

theorem alike_withStore {s : Session} {ref : StoreRef} {store store' : Store}
    (there : s.loader.stores[ref]? = some store) (alike : store.Alike store') :
    s.Alike (s.withStore ref store') :=
  ⟨rfl, rfl, rfl, rfl, related_set Store.Alike.refl alike there⟩

theorem catalogs_withStore (s : Session) (ref : StoreRef) (store : Store) :
    (s.withStore ref store).catalogs = s.catalogs.set ref store.catalog :=
  List.map_set

theorem storeAt_of_there {s : Session} {ref : StoreRef} {store : Store}
    (there : s.loader.stores[ref]? = some store) : s.loader.storeAt ref = store := by
  rw [Loader.storeAt, there]
  rfl

/-- A store in its own place is no other. -/
theorem withStore_self {s : Session} {ref : StoreRef} {store : Store}
    (there : s.loader.stores[ref]? = some store) : s.withStore ref store = s := by
  obtain ⟨inside, rfl⟩ := List.getElem?_eq_some_iff.mp there
  unfold withStore
  rw [List.set_getElem_self inside]

/-- Where there is no store, none can be put in its place. -/
theorem withStore_of_missing {s : Session} {ref : StoreRef}
    (missing : s.loader.stores[ref]? = none) (store : Store) : s.withStore ref store = s := by
  unfold withStore
  rw [List.set_eq_of_length_le (List.getElem?_eq_none_iff.mp missing)]

/-- The session is the other, but for the logs of gates. -/
structure Spares (s s' : Session) : Prop extends Alike s s' where
  catalogs : s'.catalogs = s.catalogs
  ungated : (∀ store ∈ s.loader.stores, store.gate = none) → s' = s

theorem Spares.refl (s : Session) : s.Spares s := ⟨.refl s, rfl, fun _ => rfl⟩

/-- A store that has kept its catalog is put back. -/
theorem spares_withStore {s : Session} {ref : StoreRef} {store' : Store}
    (alike : (s.loader.storeAt ref).Alike store')
    (kept : store'.catalog = (s.loader.storeAt ref).catalog) : s.Spares (s.withStore ref store') := by
  cases there : s.loader.stores[ref]? with
  | none =>
      rw [withStore_of_missing there]
      exact .refl s
  | some store =>
      rw [storeAt_of_there there] at alike kept
      refine ⟨alike_withStore there alike, ?_, fun ungated => ?_⟩
      · rw [catalogs_withStore, kept, ← catalogs_withStore, withStore_self there]
      · have same : store' = store :=
          alike.eq (ungated store (List.mem_of_getElem? there)) kept
        rw [same, withStore_self there]

/-- The store that stands in for a missing one has no tables. -/
theorem exists_store {s : Session} {ref : StoreRef} {id : TableId} {t : TableEntry}
    (found : (s.loader.storeAt ref).catalog.entry? id = some t) :
    ∃ store, s.loader.stores[ref]? = some store := by
  cases there : s.loader.stores[ref]? with
  | some store => exact ⟨store, rfl⟩
  | none =>
      rw [Loader.storeAt, there] at found
      cases found

theorem outcome_mount? (name : String) (s : Session) :
    (mount? name).outcome s = (.ok (s.mounts.get? name), s) := rfl

end Session

/-! ## Calls -/

/-- The answer to a call: one message. -/
def report (message : String) : RowSet := ⟨[resultField], [[some (.text message)]]⟩

/-- One message is always an answer. -/
theorem outcome_report (message : String) (s : Session) :
    InSession.outcome (do return .ofBatch (← ofExcept (resultBatch [message]))) s =
      (.ok (report message), s) := rfl

namespace Session

/-- A call is refused, and the session is spared; or it has done in a store what its procedure
does. -/
theorem call_cases (d : Dialect) (c : Call) (s : Session) :
    (∃ e s', (call d c).outcome s = (.error e, s') ∧ s.Spares s') ∨
    ∃ p args ref store', (s.mounts.get? c.catalog).bind Mount.lake = some ref ∧
      Procedure.load c.procedure = .ok p ∧ c.bind d p = .ok args ∧
      (s.loader.storeAt ref).Alike store' ∧
      ∃ id message, (call d c).outcome s = (.ok (report message), s.withStore ref store') ∧
        p.Does args (s.loader.storeAt ref).catalog (s.loader.storeAt ref).now id store'.catalog
          message := by
  unfold call
  rw [InSession.outcome_bind, outcome_mount?]
  cases s.mounts.get? c.catalog with
  | none => exact .inl ⟨_, s, rfl, .refl s⟩
  | some m =>
      cases lake : m.lake with
      | none =>
          simp only [lake]
          exact .inl ⟨_, s, rfl, .refl s⟩
      | some ref =>
          simp only [lake]
          rw [InSession.outcome_bind, InSession.outcome_ofExcept]
          cases Procedure.load c.procedure with
          | error e => exact .inl ⟨.procedure e, s, rfl, .refl s⟩
          | ok p =>
              simp only [Except.mapError]
              rw [InSession.outcome_bind, InSession.outcome_ofExcept]
              cases bound : c.bind d p with
              | error e => exact .inl ⟨e, s, rfl, .refl s⟩
              | ok args =>
                  simp only
                  rw [InSession.outcome_bind, outcome_within]
                  obtain ⟨store', alike, ⟨e, refused, kept⟩ | ⟨_, done, id, message, rfl, does⟩⟩ :=
                    p.effects_call args (s.loader.storeAt ref)
                  · rw [refused]
                    exact .inl ⟨.procedure e, _, rfl, spares_withStore alike kept⟩
                  · rw [done]
                    exact .inr ⟨p, args, ref, store', lake, rfl, bound, alike, id, message,
                      outcome_report message _, does⟩

theorem outcome_execute_call (d : Dialect) (name : ObjectName) (arguments : WrittenArguments)
    (s : Session) :
    (execute d (.call name arguments)).outcome s =
      match Call.ofWritten name arguments s.settings.defaultCatalog with
      | .error e => (.error e, s)
      | .ok c => (call d c).outcome s := by
  have chain : (execute d (.call name arguments)).outcome s =
      InSession.outcome (ofExcept (Call.ofWritten name arguments s.settings.defaultCatalog) >>=
        call d) s := rfl
  rw [chain, InSession.outcome_bind, InSession.outcome_ofExcept]
  cases Call.ofWritten name arguments s.settings.defaultCatalog <;> rfl

end Session

/-- **A call does one thing or nothing.**  In a session whose catalogs operations led to, a call
leaves everything but catalogs alone.  If it is refused, for its name, its catalog, its procedure,
its arguments or by the store, every catalog is what it was, and without gates so is the whole
session.  If it is accepted, it has done what the procedure does (`Procedure.Does`), once, in the
store of the catalog that its name means, on the table that its bound arguments name.  All other
catalogs, and in this one all other tables and the schema of this one, are what they were, and
what the message says of the table is so (`Procedure.Faithful`). -/
theorem call_all_or_nothing {d : Dialect} {s s' : Session} {name : ObjectName}
    {arguments : WrittenArguments} {result : Except EngineError RowSet}
    (reached : ∀ c ∈ s.catalogs, Reachable c)
    (ran : (Session.execute d (.call name arguments)).outcome s = (result, s')) :
    s.Alike s' ∧
      ((∃ e, result = .error e ∧ s'.catalogs = s.catalogs ∧
          ((∀ store ∈ s.loader.stores, store.gate = none) → s' = s)) ∨
        ∃ call p args ref store c' id t t' message,
          result = .ok (report message) ∧
          Call.ofWritten name arguments s.settings.defaultCatalog = .ok call ∧
          (s.mounts.get? call.catalog).bind Mount.lake = some ref ∧
          s.loader.stores[ref]? = some store ∧
          Procedure.load call.procedure = .ok p ∧ call.bind d p = .ok args ∧
          p.Does args store.catalog store.now id c' message ∧
          s'.catalogs = s.catalogs.set ref c' ∧ store.catalog.SameBut id c' ∧
          store.catalog.entry? id = some t ∧ c'.entry? id = some t' ∧ t'.schema = t.schema ∧
          p.Faithful args id store.catalog c' t t' message) := by
  rw [Session.outcome_execute_call] at ran
  cases written : Call.ofWritten name arguments s.settings.defaultCatalog with
  | error e =>
      rw [written] at ran
      cases ran
      exact ⟨.refl s, .inl ⟨e, rfl, rfl, fun _ => rfl⟩⟩
  | ok call =>
      rw [written] at ran
      replace ran : (Session.call d call).outcome s = (result, s') := ran
      rcases Session.call_cases d call s with ⟨e, left, refused, spares⟩ | accepted
      · rw [refused] at ran
        cases ran
        exact ⟨spares.toAlike, .inl ⟨e, rfl, spares.catalogs, spares.ungated⟩⟩
      · obtain ⟨p, args, ref, store', mounted, loaded, bound, alike, id, message, done, does⟩ :=
          accepted
        rw [done] at ran
        cases ran
        obtain ⟨t, t', found, left, columns, -⟩ := does.exists_entry
        obtain ⟨store, there⟩ := Session.exists_store found
        rw [Session.storeAt_of_there there] at alike does found
        have orderly : t.Orderly :=
          (reached _ (List.mem_map_of_mem (List.mem_of_getElem? there))).orderly found
        exact ⟨Session.alike_withStore there alike, .inr ⟨call, p, args, ref, store,
          store'.catalog, id, t, t', message, rfl, rfl, mounted, there, loaded, bound, does,
          Session.catalogs_withStore s ref store', does.sameBut, found, left, columns,
          does.faithful orderly found left⟩⟩

/-- A session in which one catalog is mounted. -/
def atSea (c : Catalog) : Session :=
  ⟨.standard, OrderedMap.ofList [("sea", ⟨some 0, none⟩)], ⟨[.new c 62], ∅, 62⟩⟩

theorem catalogs_atSea (c : Catalog) : Session.catalogs (atSea c) = [c] := rfl

theorem store_atSea {c : Catalog} {ref : StoreRef} {store : Store}
    (mounted : ((atSea c).mounts.get? "sea").bind Mount.lake = some ref)
    (there : (atSea c).loader.stores[ref]? = some store) : ref = 0 ∧ store.catalog = c := by
  cases mounted
  cases there
  exact ⟨rfl, rfl⟩

/-- A call that takes a table back to its first snapshot, by its tag; the compaction behind it
is gone. -/
theorem call_all_or_nothing_rollback :
    let sea := CatalogOp.afterAll (.new "sea" ∅) catchRun
    let s := atSea sea
    let name : ObjectName := [⟨"sea", none⟩, ⟨"sys", none⟩, ⟨"rollback_to", none⟩]
    let arguments : WrittenArguments :=
      .list [.unnamed (.term (.text "lake.landed" '\'')), .unnamed (.term (.text "first" '\''))]
    ∃ s' c' id t t' version last,
      (Session.execute .generic (.call name arguments)).outcome s =
        (.ok (report "Rolled back lake.landed to tag first"), s') ∧
      s'.catalogs = [c'] ∧ sea.SameBut id c' ∧ sea.entry? id = some t ∧ c'.entry? id = some t' ∧
      (t.view id).atVersion version = .ok last ∧ t'.snapshots.getLast? = some last := by
  intro sea s name arguments
  have answered : ((Session.execute .generic (.call name arguments)).outcome s).1.toOption =
      some (report "Rolled back lake.landed to tag first") := by
    decide +kernel
  have meant : (Call.ofWritten name arguments s.settings.defaultCatalog).toOption.map
      (fun call => (call.catalog, call.procedure)) =
      some ("sea", ⟨["sys"], "rollback_to"⟩) := by
    decide +kernel
  have reached : Reachable sea := (Reachable.new "sea" ∅).afterAll _
  have reached : ∀ c ∈ s.catalogs, Reachable c := by
    intro c inside
    rw [catalogs_atSea, List.mem_singleton] at inside
    rw [inside]
    exact reached
  obtain ⟨left, ran⟩ : ∃ left, (Session.execute .generic (.call name arguments)).outcome s = left :=
    ⟨_, rfl⟩
  obtain ⟨result, s'⟩ := left
  rw [ran] at answered
  cases toOption_eq_some_iff.mp answered
  obtain ⟨-, ⟨e, refused, -⟩ | done⟩ := call_all_or_nothing reached ran
  · cases refused
  · obtain ⟨call, p, args, ref, store, c', id, t, t', message, -, written, mounted, there, loaded,
      -, -, changed, same, found, left, -, faithful⟩ := done
    rw [written] at meant
    obtain ⟨catalog, procedure⟩ := Prod.mk.inj (Option.some.inj meant)
    rw [procedure] at loaded
    cases loaded
    obtain ⟨version, last, -, shows, kept⟩ := faithful
    rw [catalog] at mounted
    obtain ⟨rfl, own⟩ := store_atSea mounted there
    rw [catalogs_atSea, List.set_cons_zero] at changed
    rw [own] at same found
    exact ⟨s', c', id, t, t', version, last, ran, changed, same, found, left, shows, kept⟩

end TableLake
