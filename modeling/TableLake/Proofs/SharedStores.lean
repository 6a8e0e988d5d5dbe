/-
# TableLake.Proofs.SharedStores — one store for a kind of catalog and a warehouse

A loader is asked for the stores of contexts and told to use others in their place, while
stores are made elsewhere and worked on.  Which store is in use for a kind of catalog and a
warehouse is read off what was asked and answered, without a look at the loader
(`LoaderEvent.inUse`): the one that was registered last, or else the one that the first load
made.  Each operation keeps this in step with what the loader has written down
(`Loader.Accounts.step`), and it lets two kinds or warehouses meet in one store only if the
store was registered for one of them.
-/
import TableLake.Loader
import TableLake.Proofs.StoreOutcome
import Mathlib.Data.List.Induction

namespace TableLake

open TableLake.Outcome

set_option autoImplicit false

variable {c : Context} {pair : String × String} {ref : StoreRef} {l l' : Loader}

/-! ## Kinds and warehouses -/

namespace Context

/-- The kind of catalog and the warehouse that a context means, if it names a warehouse; who
names no kind means the default one. -/
def pair? (c : Context) : Option (String × String) :=
  match c.options.get? warehouseKey with
  | some warehouse =>
      if warehouse = "" then none
      else some ((c.options.get? metastoreKey).getD defaultMetastore, warehouse)
  | none => none

theorem key_eq (c : Context) :
    c.key = c.pair?.elim (.error (.missingOption warehouseKey)) .ok := by
  unfold key warehouse pair? metastore
  cases c.options.get? warehouseKey with
  | none => rfl
  | some warehouse =>
      by_cases empty : warehouse = ""
      · subst empty
        rfl
      · have solid : warehouse.isEmpty = false := by simpa using empty
        simp only [solid, if_neg empty]
        rfl

/-- A catalog is made of a kind that is known, for the warehouse and with all the settings. -/
theorem newCatalog_eq (named : c.pair? = some pair) :
    c.newCatalog =
      if pair.1 ∈ knownMetastores then .ok (.new pair.2 c.options)
      else .error (.unknownMetastore pair.1) := by
  have key : c.key = .ok pair := by rw [key_eq, named]; rfl
  simp only [Context.key, bind_eq_ok_iff, pure_eq_ok_iff] at key
  obtain ⟨warehouse, lives, rfl⟩ := key
  unfold newCatalog findMetastore
  simp only [lives]
  split
  · rename_i missing
    rw [if_neg]
    intro known
    have absent := List.find?_eq_none.mp missing c.metastore known
    simp at absent
  · rename_i m found
    have same : m = c.metastore := by simpa using List.find?_some found
    rw [if_pos (same ▸ List.mem_of_find?_eq_some found)]
    rfl

end Context

/-! ## Operations -/

/-- The answer of an operation and the loader it leaves behind. -/
def InLoader.outcome {ε α : Type} (act : InLoader ε α) (l : Loader) : Except ε α × Loader :=
  act.run l

namespace InLoader

variable {ε α β : Type}

theorem outcome_bind (act : InLoader ε α) (next : α → InLoader ε β) (l : Loader) :
    InLoader.outcome (act >>= next) l =
      match act.outcome l with
      | (.ok a, l') => (next a).outcome l'
      | (.error e, l') => (.error e, l') := by
  have chained : InLoader.outcome (act >>= next) l =
      ExceptT.bindCont next (act.outcome l).1 (act.outcome l).2 := rfl
  rw [chained]
  rcases act.outcome l with ⟨e | a, l'⟩ <;> rfl

theorem outcome_map (f : α → β) (act : InLoader ε α) (l : Loader) :
    InLoader.outcome (f <$> act) l = (f <$> (act.outcome l).1, (act.outcome l).2) := by
  rw [map_eq_pure_bind, outcome_bind]
  rcases act.outcome l with ⟨e | a, l'⟩ <;> rfl

theorem outcome_ofExcept (result : Except ε α) (l : Loader) :
    InLoader.outcome (ofExcept result : InLoader ε α) l = (result, l) := by
  cases result <;> rfl

end InLoader

namespace Loader

/-- A loader with a further store, made for a pair and in use for it. -/
def withNew (l : Loader) (pair : String × String) (options : Options) : Loader :=
  { l with
    stores := l.stores ++ [.new (.new pair.2 options) l.now]
    loaded := l.loaded.insert pair l.stores.length }

theorem outcome_register (c : Context) (ref : StoreRef) (l : Loader) :
    (register c ref).outcome l =
      match c.pair? with
      | none => (.error (.missingOption warehouseKey), l)
      | some pair => (.ok (), { l with loaded := l.loaded.insert pair ref }) := by
  unfold register
  rw [InLoader.outcome_bind, InLoader.outcome_ofExcept, Context.key_eq]
  cases c.pair? <;> rfl

theorem outcome_create (named : c.pair? = some pair) (l : Loader) :
    (create c).outcome l =
      if pair.1 ∈ knownMetastores then
        (.ok l.stores.length, { l with stores := l.stores ++ [.new (.new pair.2 c.options) l.now] })
      else (.error (.unknownMetastore pair.1), l) := by
  unfold create
  rw [InLoader.outcome_bind, InLoader.outcome_ofExcept, Context.newCatalog_eq named]
  by_cases known : pair.1 ∈ knownMetastores
  · simp only [if_pos known]
    rfl
  · simp only [if_neg known]

theorem outcome_load (c : Context) (l : Loader) :
    (load c).outcome l =
      match c.pair? with
      | none => (.error (.missingOption warehouseKey), l)
      | some pair =>
          match l.loaded.get? pair with
          | some ref => (.ok ref, l)
          | none =>
              if pair.1 ∈ knownMetastores then (.ok l.stores.length, l.withNew pair c.options)
              else (.error (.unknownMetastore pair.1), l) := by
  unfold load
  rw [InLoader.outcome_bind, InLoader.outcome_ofExcept, Context.key_eq]
  cases named : c.pair? with
  | none => rfl
  | some pair =>
      have looked : (get : InLoader CatalogError Loader).outcome l = (.ok l, l) := rfl
      simp only [Option.elim, InLoader.outcome_bind, looked]
      cases l.loaded.get? pair with
      | some ref => rfl
      | none =>
          simp only [InLoader.outcome_bind, outcome_create named]
          by_cases known : pair.1 ∈ knownMetastores
          · simp only [if_pos known]
            rfl
          · simp only [if_neg known]

theorem outcome_within {ε α : Type} (ref : StoreRef) (operation : InStore ε α) (l : Loader) :
    (within ref operation).outcome l =
      ((operation.outcome (l.storeAt ref)).1,
        { l with stores := l.stores.set ref (operation.outcome (l.storeAt ref)).2 }) := by
  have chained : (within ref operation).outcome l =
      (ofExcept (operation.outcome (l.storeAt ref)).1 : InLoader ε α).outcome
        { l with stores := l.stores.set ref (operation.outcome (l.storeAt ref)).2 } := rfl
  rw [chained, InLoader.outcome_ofExcept]

end Loader

/-- What is done with a loader and its stores. -/
inductive LoaderOp where
  /-- A store comes along that was made elsewhere. -/
  | keep (s : Store)
  | register (c : Context) (ref : StoreRef)
  | load (c : Context)
  /-- Somebody works on a store. -/
  | work (ref : StoreRef) (operation : InStore CatalogError Unit)

namespace LoaderOp

/-- The operation on a loader; the answer is the store that was kept or loaded, if any. -/
def run : LoaderOp → InLoader CatalogError (Option StoreRef)
  | .keep s => some <$> Loader.add s
  | .register c ref => do
      Loader.register c ref
      return none
  | .load c => some <$> Loader.load c
  | .work ref operation => do
      Loader.within ref operation
      return none

/-- The store that the operation is given. -/
def ref? : LoaderOp → Option StoreRef
  | .register _ ref => some ref
  | .work ref _ => some ref
  | _ => none

/-- What an operation answers and makes of a loader. -/
inductive Effect (l : Loader) : LoaderOp → Except CatalogError (Option StoreRef) → Loader → Prop
  | refused {op : LoaderOp} {e : CatalogError} : Effect l op (.error e) l
  | keep {s : Store} :
      Effect l (.keep s) (.ok (some l.stores.length)) { l with stores := l.stores ++ [s] }
  | register {c : Context} {ref : StoreRef} {pair : String × String}
      (named : c.pair? = some pair) :
      Effect l (.register c ref) (.ok none) { l with loaded := l.loaded.insert pair ref }
  | meet {c : Context} {ref : StoreRef} {pair : String × String}
      (named : c.pair? = some pair) (there : l.loaded.get? pair = some ref) :
      Effect l (.load c) (.ok (some ref)) l
  | make {c : Context} {pair : String × String}
      (named : c.pair? = some pair) (missing : l.loaded.get? pair = none) :
      Effect l (.load c) (.ok (some l.stores.length)) (l.withNew pair c.options)
  | work {ref : StoreRef} {operation : InStore CatalogError Unit} {s : Store}
      {answer : Except CatalogError (Option StoreRef)} :
      Effect l (.work ref operation) answer { l with stores := l.stores.set ref s }

theorem effect (op : LoaderOp) (l : Loader) :
    op.Effect l (op.run.outcome l).1 (op.run.outcome l).2 := by
  cases op with
  | keep s => exact .keep
  | register c ref =>
      rw [run, InLoader.outcome_bind, Loader.outcome_register]
      cases named : c.pair? with
      | none => exact .refused
      | some pair => exact .register named
  | load c =>
      rw [run, InLoader.outcome_map, Loader.outcome_load]
      cases named : c.pair? with
      | none => exact .refused
      | some pair =>
          simp only
          cases there : l.loaded.get? pair with
          | some ref => exact .meet named there
          | none =>
              simp only
              split
              · exact .make named there
              · exact .refused
  | work ref operation =>
      rw [run, InLoader.outcome_bind, Loader.outcome_within]
      rcases operation.outcome (l.storeAt ref) with ⟨e | done, s⟩
      · exact .work
      · exact .work

end LoaderOp

/-! ## What was asked and answered -/

/-- An operation and its answer. -/
structure LoaderEvent where
  op : LoaderOp
  answer : Except CatalogError (Option StoreRef)

namespace LoaderEvent

variable {events before after : List LoaderEvent} {e : LoaderEvent}

/-- The store that the event put in use for a pair. -/
def registered? (pair : String × String) : LoaderEvent → Option StoreRef
  | ⟨.register c ref, .ok _⟩ => if c.pair? = some pair then some ref else none
  | _ => none

/-- The store that the event loaded for a pair. -/
def loaded? (pair : String × String) : LoaderEvent → Option StoreRef
  | ⟨.load c, .ok ref⟩ => if c.pair? = some pair then ref else none
  | _ => none

/-- The store that is in use for a pair after events: the one registered last, or else the
one that was loaded first. -/
def inUse (pair : String × String) (events : List LoaderEvent) : Option StoreRef :=
  (events.filterMap (registered? pair)).getLast?.or (events.filterMap (loaded? pair)).head?

theorem registered?_eq_some_iff : e.registered? pair = some ref ↔
    ∃ c answer, e = ⟨.register c ref, .ok answer⟩ ∧ c.pair? = some pair := by
  unfold registered?
  split
  · rename_i c ref' answer
    rw [Option.ite_none_right_eq_some, Option.some.injEq]
    constructor
    · rintro ⟨named, rfl⟩
      exact ⟨c, answer, rfl, named⟩
    · rintro ⟨c', answer', same, named⟩
      cases same
      exact ⟨named, rfl⟩
  · rename_i other
    exact iff_of_false (by rintro ⟨⟩) fun ⟨c, answer, same, _⟩ => other c ref answer same

theorem loaded?_eq_some_iff : e.loaded? pair = some ref ↔
    ∃ c, e = ⟨.load c, .ok (some ref)⟩ ∧ c.pair? = some pair := by
  unfold loaded?
  split
  · rename_i c answer
    rw [Option.ite_none_right_eq_some]
    constructor
    · rintro ⟨named, rfl⟩
      exact ⟨c, rfl, named⟩
    · rintro ⟨c', same, named⟩
      cases same
      exact ⟨named, rfl⟩
  · rename_i other
    exact iff_of_false (by rintro ⟨⟩) fun ⟨c, same, _⟩ => other c (some ref) same

/-- What an event does to the store in use: it puts another in its place, or it is the first
to load one. -/
theorem inUse_concat (pair : String × String) (events : List LoaderEvent) (e : LoaderEvent) :
    inUse pair (events ++ [e]) =
      (e.registered? pair).or ((inUse pair events).or (e.loaded? pair)) := by
  have one (f : LoaderEvent → Option StoreRef) : [e].filterMap f = (f e).toList := by
    cases there : f e with
    | none => rw [List.filterMap_cons_none there]; rfl
    | some ref => rw [List.filterMap_cons_some there]; rfl
  have last (o : Option StoreRef) : o.toList.getLast? = o := by cases o <;> rfl
  simp only [inUse, List.filterMap_append, one, List.getLast?_append, List.head?_append, last,
    Option.head?_toList, Option.or_assoc]

/-- The store in use stays so until another is registered. -/
theorem inUse_append (used : inUse pair before = some ref)
    (none : ∀ e ∈ after, e.registered? pair = none) :
    inUse pair (before ++ after) = some ref := by
  induction after using List.reverseRecOn with
  | nil => rwa [List.append_nil]
  | append_singleton after e ih =>
      have earlier := ih fun e inside => none e (List.mem_append_left _ inside)
      have last := none e (List.mem_append_right _ (List.mem_singleton_self e))
      rw [← List.append_assoc, inUse_concat, last, earlier]
      rfl

/-- What is in use was registered or loaded. -/
theorem exists_of_inUse (used : inUse pair events = some ref) :
    ∃ e ∈ events, e.registered? pair = some ref ∨ e.loaded? pair = some ref := by
  rcases Option.or_eq_some_iff.mp used with put | ⟨-, first⟩
  · obtain ⟨e, inside, put⟩ := List.mem_filterMap.mp (List.mem_of_getLast? put)
    exact ⟨e, inside, .inl put⟩
  · obtain ⟨e, inside, first⟩ := List.mem_filterMap.mp (List.mem_of_head? first)
    exact ⟨e, inside, .inr first⟩

end LoaderEvent

open LoaderEvent (inUse)

/-- Operations were done with a loader that had no stores, and answered as they are written
down; they were given only stores that were there. -/
inductive Loader.Ran : List LoaderEvent → Loader → Prop
  | new (now : Int) : Ran [] (.new now)
  | step {events : List LoaderEvent} {l : Loader} (ran : Ran events l) (op : LoaderOp)
      (there : ∀ ref, op.ref? = some ref → ref < l.stores.length) :
      Ran (events ++ [⟨op, (op.run.outcome l).1⟩]) (op.run.outcome l).2

/-! ## From one operation to the next -/

namespace LoaderOp.Effect

variable {op : LoaderOp} {answer : Except CatalogError (Option StoreRef)}

theorem length_le (effect : op.Effect l answer l') : l.stores.length ≤ l'.stores.length := by
  cases effect <;> simp [Loader.withNew]

/-- What is written down for a pair changes as the store in use does. -/
theorem get?_loaded (effect : op.Effect l answer l') (pair : String × String) :
    l'.loaded.get? pair = (LoaderEvent.registered? pair ⟨op, answer⟩).or
      ((l.loaded.get? pair).or (LoaderEvent.loaded? pair ⟨op, answer⟩)) := by
  cases effect with
  | refused => simp [LoaderEvent.registered?, LoaderEvent.loaded?]
  | keep => simp [LoaderEvent.registered?, LoaderEvent.loaded?]
  | work => simp [LoaderEvent.registered?, LoaderEvent.loaded?]
  | @register c ref pair' named =>
      simp only [LoaderEvent.registered?, named, Option.some.injEq, OrderedMap.get?_insert]
      split <;> simp [LoaderEvent.loaded?]
  | @meet c ref pair' named there =>
      simp only [LoaderEvent.registered?, LoaderEvent.loaded?, named, Option.some.injEq]
      split
      · simp_all
      · simp
  | @make c pair' named missing =>
      simp only [LoaderEvent.registered?, LoaderEvent.loaded?, named, Option.some.injEq,
        Loader.withNew, OrderedMap.get?_insert]
      split
      · simp_all
      · simp

/-- A load meets the store in use or is given a new one. -/
theorem of_loaded (effect : op.Effect l answer l')
    (loaded : LoaderEvent.loaded? pair ⟨op, answer⟩ = some ref) :
    l.loaded.get? pair = some ref ∨
      ref = l.stores.length ∧ l'.stores.length = l.stores.length + 1 := by
  obtain ⟨c, same, named⟩ := LoaderEvent.loaded?_eq_some_iff.mp loaded
  cases same
  cases effect with
  | meet named' there =>
      cases named.symm.trans named'
      exact .inl there
  | make => exact .inr ⟨rfl, by simp [Loader.withNew]⟩

theorem get?_of_loaded (effect : op.Effect l answer l')
    (loaded : LoaderEvent.loaded? pair ⟨op, answer⟩ = some ref) :
    l'.loaded.get? pair = some ref := by
  obtain ⟨c, same, named⟩ := LoaderEvent.loaded?_eq_some_iff.mp loaded
  cases same
  cases effect with
  | meet named' there =>
      cases named.symm.trans named'
      exact there
  | make named' missing =>
      cases named.symm.trans named'
      rw [Loader.withNew, OrderedMap.get?_insert, if_pos rfl]

end LoaderOp.Effect

/-- What a loader has written down is what was asked and answered. -/
structure Loader.Accounts (events : List LoaderEvent) (l : Loader) : Prop where
  used : ∀ pair, l.loaded.get? pair = inUse pair events
  kept : ∀ e ∈ events, ∀ pair ref,
    e.registered? pair = some ref ∨ e.loaded? pair = some ref → ref < l.stores.length
  apart : ∀ e ∈ events, ∀ e' ∈ events, ∀ pair pair' ref,
    e.loaded? pair = some ref → e'.loaded? pair' = some ref → pair ≠ pair' →
      ∃ put ∈ events, put.registered? pair = some ref ∨ put.registered? pair' = some ref

namespace Loader

variable {events middle : List LoaderEvent} {op : LoaderOp}
variable {answer : Except CatalogError (Option StoreRef)}

theorem Accounts.lt_of_inUse (accounts : Accounts events l) (used : inUse pair events = some ref) :
    ref < l.stores.length := by
  obtain ⟨e, inside, gave⟩ := LoaderEvent.exists_of_inUse used
  exact accounts.kept e inside pair ref gave

/-- A store that is loaded for a pair, and was registered or loaded for another one before, was
registered for one of them. -/
theorem Accounts.apart_of_step (accounts : Accounts events l) (effect : op.Effect l answer l')
    {e : LoaderEvent} {pair' : String × String} (inside : e ∈ events)
    (one : LoaderEvent.loaded? pair ⟨op, answer⟩ = some ref)
    (other : e.loaded? pair' = some ref) (differ : pair ≠ pair') :
    ∃ put ∈ events, put.registered? pair = some ref ∨ put.registered? pair' = some ref := by
  rcases effect.of_loaded one with met | ⟨rfl, _⟩
  · rw [accounts.used] at met
    obtain ⟨first, earlier, put | loaded⟩ := LoaderEvent.exists_of_inUse met
    · exact ⟨first, earlier, .inl put⟩
    · exact accounts.apart first earlier e inside pair pair' ref loaded other differ
  · exact absurd (accounts.kept e inside pair' _ (.inr other)) (Nat.lt_irrefl _)

theorem Accounts.step (accounts : Accounts events l) (effect : op.Effect l answer l')
    (there : ∀ ref, op.ref? = some ref → ref < l.stores.length) :
    Accounts (events ++ [⟨op, answer⟩]) l' where
  used pair := by
    rw [effect.get?_loaded pair, accounts.used pair, LoaderEvent.inUse_concat]
  kept := by
    intro e inside pair ref gave
    rcases List.mem_append.mp inside with earlier | last
    · exact Nat.lt_of_lt_of_le (accounts.kept e earlier pair ref gave) effect.length_le
    · cases List.mem_singleton.mp last
      rcases gave with put | loaded
      · obtain ⟨c, answer', same, _⟩ := LoaderEvent.registered?_eq_some_iff.mp put
        cases same
        exact Nat.lt_of_lt_of_le (there ref rfl) effect.length_le
      · rcases effect.of_loaded loaded with met | ⟨rfl, longer⟩
        · rw [accounts.used] at met
          exact Nat.lt_of_lt_of_le (accounts.lt_of_inUse met) effect.length_le
        · rw [longer]
          exact Nat.lt_succ_self _
  apart := by
    intro e inside e' inside' pair pair' ref one other differ
    have widen {property : LoaderEvent → Prop} : (∃ put ∈ events, property put) →
        ∃ put ∈ events ++ [⟨op, answer⟩], property put :=
      fun ⟨put, there, holds⟩ => ⟨put, List.mem_append_left _ there, holds⟩
    rcases List.mem_append.mp inside with earlier | last
    · rcases List.mem_append.mp inside' with earlier' | last'
      · exact widen (accounts.apart e earlier e' earlier' pair pair' ref one other differ)
      · cases List.mem_singleton.mp last'
        simp only [or_comm (a := LoaderEvent.registered? pair _ = _)]
        exact widen (accounts.apart_of_step effect earlier other one differ.symm)
    · cases List.mem_singleton.mp last
      rcases List.mem_append.mp inside' with earlier' | last'
      · exact widen (accounts.apart_of_step effect earlier' one other differ)
      · cases List.mem_singleton.mp last'
        obtain ⟨c, same, named⟩ := LoaderEvent.loaded?_eq_some_iff.mp one
        cases same
        obtain ⟨c', same, named'⟩ := LoaderEvent.loaded?_eq_some_iff.mp other
        cases same
        exact absurd (Option.some.inj (named.symm.trans named')) differ

theorem Ran.accounts (ran : Ran events l) : Accounts events l := by
  induction ran with
  | new now =>
      refine ⟨fun pair => rfl, ?_, ?_⟩
      · rintro e ⟨⟩
      · rintro e ⟨⟩
  | step _ op there ih => exact ih.step (op.effect _) there

theorem Ran.last {e : LoaderEvent} (ran : Ran (events ++ [e]) l') :
    ∃ l, Ran events l ∧ e.op.Effect l e.answer l' := by
  generalize all : events ++ [e] = events' at ran
  cases ran with
  | new now => exact absurd all (List.append_ne_nil_of_right_ne_nil _ (List.cons_ne_nil _ _))
  | step ran op there =>
      obtain ⟨rfl, same⟩ := List.append_inj' all rfl
      cases same
      exact ⟨_, ran, op.effect _⟩

theorem Ran.of_append {after : List LoaderEvent} (ran : Ran (events ++ after) l) :
    ∃ l, Ran events l := by
  induction after using List.reverseRecOn generalizing l with
  | nil => exact ⟨l, by rwa [List.append_nil] at ran⟩
  | append_singleton after e ih =>
      rw [← List.append_assoc] at ran
      obtain ⟨l₀, ran, _⟩ := ran.last
      exact ih ran

/-- The store that a load gave for a pair stays in use until another is registered. -/
theorem Ran.inUse_of_loaded {after : List LoaderEvent} {e : LoaderEvent}
    (ran : Ran (events ++ [e] ++ after) l) (loaded : e.loaded? pair = some ref)
    (none : ∀ e ∈ after, e.registered? pair = none) :
    inUse pair (events ++ [e] ++ after) = some ref := by
  obtain ⟨l', ran⟩ := ran.of_append
  obtain ⟨_, _, effect⟩ := ran.last
  refine LoaderEvent.inUse_append ?_ none
  rw [← ran.accounts.used pair, effect.get?_of_loaded loaded]

end Loader

/-- **A kind of catalog and a warehouse have one store.**  After operations on a loader, a load
gives the store in use for the kind and the warehouse of its context, whatever else the context
says, and leaves the loader as it was: the store that was registered last, or else the one that
the first load gave.  Where none is in use a load makes one, unless the kind is unknown, and no
store that was there before is taken for it.  So the store that a load gave stays in use until
another is registered, and loads for two pairs give the same store only if it was registered for
one of them.  A load or a register that is refused changes nothing. -/
theorem one_store_per_warehouse {events : List LoaderEvent} (ran : Loader.Ran events l) :
    (∀ c : Context, (Loader.load c).outcome l =
      match c.pair? with
      | none => (.error (.missingOption warehouseKey), l)
      | some pair =>
          match inUse pair events with
          | some ref => (.ok ref, l)
          | none =>
              if pair.1 ∈ knownMetastores then (.ok l.stores.length, l.withNew pair c.options)
              else (.error (.unknownMetastore pair.1), l)) ∧
    (∀ (c : Context) (ref : StoreRef), (Loader.register c ref).outcome l =
      match c.pair? with
      | none => (.error (.missingOption warehouseKey), l)
      | some pair => (.ok (), { l with loaded := l.loaded.insert pair ref })) ∧
    (∀ {pair : String × String} {ref : StoreRef},
      inUse pair events = some ref → ref < l.stores.length) ∧
    (∀ {before after : List LoaderEvent} {e : LoaderEvent} {pair : String × String}
      {ref : StoreRef}, events = before ++ [e] ++ after → e.loaded? pair = some ref →
      (∀ e ∈ after, e.registered? pair = none) → inUse pair events = some ref) ∧
    ∀ e ∈ events, ∀ e' ∈ events, ∀ pair pair' ref,
      e.loaded? pair = some ref → e'.loaded? pair' = some ref → pair ≠ pair' →
        ∃ put ∈ events, put.registered? pair = some ref ∨ put.registered? pair' = some ref := by
  have accounts := ran.accounts
  refine ⟨fun c => ?_, fun c ref => Loader.outcome_register c ref l, accounts.lt_of_inUse, ?_,
    accounts.apart⟩
  · rw [Loader.outcome_load]
    simp only [accounts.used]
  · rintro before after e pair ref rfl loaded none
    exact ran.inUse_of_loaded loaded none

/-- A context that names a warehouse and settles something more. -/
def Context.naming (warehouse : String) (more : List (String × String)) : Context :=
  ⟨.ofList ((warehouseKey, warehouse) :: more)⟩

/-- A store for the sea is loaded, one of an unknown kind is not; another that was made
elsewhere is registered for that kind. -/
theorem one_store_per_warehouse_sea :
    let hive := Context.naming "sea" [(metastoreKey, "hive")]
    let deep := Context.naming "sea" [("depth", "3"), (metastoreKey, "memory")]
    let reef := Context.naming "reef" []
    ∃ events l, Loader.Ran events l ∧
      events.map (fun e => e.answer.toOption) = [some (some 0), none, some (some 1), some none] ∧
      (Loader.load deep).outcome l = (.ok 0, l) ∧ (Loader.load hive).outcome l = (.ok 1, l) ∧
      (Loader.load reef).outcome l = (.ok 2, l.withNew ("memory", "reef") reef.options) ∧
      (Loader.load (.naming "" [])).outcome l = (.error (.missingOption "warehouse"), l) := by
  intro hive deep reef
  have start := Loader.Ran.new 7
  have first := start.step (.load (.naming "sea" [])) (by rintro _ ⟨⟩)
  have second := first.step (.load hive) (by rintro _ ⟨⟩)
  have third := second.step (.keep (.new (.new "lagoon" ∅) 5)) (by rintro _ ⟨⟩)
  have fourth := third.step (.register hive 1) (by rintro _ ⟨⟩; decide +kernel)
  obtain ⟨loads, _, _, _, _⟩ := one_store_per_warehouse fourth
  refine ⟨_, _, fourth, by decide +kernel, ?_, ?_, ?_, ?_⟩
  · rw [loads deep]
    rfl
  · rw [loads hive]
    rfl
  · rw [loads reef]
    rfl
  · rw [loads]
    rfl

end TableLake
