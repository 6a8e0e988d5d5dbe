/-
# TableLake.Session.Statement — statements carried out

Each statement is planned first: the tables it names are looked up and what is
wrong with it is said before anything changes.  Then it is carried out and answers
with rows; those that make or drop something answer with no columns.
-/
import TableLake.Session
import TableLake.Sql.Query
import TableLake.Call

namespace TableLake

open TableLake.Sql TableLake.Text

set_option autoImplicit false

namespace Session

/-! ## Calls -/

/-- Bind and run a procedure of a mounted catalog. -/
def call (d : Dialect) (c : Call) : InSession RowSet := do
  match ← mount? c.catalog with
  | none => throw (.plan (.noCatalog c.catalog))
  | some m =>
      match m.lake with
      | none => throw (.procedure (.noProcedures c.catalog))
      | some ref =>
          let p ← ofExcept ((Procedure.load c.procedure).mapError .procedure)
          let values ← ofExcept (c.bind d p)
          let messages ← inLoader .procedure (Loader.within ref (p.call values))
          return .ofBatch (← ofExcept (resultBatch messages))

/-! ## Queries -/

/-- The table a query reads, if it reads one, under the name that stands behind it or
else its own. -/
def sourceTable (s : Select) : InSession (Option NamedTable) := do
  match s.source with
  | none => return none
  | some (name, label) =>
      let t ← table (← place name)
      let own := name.map Ident.normalized
      return some ⟨(label.map fun i => [i.normalized]).getD own, t⟩

def runQuery (q : Query) : InSession RowSet := do
  match q with
  | .select s => ofExcept (s.run (← sourceTable s))
  | .values rows => ofExcept (valuesRows rows)

/-- The columns of a query's answer; each with the table whose column it is, if it is one. -/
def answerColumns (q : Query) : InSession (List (Option (List String) × Field)) := do
  match q with
  | .select s =>
      let plan ← ofExcept (s.plan (sourceOf (← sourceTable s)))
      return plan.outputs.map fun o => (outputTable o, o.1)
  | .values rows => return (← ofExcept (valuesRows rows)).fields.map fun f => (none, f)

/-! ## Tables -/

/-- A new column that takes its values from the place of another in an answer. -/
structure Taken where
  place : Nat
  field : Field
  text : String

/-- The new column for a column of an answer: it is looked up by its name, and takes the
type that is given. -/
def taken (answer : List (Option (List String) × Field)) (spec : ColumnSpec) (f : Field) :
    Except EngineError Taken :=
  let c := ColumnName.ofText f.name
  let isMeant (a : Option (List String) × Field) : Bool :=
    a.2.name == c.name && (c.table.isEmpty || (a.1.map c.mayBelong).getD false)
  match answer.findIdx? isMeant with
  | none =>
      let known := answer.map fun a => (⟨a.1.getD [], a.2.name⟩ : ColumnName)
      .error (.column (.unknown c known))
  | some i =>
      let name := spec.name.normalized
      let from? := answer[i]?
      let source : ColumnName := ⟨(from?.bind Prod.fst).getD [], c.name⟩
      let text := "CAST(" ++ source.text ++ " AS " ++ spec.type.name ++ ") AS " ++ name
      let nullable := (from?.map fun a => a.2.nullable).getD true
      .ok ⟨i, ⟨name, spec.type, nullable, from?.bind fun a => a.2.comment⟩, text⟩

/-- The columns of a new table over those of an answer; as many are given as there are. -/
def takenColumns (columns : List ColumnSpec) (answer : List (Option (List String) × Field)) :
    Except EngineError (List Taken) := do
  if columns.length ≠ answer.length then
    throw (.plan (.columnsMismatch columns.length answer.length))
  let columns ← (columns.zip answer).mapM fun (spec, a) => taken answer spec a.2
  checkTitles (columns.map fun t => (t.field.name, t.text))
  return columns

/-- Fields whose values have no counterparts of the types that are wanted. -/
def unfit (sources targets : List Field) : Option (ColumnType × ColumnType) :=
  ((sources.zip targets).find? fun p => !castable p.1.type p.2.type).map fun p =>
    (p.1.type, p.2.type)

/-- The rows with the values of the columns they are taken from. -/
def takeRows (columns : List Taken) (rows : RowSet) : Except EngineError RowSet := do
  let sources := columns.filterMap fun t => rows.fields[t.place]?
  if let some (source, target) := unfit sources (columns.map Taken.field) then
    throw (.notOffered (.cast source target))
  let cells ← rows.rows.mapM fun row => columns.mapM fun t =>
    match rows.fields[t.place]?, row[t.place]? with
    | some f, some cell => do
        return (← (Scalar.cast ⟨f.type, cell⟩ t.field.type).mapError .data).cell
    | _, _ => .ok none
  return ⟨columns.map Taken.field, cells⟩

/-- What is wrong with a new table's columns and its query before it is made: the columns
that it takes from an answer. -/
def planTable (columns : List ColumnSpec) (q : Option Query) : InSession (List Taken) := do
  match q with
  | none => return []
  | some q =>
      let answer ← answerColumns q
      if columns.isEmpty then return [] else ofExcept (takenColumns columns answer)

/-- The rows that a new table starts with. -/
def initialRows (columns : List ColumnSpec) (q : Option Query) (taken : List Taken) :
    InSession RowSet := do
  match q with
  | some q =>
      let rows ← runQuery q
      if columns.isEmpty then return rows else ofExcept (takeRows taken rows)
  | none => return ⟨columns.map fun c => ⟨c.name.normalized, c.type, c.nullable, none⟩, []⟩

/-- A table in memory with some rows. -/
def memoryTable (rows : RowSet) : Except EngineError HostTable := do
  if rows.rows.isEmpty then return ⟨rows.fields, [], true⟩
  return ⟨rows.fields, [← rows.batch], true⟩

def createTable (replace unlessExists : Bool) (name : ObjectName) (columns : List ColumnSpec)
    (q : Option Query) : InSession RowSet := do
  let p ← place name
  let _ ← table? p
  let taken ← planTable columns q
  let previous ← tryCatch (table? p) fun _ => return none
  match previous, unlessExists, replace with
  | some _, true, true => throw (.execution .replaceUnlessExists)
  | some _, true, false => return .empty
  | some _, false, false => throw (.execution (.tableExists (shownName name)))
  | some _, false, true =>
      let _ ← deregisterTable p
      registerTable p (← ofExcept (memoryTable (← initialRows columns q taken)))
      return .empty
  | none, _, _ =>
      registerTable p (← ofExcept (memoryTable (← initialRows columns q taken)))
      return .empty

/-- Whether there was a table to drop. -/
def findAndDrop (p : TablePlace) : InSession Bool := do
  match ← table? p with
  | none => return false
  | some _ =>
      let _ ← deregisterTable p
      return true

def dropTable (ifExists : Bool) (name : ObjectName) : InSession RowSet := do
  let p ← place name
  let dropped ← tryCatch (findAndDrop p) fun _ => return false
  if dropped || ifExists then return .empty
  else throw (.execution (.noTable (shownName name)))

/-! ## Schemas -/

/-- The catalog and the schema of a name that is cut at its points. -/
def schemaPlace (name : ObjectName) : InSession (String × Mount × String) := do
  let text := shownName name
  match split '.' text with
  | [schema] =>
      let catalog := (← get).settings.defaultCatalog
      match ← mount? catalog with
      | some m => return (catalog, m, schema)
      | none => throw (.execution (.missingDefaultCatalog catalog))
  | [catalog, schema] =>
      match ← mount? catalog with
      | some m => return (catalog, m, schema)
      | none => throw (.execution (.missingCatalog catalog))
  | _ => throw (.execution (.schemaName text))

def createSchema (unlessExists : Bool) (name : ObjectName) : InSession RowSet := do
  let (catalog, m, schema) ← schemaPlace name
  if ← onMount catalog m (Mounted.hasSchema schema) then
    if unlessExists then return .empty else throw (.execution (.schemaExists schema))
  else
    let _ ← onMount catalog m (Mounted.registerSchema schema)
    return .empty

/-- The catalog and the schema of a name of one part or two. -/
def schemaName (name : ObjectName) : InSession (String × String) := do
  match name.map Ident.normalized with
  | [schema] => return ((← get).settings.defaultCatalog, schema)
  | [catalog, schema] => return (catalog, schema)
  | [_, _, _] => throw .malformed
  | _ => throw (manyParts name)

def dropSchema (ifExists cascade : Bool) (name : ObjectName) : InSession RowSet := do
  let (catalog, schema) ← schemaName name
  let dropped ←
    match ← mount? catalog with
    | none => pure false
    | some m => onMount catalog m (Mounted.deregisterSchema schema cascade)
  if dropped || ifExists then return .empty
  else throw (.execution (.noSchema (shownName name)))

/-! ## Inserts -/

/-- What is wrong with the first name that is not one of the known ones or was given before. -/
def namesFault? (known : List String) (before : List String) : List String → Option ColumnFault
  | [] => none
  | name :: rest =>
      if name ∉ known then some (.unknown ⟨[], name⟩ (known.map (⟨[], ·⟩)))
      else if name ∈ before then some (.repeated ⟨[], name⟩)
      else namesFault? known (name :: before) rest

/-- For each column of a table the place of its value in the rows given. -/
def valuePlaces (fields : List Field) (columns : List Ident) :
    Except EngineError (List (Option Nat)) := do
  let names := columns.map Ident.normalized
  let known := fields.map Field.name
  match columnFault? (known.map fun name => (none, name)), namesFault? known [] names with
  | some fault, _ | _, some fault => throw (.column fault)
  | none, none =>
      if columns.isEmpty then return (List.range fields.length).map some
      return known.map fun n => names.findIdx? (· == n)

/-- The fields that the given values are meant for, in the order they are given. -/
def valueFields (fields : List Field) (columns : List Ident) : List Field :=
  if columns.isEmpty then fields
  else columns.filterMap fun c => fields.find? fun f => f.name == c.normalized

/-- The given rows, each value of the type of its column. -/
def givenRows (targets : List Field) (q : Query) : InSession (List (List Cell)) := do
  match q with
  | .values rows =>
      let planned ← ofExcept (planValues rows)
      ofExcept (checkValues targets planned)
      if planned.any fun row => row.length ≠ targets.length then throw (.plan .columnCount)
      ofExcept (planned.mapM fun row =>
        (targets.zip row).mapM fun (f, e) => valueAs f.type e)
  | .select s =>
      let source ← sourceTable s
      let plan ← ofExcept (s.plan (sourceOf source))
      if plan.outputs.length ≠ targets.length then throw (.plan .columnCount)
      if let some (source, target) := unfit (plan.outputs.map Prod.fst) targets then
        throw (.plan (.notConverted source target))
      let rows ← ofExcept (do plan.run (← sourceRows source))
      ofExcept (rows.rows.mapM fun row =>
        ((targets.zip rows.fields).zip row).mapM fun ((f, g), cell) => do
          if g.type = .null then return none
          return (← (Scalar.cast ⟨g.type, cell⟩ f.type).mapError .data).cell)

def insert (name : ObjectName) (columns : List Ident) (q : Query) : InSession RowSet := do
  let p ← place name
  let t ← table p
  let places ← ofExcept (valuePlaces t.fields columns)
  let rows ← givenRows (valueFields t.fields columns) q
  let fields := t.fields.map fun f => { f with nullable := true }
  let set : RowSet := ⟨fields, rows.map fun row =>
    places.map fun place => (place.bind fun i => row[i]?).join⟩
  ofExcept (t.admitInsert .append fields)
  let source : RowSource := ⟨fields, [← ofExcept set.batch]⟩
  let (m, _) ← schemaOf p
  return .ofCount (← onMount p.catalog m (Mounted.append p.schema p.table t source))

/-! ## Any statement -/

def execute (d : Dialect) : Statement → InSession RowSet
  | .call name arguments => do
      call d (← ofExcept (Call.ofWritten name arguments (← get).settings.defaultCatalog))
  | .createTable replace unlessExists name columns q =>
      createTable replace unlessExists name columns q
  | .createSchema unlessExists name => createSchema unlessExists name
  | .dropTable ifExists name => dropTable ifExists name
  | .dropSchema ifExists cascade name => dropSchema ifExists cascade name
  | .insert table columns q => insert table columns q
  | .query q => runQuery q

/-- Carry out statements as long as they succeed: the rows of those that did, and
what is wrong with the first that did not. -/
def executeAll (d : Dialect) : List Statement → StateM Session (List RowSet × Option EngineError)
  | [] => return ([], none)
  | statement :: rest => do
      match ← (execute d statement).run with
      | .error e => return ([], some e)
      | .ok rows =>
          let (more, failure) ← executeAll d rest
          return (rows :: more, failure)

/-! ## Texts of statements -/

/-- The dialect of the session. -/
def dialect (unknown : String → PlanFault) : InSession Dialect := do
  let name := (← get).settings.dialect
  match Dialect.ofName? name with
  | some d => return d
  | none => throw (.plan (unknown name))

def parse (d : Dialect) (text : String) : InSession (List Statement) :=
  match readStatements d text with
  | some statements => return statements
  | none => throw .malformed

/-- The statements of a script with the dialect they are written in. -/
def parseScript (text : String) : InSession (Dialect × List Statement) := do
  let d ← dialect .unsupportedDialect
  return (d, ← parse d text)

/-- Carry out the one statement of a text. -/
def sql (text : String) : InSession RowSet := do
  let d ← dialect .unknownDialect
  match ← parse d text with
  | [statement] => execute d statement
  | [] => throw (.plan .noStatements)
  | _ => throw (.notOffered .severalStatements)

end Session

end TableLake
