import ReleaseControl.Store.Basic

/-! # Store calls and programs

A `StoreCall` is one request to a store. A `Program` is a computation that reaches the store only
through calls: it is finished, or it makes a call and goes on with the answer. The same program
runs against any store, also one that fails, and may be stopped after any call. -/

namespace ReleaseControl

inductive StoreCall where
  | create (kind : String) (object : Json)
  | get (kind : String) (key : RecordKey)
  | list (kind : String) (query : Query)
  | update (kind : String) (object : Json)
  | updateStatus (kind : String) (object : Json)
  | delete (kind : String) (key : RecordKey)

namespace StoreCall

/-- What a successful call returns. -/
def Reply : StoreCall → Type
  | get .. => Option StoredRecord
  | list .. => List StoredRecord
  | create .. | update .. | updateStatus .. | delete .. => StoredRecord

def kind : StoreCall → String
  | create kind _ | get kind _ | list kind _ | update kind _ | updateStatus kind _
  | delete kind _ => kind

end StoreCall

/-- Answers a call. `uid` and `now` are what a creation would use. -/
def Store.perform (uid now : String) (s : Store) :
    (c : StoreCall) → Except StoreError c.Reply × Store
  | .create kind object => s.create uid now kind object
  | .get kind key => (.ok (s.get? kind key), s)
  | .list kind query => (s.list kind query, s)
  | .update kind object => s.update kind object
  | .updateStatus kind object => s.updateStatus kind object
  | .delete kind key => s.delete kind key

inductive Program (α : Type) where
  | done (a : α)
  | call (c : StoreCall) (next : Except StoreError c.Reply → Program α)

namespace Program

variable {α β : Type}

def bind : Program α → (α → Program β) → Program β
  | .done a, f => f a
  | .call c next, f => .call c fun answer => (next answer).bind f

instance : Monad Program where
  pure := .done
  bind := bind

/-- The program that makes one call and returns the answer. -/
def ask (c : StoreCall) : Program (Except StoreError c.Reply) := .call c .done

/-! ## Running -/

/-- How a call ended: with an answer, or with a crash that takes the program along. -/
inductive Outcome (α : Type) where
  | returned (a : α)
  | crashed

/-- Something that answers calls and changes while it does. -/
abbrev Handler (σ : Type) := (c : StoreCall) → σ → Outcome (Except StoreError c.Reply) × σ

/-- Runs a program to its end or to the first call that crashes. -/
def run {σ : Type} (handler : Handler σ) : Program α → σ → Outcome α × σ
  | .done a, s => (.returned a, s)
  | .call c next, s =>
    match handler c s with
    | (.returned answer, s) => (next answer).run handler s
    | (.crashed, s) => (.crashed, s)

/-! ## Typed access -/

variable {ρ : Type} [Record ρ]

/-- Reads a record as its type. -/
def getRecord (ρ : Type) [Record ρ] (key : RecordKey) : Program (Except StoreError (Option ρ)) := do
  match ← ask (.get (Record.kind ρ) key) with
  | .error e => return .error e
  | .ok none => return .ok none
  | .ok (some stored) => return stored.typed.map some

/-- Lists records as their type; one that cannot be read fails the call. -/
def listRecords (ρ : Type) [Record ρ] (query : Query) : Program (Except StoreError (List ρ)) := do
  match ← ask (.list (Record.kind ρ) query) with
  | .error e => return .error e
  | .ok stored => return stored.mapM StoredRecord.typed

def createRecord (r : ρ) : Program (Except StoreError ρ) := do
  match ← ask (.create (Record.kind ρ) (Record.toJson r)) with
  | .error e => return .error e
  | .ok stored => return stored.typed

def updateRecord (r : ρ) : Program (Except StoreError ρ) := do
  match ← ask (.update (Record.kind ρ) (Record.toJson r)) with
  | .error e => return .error e
  | .ok stored => return stored.typed

def updateRecordStatus (r : ρ) : Program (Except StoreError ρ) := do
  match ← ask (.updateStatus (Record.kind ρ) (Record.toJson r)) with
  | .error e => return .error e
  | .ok stored => return stored.typed

end Program

end ReleaseControl
