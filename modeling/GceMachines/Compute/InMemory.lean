import GceMachines.Compute.Service
import GceMachines.Text.Integer

/-!
# The service in memory

A stand-in for the instance service that keeps everything in a value. A change takes effect when
it is accepted, and its operation is done after a number of looks. Failures can be scripted for
each kind of call; each is given out once, in order, before anything else about the call is
looked at. An operation for which errors are scripted has no effect and ends with them.

* `InMemory`: the state, and `InMemory.answer`: a call on it.
* `insert`, `delete`, `get`, `list`, `poll`: the five calls.
-/

namespace GceMachines

/-- An operation that was started. -/
structure StartedOperation where
  /-- The operation as the next look shows it, unless that look ends it. -/
  shown : Operation
  looksLeft : Nat
  /-- The errors it ends with. -/
  outcome : Option OperationError
  deriving DecidableEq

/-- A started operation after one more look. -/
def StartedOperation.look (o : StartedOperation) : StartedOperation :=
  match o.looksLeft with
  | 0 => o
  | 1 => { o with looksLeft := 0, shown := { o.shown with status := .done, error := o.outcome } }
  | n + 2 => { o with looksLeft := n + 1 }

/-- The kinds of calls that are counted, and for which failures are scripted. -/
inductive CallKind
  | insert
  | delete
  | list
  | poll
  deriving DecidableEq, Repr

/-- How often each kind of call was made. -/
structure CallCounts where
  insert : Nat
  delete : Nat
  list : Nat
  poll : Nat
  deriving DecidableEq, Repr

/-- The failures scripted for each kind of call, the next one first. -/
structure ScriptedFailures where
  insert : List ServiceError
  delete : List ServiceError
  list : List ServiceError
  poll : List ServiceError
  /-- The errors of operations. -/
  operation : List (List OperationFault)
  deriving DecidableEq

namespace ScriptedFailures

/-- The failures scripted for a kind of call. -/
def of (f : ScriptedFailures) : CallKind → List ServiceError
  | .insert => f.insert
  | .delete => f.delete
  | .list => f.list
  | .poll => f.poll

/-- The same script with other failures for a kind of call. -/
def set (f : ScriptedFailures) (es : List ServiceError) : CallKind → ScriptedFailures
  | .insert => { f with insert := es }
  | .delete => { f with delete := es }
  | .list => { f with list := es }
  | .poll => { f with poll := es }

end ScriptedFailures

/-- **The service in memory.** -/
structure InMemory where
  instances : SortedMap MachineId Instance
  operations : SortedMap String StartedOperation
  failures : ScriptedFailures
  /-- Whether looks at operations are never answered. -/
  pollsHang : Bool
  counts : CallCounts
  /-- How many operations were started. -/
  serial : Nat
  /-- The most instances on a page. -/
  pageSize : Nat
  /-- After how many looks an operation is done. -/
  looksUntilDone : Nat
  pageSize_pos : 0 < pageSize
  /-- Every instance stands under its own name. -/
  named : ∀ e ∈ instances.entries, e.1.name = e.2.name

namespace InMemory

/-- A service without instances, with pages of a size of at least one. -/
def new (pageSize looksUntilDone : Nat) : InMemory where
  instances := .empty
  operations := .empty
  failures := ⟨[], [], [], [], []⟩
  pollsHang := false
  counts := ⟨0, 0, 0, 0⟩
  serial := 0
  pageSize := max 1 pageSize
  looksUntilDone
  pageSize_pos := by omega
  named := by simp [SortedMap.empty]

/-- The size of pages when nothing is said. -/
def defaultPageSize : Nat := 500

/-- A number that names something for good. -/
def ticket (serial : Nat) : String := toString (Nat.pow 2 127 + serial)

/-- The name of an operation. -/
def operationName (serial : Nat) : String := "operation-" ++ ticket serial

theorem named_insert (m : InMemory) {target : MachineId} {i : Instance}
    (h : target.name = i.name) :
    ∀ e ∈ (m.instances.insert target i).entries, e.1.name = e.2.name := by
  intro e he
  rcases SortedMap.fst_insertEntry he with rfl | he
  · exact h
  · exact m.named e he

/-- Puts an instance into the store, as one that runs in its zone if it does not say otherwise. -/
def add (m : InMemory) (project zone : String) (i : Instance) : InMemory :=
  let i : Instance :=
    { i with status := i.status.or (some "RUNNING"), zone := i.zone.or (some zone) }
  { m with
    instances := m.instances.insert ⟨project, zone, i.name⟩ i
    named := m.named_insert rfl }

/-- Puts an instance into the store that has a name and tags only. -/
def addTagged (m : InMemory) (project zone name : String) (tags : List String) : InMemory :=
  m.add project zone { Instance.blank with name, tags := some ⟨tags, none⟩ }

/-- Scripts a failure for a kind of call, behind those that are scripted for it. -/
def failNext (m : InMemory) (k : CallKind) (e : ServiceError) : InMemory :=
  { m with failures := m.failures.set (m.failures.of k ++ [e]) k }

/-- Scripts the errors of an operation, behind those that are scripted. -/
def failNextOperation (m : InMemory) (errors : List OperationFault) : InMemory :=
  { m with failures := { m.failures with operation := m.failures.operation ++ [errors] } }

/-- Lets looks at operations be answered, or never. -/
def hangPolls (m : InMemory) (on : Bool) : InMemory := { m with pollsHang := on }

/-- The instances of a zone, in the order of their names. -/
def instancesIn (m : InMemory) (project zone : String) : List Instance :=
  (m.instances.entries.filter fun (k, _) => k.project = project && k.zone = zone).map Prod.snd

/-- The refusal of a call about an instance that is not there. -/
def notThere (target : MachineId) : ServiceError :=
  .api 404 ("The resource '" ++ target.path ++ "' was not found")

/-- The refusal of an insertion over an instance. -/
def alreadyThere (target : MachineId) : ServiceError :=
  .api 409 ("The resource '" ++ target.path ++ "' already exists")

/-- The refusal of a look at an operation that was never started. -/
def noOperation (name : String) : ServiceError :=
  .api 404 ("The resource 'operations/" ++ name ++ "' was not found")

/-- The refusal of a page token. -/
def badToken (token : String) : ServiceError := .api 400 ("Invalid page token '" ++ token ++ "'")

/-- Starts an operation of a kind on a machine, with the next scripted errors; also whether there
were any. -/
def start (m : InMemory) (kind : String) (target : MachineId) : Operation × Bool × InMemory :=
  let outcome := m.failures.operation.head?.map OperationError.mk
  let doneAtOnce := m.looksUntilDone = 0
  let op : Operation :=
    { Operation.blank with
      name := operationName m.serial
      status := if doneAtOnce then .done else .running
      error := if doneAtOnce then outcome else none
      operationType := some kind
      targetLink := some target.path
      zone := some target.zone }
  (op, outcome.isSome,
    { m with
      serial := m.serial + 1
      operations := m.operations.insert op.name ⟨op, m.looksUntilDone, outcome⟩
      failures := { m.failures with operation := m.failures.operation.tail } })

/-- The instance that an insertion makes. -/
def created (serial : Nat) (target : MachineId) (body : Instance) : Instance :=
  { body with
    id := some (ticket serial)
    status := some "PROVISIONING"
    zone := some target.zone
    selfLink := some target.path }

/-- **An insertion.** -/
def insert (m : InMemory) (project zone : String) (body : Instance) :
    Except ServiceError Operation × InMemory :=
  let m : InMemory := { m with counts := { m.counts with insert := m.counts.insert + 1 } }
  let target : MachineId := ⟨project, zone, body.name⟩
  match m.failures.insert with
  | e :: es => (.error e, { m with failures := { m.failures with insert := es } })
  | [] =>
    if m.instances.contains target then (.error (alreadyThere target), m)
    else
      let (op, failed, m') := m.start "insert" target
      (.ok op,
        if failed then m'
        else
          { m' with
            instances := m'.instances.insert target (created m.serial target body)
            named := m'.named_insert rfl })

/-- **A deletion.** -/
def delete (m : InMemory) (target : MachineId) : Except ServiceError Operation × InMemory :=
  let m : InMemory := { m with counts := { m.counts with delete := m.counts.delete + 1 } }
  match m.failures.delete with
  | e :: es => (.error e, { m with failures := { m.failures with delete := es } })
  | [] =>
    if m.instances.contains target then
      let (op, failed, m') := m.start "delete" target
      (.ok op,
        if failed then m'
        else
          { m' with
            instances := m'.instances.erase target
            named := fun e he => m'.named e (List.mem_filter.mp he).1 })
    else (.error (notThere target), m)

/-- **The instance of a machine.** -/
def get (m : InMemory) (target : MachineId) : Except ServiceError Instance :=
  match m.instances.get? target with
  | some i => .ok i
  | none => .error (notThere target)

/-- The place in a listing that a token stands for. -/
def offset? : Option String → Option Nat
  | none => some 0
  | some t => Text.readNat? (Nat.pow 2 64) t

/-- The page of a listing from a place on. Places are numbers of 64 bits. -/
def page (size start : Nat) (all : List Instance) : InstanceList :=
  let stop := min ((start + size) % Nat.pow 2 64) all.length
  ⟨(all.drop start).take (stop - start), if stop < all.length then some (toString stop) else none⟩

/-- **One page of a zone.** -/
def list (m : InMemory) (project zone : String) (token : Option String) :
    Except ServiceError InstanceList × InMemory :=
  let m : InMemory := { m with counts := { m.counts with list := m.counts.list + 1 } }
  match m.failures.list with
  | e :: es => (.error e, { m with failures := { m.failures with list := es } })
  | [] =>
    match offset? token with
    | none => (.error (badToken (token.getD "")), m)
    | some start => (.ok (page m.pageSize start (m.instancesIn project zone)), m)

/-- **A look at an operation**, unless looks are never answered. -/
def poll (m : InMemory) (name : String) : Option (Except ServiceError Operation) × InMemory :=
  let m : InMemory := { m with counts := { m.counts with poll := m.counts.poll + 1 } }
  if m.pollsHang then (none, m)
  else
    match m.failures.poll with
    | e :: es => (some (.error e), { m with failures := { m.failures with poll := es } })
    | [] =>
      match m.operations.get? name with
      | none => (some (.error (noOperation name)), m)
      | some o =>
        let o := o.look
        (some (.ok o.shown), { m with operations := m.operations.insert name o })

/-- **A call**; one that is never answered gives nothing. -/
def answer : (r : Request) → InMemory → Option (Except ServiceError r.Reply) × InMemory
  | .insert project zone body, m => let (r, m) := m.insert project zone body; (some r, m)
  | .delete target, m => let (r, m) := m.delete target; (some r, m)
  | .get target, m => (some (m.get target), m)
  | .list project zone token, m => let (r, m) := m.list project zone token; (some r, m)
  | .operation _ _ name, m => m.poll name

/-- How many pages a walk over the store can have. -/
def pageBound (m : InMemory) : Nat := m.instances.size + 1

end InMemory

end GceMachines
