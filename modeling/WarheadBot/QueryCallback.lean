import Mathlib.Data.List.Basic

/-!
# Query callbacks

A `QueryCallback` holds the future of a database query and a queue of
functions for its result and those of further queries.  A query is either a
string query or a prepared one; its future and each stored function live in a
union whose active member is told by a flag beside it.  Reading the other
member, and looking at the front of an empty queue, is undefined in the source
and a fault here, as a failing assertion is.

A query and its result are named by one number, and so are the stored
functions.
-/

namespace WarheadBot

namespace QueryCallbacks

abbrev Query := Nat

abbrev Callback := Nat

inductive Fault
  | assertion (condition : String)
  | emptyQueue
  | inactiveMember
  deriving DecidableEq, Repr

/-- The active member of a union. -/
inductive Member (α : Type)
  | string (value : α)
  | prepared (value : α)
  deriving DecidableEq, Repr

namespace Member

variable {α : Type}

def construct (isPrepared : Bool) (value : α) : Member α :=
  if isPrepared then .prepared value else .string value

def read (isPrepared : Bool) : Member α → Except Fault α
  | .string value => if isPrepared then .error .inactiveMember else .ok value
  | .prepared value => if isPrepared then .ok value else .error .inactiveMember

end Member

/-- A union and its flag `_isPrepared`. -/
structure Tagged (α : Type) where
  isPrepared : Bool
  member : Member α
  deriving DecidableEq, Repr

namespace Tagged

variable {α : Type}

def make (isPrepared : Bool) (value : α) : Tagged α :=
  ⟨isPrepared, Member.construct isPrepared value⟩

def read (tagged : Tagged α) : Except Fault α :=
  tagged.member.read tagged.isPrepared

/-- `MoveFrom`: both members are accessed under the flag of the target. -/
def moveFrom (target source : Tagged α) : Except Fault (Tagged α) :=
  if target.isPrepared ≠ source.isPrepared then
    .error (.assertion "to->_isPrepared == from._isPrepared")
  else do
    let _ ← target.member.read target.isPrepared
    let value ← source.member.read target.isPrepared
    .ok { target with member := Member.construct target.isPrepared value }

end Tagged

/-- A future that was moved from is `none`. -/
structure QueryCallback where
  future : Tagged (Option Query)
  callbacks : List (Tagged Callback)
  deriving DecidableEq, Repr

namespace QueryCallback

/-- The two constructors. -/
def ofQuery (isPrepared : Bool) (query : Query) : QueryCallback :=
  ⟨Tagged.make isPrepared (some query), []⟩

def withChainingCallback (callback : Callback) (self : QueryCallback) :
    Except Fault QueryCallback :=
  if self.callbacks.isEmpty && self.future.isPrepared then
    .error (.assertion "!_callbacks.empty() || !_isPrepared")
  else
    .ok { self with callbacks := self.callbacks ++ [Tagged.make false callback] }

def withChainingPreparedCallback (callback : Callback) (self : QueryCallback) :
    Except Fault QueryCallback :=
  if self.callbacks.isEmpty && !self.future.isPrepared then
    .error (.assertion "!_callbacks.empty() || _isPrepared")
  else
    .ok { self with callbacks := self.callbacks ++ [Tagged.make true callback] }

/-- Either of the two, by the kind of the function. -/
def withCallbackOf (isPrepared : Bool) (callback : Callback) (self : QueryCallback) :
    Except Fault QueryCallback :=
  if isPrepared then self.withChainingPreparedCallback callback
  else self.withChainingCallback callback

def setNextQuery (self next : QueryCallback) : Except Fault QueryCallback := do
  let future ← self.future.moveFrom next.future
  .ok { self with future := future }

/-- What a callback may do to the object it is given. -/
inductive Action
  | setNextQuery (isPrepared : Bool) (query : Query)
  | withCallback (isPrepared : Bool) (callback : Callback)
  deriving DecidableEq, Repr

def perform (self : QueryCallback) : Action → Except Fault QueryCallback
  | .setNextQuery isPrepared query => self.setNextQuery (ofQuery isPrepared query)
  | .withCallback isPrepared callback => self.withCallbackOf isPrepared callback

def performAll (self : QueryCallback) : List Action → Except Fault QueryCallback
  | [] => .ok self
  | action :: actions => do
      let next ← self.perform action
      next.performAll actions

/-- The end of a poll that has invoked the front callback. -/
def checkStateAndReturnCompletion (self : QueryCallback) :
    Except Fault (Bool × QueryCallback) := do
  let popped := { self with callbacks := self.callbacks.tail }
  let pending ← popped.future.read
  match popped.callbacks with
  | [] => if pending.isSome then .error (.assertion "!hasNext") else .ok (true, popped)
  | front :: _ =>
      if pending.isNone then .ok (true, popped)
      else if popped.future.isPrepared ≠ front.isPrepared then
        .error (.assertion "_isPrepared == _callbacks.front()._isPrepared")
      else .ok (false, popped)

/-- What a poll returns: the completion, and the callback it has invoked with
the result it was given. -/
structure Polled where
  completed : Bool
  invoked : Option (Callback × Query)
  object : QueryCallback
  deriving DecidableEq, Repr

/-- `InvokeIfReady`, with `ready` saying whether a valid future is ready and
`actions` what the invoked callback does. -/
def invokeIfReady (ready : Bool) (actions : List Action) (self : QueryCallback) :
    Except Fault Polled :=
  match self.callbacks with
  | [] => .error .emptyQueue
  | callback :: _ => do
      match ← self.future.read with
      | none => .ok ⟨false, none, self⟩
      | some query =>
          if ready then
            let invoked ← callback.member.read self.future.isPrepared
            let acted ← performAll
              { self with future := Tagged.make self.future.isPrepared none } actions
            let (completed, object) ← acted.checkStateAndReturnCompletion
            .ok ⟨completed, some (invoked, query), object⟩
          else
            .ok ⟨false, none, self⟩

end QueryCallback

/-- A `QueryCallback` that is polled until a poll returns true; the object is
destroyed then. -/
structure Run where
  object : QueryCallback
  log : List (Callback × Query)
  completed : Bool
  deriving DecidableEq, Repr

namespace Run

def start (object : QueryCallback) : Run := ⟨object, [], false⟩

/-- One poll; `behaviour` gives what the callbacks do, by the number of the
invocation. -/
def poll (behaviour : Nat → List QueryCallback.Action) (run : Run) (ready : Bool) :
    Except Fault Run :=
  if run.completed then .ok run
  else do
    let polled ← run.object.invokeIfReady ready (behaviour run.log.length)
    .ok ⟨polled.object, run.log ++ polled.invoked.toList, polled.completed⟩

def pollAll (behaviour : Nat → List QueryCallback.Action) (run : Run) :
    List Bool → Except Fault Run
  | [] => .ok run
  | ready :: readiness => do
      let next ← run.poll behaviour ready
      next.pollAll behaviour readiness

end Run

end QueryCallbacks

end WarheadBot
