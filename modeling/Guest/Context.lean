import Guest.Script

/-!
# Contexts and hosts

A context holds what a host supplies: constants, functions and a source of identifiers.  It also
keeps the record of all exchanges with the host, on which later answers may depend, and a log of
the identifiers that were reached.
-/

namespace Guest

/-- One exchange with the host. -/
inductive Event where
  | lookup (name : String) (answer : Except String Value)
  | call (name : String) (args : List Value) (answer : Except String Value)

/-- What the host answered. -/
def Event.answer : Event → Except String Value
  | lookup _ answer => answer
  | call _ _ answer => answer

/-- A function of the host: its answer may depend on the exchanges before the call. -/
abbrev HostFunction := List Event → List Value → Except String Value

/-- A resolver: its answer may depend on the exchanges before the look-up. -/
abbrev Resolver := List Event → String → Except String Value

/-- A resolver whose answers are not always there at once. -/
structure DelayedResolver where
  /-- How often an answer has to be waited for; without a count it never comes. -/
  delay : List Event → String → Option Nat
  answer : Resolver

/-- Where the values of identifiers come from. -/
inductive Identifiers where
  /-- Fixed bindings; all other names are null. -/
  | bindings (values : Fields)
  | resolver (answer : Resolver)
  /-- A resolver that may have to be waited for. -/
  | delayed (resolver : DelayedResolver)

/-- What is known of a name before a resolver is asked. -/
inductive Lookup where
  | bound (value : Value)
  | now (answer : Resolver)
  /-- A resolver has to be asked that may have to be waited for. -/
  | later (resolver : DelayedResolver)

/-- What a source of identifiers knows of a name to which it gives no value. -/
def Identifiers.lookup : Identifiers → Lookup
  | .bindings _ => .bound .null
  | .resolver answer => .now answer
  | .delayed source => .later source

/-- The functions of a context by name. -/
abbrev Functions := List (String × HostFunction)

namespace Functions

/-- The function of a name. -/
def find? : Functions → String → Option HostFunction
  | [], _ => none
  | (name, f) :: rest, key => if name = key then some f else find? rest key

/-- Sets the function of a name: in place where there is one, at the end otherwise. -/
def insert : Functions → String → HostFunction → Functions
  | [], key, f => [(key, f)]
  | (name, old) :: rest, key, f =>
    if name = key then (name, f) :: rest else (name, old) :: insert rest key f

end Functions

/-- What scripts run against. -/
structure Context where
  constants : Fields
  functions : Functions
  identifiers : Identifiers
  /-- The identifiers reached so far, each once, if they are tracked. -/
  usage : Option (List String)
  /-- The names that were written into the log since it was last emptied. -/
  seen : List String
  history : List Event

namespace Context

/-- A context without constants, functions and bindings. -/
def bare : Context := ⟨[], [], .bindings [], none, [], []⟩

/-- Replaces the source of identifiers. -/
def withIdentifiers (context : Context) (identifiers : Identifiers) : Context :=
  { context with identifiers := identifiers }

/-- Sets a function. -/
def withFunction (context : Context) (name : String) (f : HostFunction) : Context :=
  { context with functions := context.functions.insert name f }

/-- Starts to track identifiers, from an empty log. -/
def track (context : Context) : Context := { context with usage := some [], seen := [] }

/-- Takes the log and leaves an empty one. -/
def takeUsage (context : Context) : Option (List String) × Context :=
  (context.usage, { context with usage := context.usage.map fun _ => [], seen := [] })

/-- The value that a name has without a resolver: that of a binding, or else of a constant. -/
def value? (context : Context) (name : String) : Option Value :=
  let bound :=
    match context.identifiers with
    | .bindings values => Fields.find? values name
    | _ => none
  bound.or (Fields.find? context.constants name)

/-- Writes a name into the log, if it is kept and the name has not been seen. -/
def note (context : Context) (name : String) : Context :=
  { context with
    usage := context.usage.map fun names =>
      if context.seen.contains name then names else names ++ [name]
    seen := if context.usage.isSome then context.seen.insert name else context.seen }

/-- Looks a name up without asking a resolver.  A name that is neither bound nor a constant is
written into the log and left to the source of identifiers. -/
def lookup (context : Context) (name : String) : Lookup × Context :=
  match context.value? name with
  | some v => (.bound v, context)
  | none => (context.identifiers.lookup, context.note name)

/-- Adds an exchange to the record. -/
def record (context : Context) (event : Event) : Context :=
  { context with history := context.history ++ [event] }

end Context

end Guest
