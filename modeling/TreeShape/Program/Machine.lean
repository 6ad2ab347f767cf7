import TreeShape.Program.Run
import TreeShape.Value.Enumeration

/-!
# Machines

A machine is a session with the adapters that its programs may refer to by name.  It is set up in stages,
first the enumerations and the types, then the nodes, then the adapters, and then runs programs.  Serial
numbers tell apart what is made on the way.
-/

namespace TreeShape

/-- A session with its adapters. -/
structure Machine where
  session : Session
  adapters : List (String × Adapter) := []
  serial : Nat := 0

namespace Machine

def start : Machine := { session := { world := ⟨.builtin, .empty, []⟩ } }

def world (m : Machine) : World := m.session.world

def modifyWorld (m : Machine) (change : World → World) : Machine :=
  { m with session := { m.session with world := change m.session.world } }

def modifyForest (m : Machine) (change : Forest → Forest) : Machine :=
  m.modifyWorld fun w => { w with forest := change w.forest }

/-- Declares the standard types.  They hide the enumerations declared before, where names clash. -/
def declareStandard (m : Machine) : Machine :=
  m.modifyWorld fun w => { w with hierarchy := w.hierarchy.declareStandard }

/-- Declares a type; a type without bases is based on the common type of nodes. -/
def declareType (m : Machine) (bases : List NodeType) (t : TypeInfo) : Machine :=
  let bases := if bases.isEmpty then [.common] else bases
  m.modifyWorld fun w => { w with hierarchy := w.hierarchy.declare bases t }

/-- Declares an enumeration and the type of its members.  Entries whose names denote no members are left
out. -/
def declareEnumeration (m : Machine) (name qualifiedName : String) (kind : EnumKind)
    (members : List (String × Value)) : Machine :=
  let e : Enumeration :=
    { family := ⟨m.world.hierarchy.types.size⟩
      kind := kind
      members := members.filter fun entry => Enumeration.isMemberName name entry.1 }
  let info : TypeInfo :=
    { (default : TypeInfo) with
      key := some (.plain name)
      name := name
      qualifiedName := qualifiedName
      members := some (e.named m.world) }
  m.declareType [NodeType.anything] info

def addAdapter (m : Machine) (a : Adapter) : Machine :=
  { m with adapters := m.adapters ++ [(a.name, a)] }

def adapterNamed (m : Machine) (name : String) : Except Failure Adapter :=
  match m.adapters.lookup name with
  | some a => .ok a
  | none => .error (.unboundName name)

/-- Adds an adapter for registered trees, with its first roots. -/
def addRegistered (m : Machine) (name : String) (naming : Naming) (roots : List Node) : Machine :=
  let m := roots.foldl (fun m root => m.modifyWorld (·.register name root)) m
  m.addAdapter (.registered name naming)

/-- Makes the configuration that steps use by default, without a trace. -/
def configure (m : Machine) (name : String) (o : Options) (serial : Nat) :
    Except Failure Machine := do
  let c ← Config.make o serial
  return { m with session := m.session.rebind fun b => { b with configs := (name, c) :: b.configs } }

def run (m : Machine) (p : Program) : Machine := { m with session := m.session.after p }

end Machine

end TreeShape
