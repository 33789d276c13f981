import MockSchema.Generator.OfYaml
import MockSchema.Schema.Parse

/-!
# Sessions

A session keeps what schemas are read against, the schemas read so far, and the world that values are drawn
from. A schema keeps the handles and settings of the moment when it was read; nothing done later reaches it.
-/

namespace MockSchema

/-- A name that was never read into means the empty schema. -/
structure Session (σ : Type) where
  context : Context Generator
  slots : Entries (Schema Generator)
  world : World σ

/-- What can be done in a session. -/
inductive SessionStep where
  | register (name : String) (g : Generator)
  | registerCounter (name : String) (start : Int64)
  | registerAll (r : Registry Generator)
  | registerFile (file : DefinitionFile)
  | configure (settings : Pattern.Settings)
  | parse (slot source : String)
  | generate (slot : String)

/-- What a step gives. -/
inductive SessionReply where
  | done
  | refused (e : DefinitionError)
  | schema (s : Schema Generator)
  | malformed (e : SchemaError)
  | value (v : Value)
  | failed (e : Failure)

namespace Session

variable {σ : Type}

/-- A session in which nothing has been read yet. -/
def start (context : Context Generator) (world : World σ) : Session σ := ⟨context, [], world⟩

def schemaAt (s : Session σ) (slot : String) : Schema Generator :=
  (Entries.get? slot s.slots).getD .empty

def withRegistry (s : Session σ) (r : Registry Generator) : Session σ :=
  { s with context := { s.context with registry := r } }

variable [RandomSource σ]

/-- One step. What is refused or malformed changes nothing; a draw that fails has used the world all the
same. -/
def step (s : Session σ) : SessionStep → SessionReply × Session σ
  | .register name g => (.done, s.withRegistry (s.context.registry.register name g))
  | .registerCounter name start =>
    let cell := s.world.counters.length
    let s := s.withRegistry (s.context.registry.register name (.counter cell))
    (.done, { s with world := { s.world with counters := s.world.counters ++ [start] } })
  | .registerAll r => (.done, s.withRegistry (s.context.registry.merge r))
  | .registerFile file =>
    match file.registerInto s.context.registry with
    | .ok (r, _) => (.done, s.withRegistry r)
    | .error e => (.refused e, s)
  | .configure settings => (.done, { s with context := { s.context with settings := settings } })
  | .parse slot source =>
    match Schema.parse s.context source with
    | .ok schema => (.schema schema, { s with slots := Entries.set slot schema s.slots })
    | .error e => (.malformed e, s)
  | .generate slot =>
    match ((s.schemaAt slot).generate Generator.draw).runFrom s.world with
    | (.ok v, world) => (.value v, { s with world := world })
    | (.error e, world) => (.failed e, { s with world := world })

/-- Several steps, and what each of them gives. -/
def steps (s : Session σ) : List SessionStep → List SessionReply × Session σ
  | [] => ([], s)
  | c :: rest =>
    let (reply, s) := s.step c
    let (replies, s) := s.steps rest
    (reply :: replies, s)

end Session

end MockSchema
