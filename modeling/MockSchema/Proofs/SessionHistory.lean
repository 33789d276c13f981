import MockSchema.Proofs.Conformance
import MockSchema.Proofs.CounterRuns
import MockSchema.Session

/-!
# Histories of sessions

What a slot holds after any steps is the schema that was read into it last, and that schema keeps what was in
force when it was read: for every name the handle that had been registered last for it, and for every pattern
the settings. Nothing that is done later reaches it (`history`). Schemas that were read after one registration
share its handle, so the calls of a counter are numbered over all schemas together.
-/

namespace MockSchema

/-! ## Registrations -/

namespace SessionStep

/-- What a step registers, in order, if there are `cells` counters before it. A refused file registers
nothing. -/
def registrations (cells : Nat) : SessionStep → List (String × Generator)
  | .register name g => [(name, g)]
  | .registerCounter name _ => [(name, .counter cells)]
  | .registerAll r => r.entries
  | .registerFile file =>
    match file.toRegistry with
    | .ok r => r.entries
    | .error _ => []
  | _ => []

/-- The number of counters that a step makes. -/
def newCounters : SessionStep → Nat
  | .registerCounter _ _ => 1
  | _ => 0

def settings? : SessionStep → Option Pattern.Settings
  | .configure settings => some settings
  | _ => none

/-- The schema that a step reads into a slot. -/
def reads? (ctx : Context Generator) (slot : String) : SessionStep → Option (Schema Generator)
  | .parse other source => if other = slot then (Schema.parse ctx source).toOption else none
  | _ => none

end SessionStep

/-- What steps register, in order, if there are `cells` counters before them. -/
def registrations (cells : Nat) : List SessionStep → List (String × Generator)
  | [] => []
  | c :: rest => c.registrations cells ++ registrations (cells + c.newCounters) rest

/-- The handle that is registered last for a name. -/
def lastHandle (name : String) (pairs : List (String × Generator)) : Option Generator :=
  (pairs.reverse.find? fun p => p.1 = name).map Prod.snd

theorem lastHandle_append (name : String) (pairs others : List (String × Generator)) :
    lastHandle name (pairs ++ others) = (lastHandle name others).or (lastHandle name pairs) :=
  Entries.lastValue?_append name pairs others

theorem get?_setAll_eq (name : String) (pairs : List (String × Generator)) (m : Entries Generator) :
    Entries.get? name (Entries.setAll m pairs) = (lastHandle name pairs).or (Entries.get? name m) :=
  Entries.get?_setAll name pairs m

theorem Token.Denotes.every {η : Type} {ctx : Context η} {t : Token} {node : Node η}
    (stands : t.Denotes ctx node) : node.Every ctx.registry.Has fun p => p.settings = ctx.settings := by
  cases stands with
  | terminal _ registered => exact registered
  | template _ _ _ registered => exact (Registry.has_of_names registered).1
  | pattern _ compiles => exact (Pattern.ofText_eq_ok compiles).2.1
  | _ => trivial

mutual

/-- The names in what a derivation stands for have the handles of the registry, its patterns the settings of
the context. -/
theorem ValueTree.Denotes.every {η : Type} {ctx : Context η} : ∀ {d : ValueTree} {node : Node η},
    d.Denotes ctx node → node.Every ctx.registry.Has fun p => p.settings = ctx.settings
  | _, _, .leaf token => token.every
  | _, _, .range _ => trivial
  | _, _, .emptyObject => trivial
  | _, _, .object listed => listed.every
  | _, _, .emptyArray => trivial
  | _, _, .array item _ => item.every
  | _, _, .sizedArray _ _ item => item.every

theorem PairsTree.Denotes.every {η : Type} {ctx : Context η} : ∀ {d : PairsTree}
    {members : List (String × Node η)}, d.Denotes ctx members →
      Node.MembersEvery ctx.registry.Has (fun p => p.settings = ctx.settings) members
  | _, _, .last member => ⟨member.every, trivial⟩
  | _, _, .more member others => ⟨member.every, others.every⟩

end

namespace Session

variable {σ : Type}

/-- The handle of a name after steps, as far as registrations tell: the last one of these steps, or the one
before them. -/
def handleAfter (s : Session σ) (steps : List SessionStep) (name : String) : Option Generator :=
  (lastHandle name (registrations s.world.counters.length steps)).or (s.context.registry.get? name)

/-- The settings after steps: the last ones of these steps, or those before them. -/
def settingsAfter (s : Session σ) (steps : List SessionStep) : Pattern.Settings :=
  (steps.reverse.findSome? SessionStep.settings?).getD s.context.settings

variable [RandomSource σ]

theorem steps_cons (s : Session σ) (c : SessionStep) (rest : List SessionStep) :
    (s.steps (c :: rest)).2 = ((s.step c).2.steps rest).2 := rfl

/-! ## One step -/

theorem step_generate (s : Session σ) (slot : String) :
    (s.step (.generate slot)).2 =
      { s with world := (((s.schemaAt slot).generate Generator.draw).runFrom s.world).2 } := by
  simp only [step]
  split
  · next run => rw [run]
  · next run => rw [run]

/-- A step overrides the handles of the names that it registers, and no others. -/
theorem get?_step (s : Session σ) (c : SessionStep) (name : String) :
    (s.step c).2.context.registry.get? name =
      (lastHandle name (c.registrations s.world.counters.length)).or (s.context.registry.get? name) := by
  cases c with
  | register other g => exact get?_setAll_eq name [(other, g)] _
  | registerCounter other start =>
    exact get?_setAll_eq name [(other, .counter s.world.counters.length)] _
  | registerAll r => exact get?_setAll_eq name r.entries _
  | registerFile file =>
    simp only [step, DefinitionFile.registerInto, SessionStep.registrations]
    cases file.toRegistry with
    | ok r => exact get?_setAll_eq name r.entries _
    | error e => rfl
  | configure settings => rfl
  | parse slot source =>
    simp only [step]
    split
    · rfl
    · rfl
  | generate slot =>
    rw [step_generate]
    rfl

theorem settings_step (s : Session σ) (c : SessionStep) :
    (s.step c).2.context.settings = c.settings?.getD s.context.settings := by
  cases c with
  | registerFile file =>
    simp only [step]
    split
    · rfl
    · rfl
  | parse slot source =>
    simp only [step]
    split
    · rfl
    · rfl
  | generate slot =>
    rw [step_generate]
    rfl
  | _ => rfl

/-- Draws make no counters, even where they fail. -/
theorem counters_step (s : Session σ) (c : SessionStep) :
    (s.step c).2.world.counters.length = s.world.counters.length + c.newCounters := by
  cases c with
  | registerCounter name start => exact List.length_append
  | registerFile file =>
    simp only [step]
    split
    · rfl
    · rfl
  | parse slot source =>
    simp only [step]
    split
    · rfl
    · rfl
  | generate slot =>
    rw [step_generate]
    exact (s.schemaAt slot).generate_keeps_length s.world
  | _ => rfl

/-- Only a step that reads a schema into a slot changes what the slot holds. -/
theorem schemaAt_step (s : Session σ) (c : SessionStep) (slot : String) :
    (s.step c).2.schemaAt slot = (c.reads? s.context slot).getD (s.schemaAt slot) := by
  cases c with
  | registerFile file =>
    simp only [step]
    split
    · rfl
    · rfl
  | parse other source =>
    simp only [step, SessionStep.reads?]
    by_cases same : other = slot
    · subst same
      rw [if_pos rfl]
      split
      · next read => simp [schemaAt, read, Except.toOption]
      · next read => simp [read, Except.toOption]
    · rw [if_neg same]
      split
      · exact congrArg (Option.getD · .empty) (Entries.get?_set_of_ne (Ne.symm same) _ s.slots)
      · rfl
  | generate other =>
    rw [step_generate]
    rfl
  | _ => rfl

/-! ## Several steps -/

theorem handleAfter_cons (s : Session σ) (c : SessionStep) (rest : List SessionStep) (name : String) :
    (s.step c).2.handleAfter rest name = s.handleAfter (c :: rest) name := by
  rw [handleAfter, handleAfter, counters_step, get?_step, registrations, lastHandle_append,
    Option.or_assoc]

/-- The registry after steps has the handle that was registered last. -/
theorem get?_steps (s : Session σ) (steps : List SessionStep) (name : String) :
    (s.steps steps).2.context.registry.get? name = s.handleAfter steps name := by
  induction steps generalizing s with
  | nil => rfl
  | cons c rest ih => rw [steps_cons, ih, handleAfter_cons]

theorem settingsAfter_cons (s : Session σ) (c : SessionStep) (rest : List SessionStep) :
    (s.step c).2.settingsAfter rest = s.settingsAfter (c :: rest) := by
  rw [settingsAfter, settingsAfter, settings_step, List.reverse_cons, List.findSome?_append]
  cases rest.reverse.findSome? SessionStep.settings? with
  | none => cases settings : c.settings? <;> simp [settings]
  | some settings => rfl

theorem settings_steps (s : Session σ) (steps : List SessionStep) :
    (s.steps steps).2.context.settings = s.settingsAfter steps := by
  induction steps generalizing s with
  | nil => rfl
  | cons c rest ih => rw [steps_cons, ih, settingsAfter_cons]

/-! ## Runs with their journal -/

/-- The calls of a step with what they gave. -/
def stepCalls (s : Session σ) : SessionStep → List (Generator × Value)
  | .generate slot => ((s.schemaAt slot).recorded s.world).2.calls
  | _ => []

/-- The calls of steps in order. -/
def calls (s : Session σ) : List SessionStep → List (Generator × Value)
  | [] => []
  | c :: rest => s.stepCalls c ++ calls (s.step c).2 rest

/-- A slot holds a schema whose names have the given handles and whose patterns have the given settings. A
run calls no other handles, and calls one exactly once for each evaluation of its name: the calls in order are
used up by the value from left to right. -/
structure Uses (s : Session σ) (slot : String) (handle : String → Option Generator)
    (settings : Pattern.Settings) (root : Node Generator) : Prop where
  holds : s.schemaAt slot = ⟨some root⟩
  every : root.Every (fun t => handle t.name = some t.handle) fun p => p.settings = settings
  journal : ((s.schemaAt slot).generate Generator.draw).runFrom s.world =
    (((s.schemaAt slot).recorded s.world).1, ((s.schemaAt slot).recorded s.world).2.state)
  calls : ∀ call ∈ s.stepCalls (.generate slot), ∃ name, handle name = some call.1
  conforms : ∀ v, (s.step (.generate slot)).1 = .value v →
    root.Conforms (s.stepCalls (.generate slot)) v

/-- A run succeeds if its recorded run does, with the same value. -/
theorem run_of_value {s : Session σ} {slot : String} {v : Value}
    (reply : (s.step (.generate slot)).1 = .value v) :
    ∃ w, ((s.schemaAt slot).generate Generator.draw).runFrom s.world = (.ok v, w) := by
  simp only [step] at reply
  split at reply
  · next w run =>
    cases reply
    exact ⟨w, run⟩
  · cases reply

/-- What was in force when a schema was read is used by its runs, whenever they are made. -/
theorem uses_of_parse {s : Session σ} {slot : String} {ctx : Context Generator} {source : String}
    {schema : Schema Generator} (read : Schema.parse ctx source = .ok schema)
    (holds : s.schemaAt slot = schema) :
    ∃ root, schema = ⟨some root⟩ ∧ s.Uses slot ctx.registry.get? ctx.settings root := by
  unfold Schema.parse at read
  split at read
  · obtain ⟨d, -, root, stands, rfl⟩ := (Schema.ofTokens_eq_ok ctx _ _).mp read
    have journal := (s.schemaAt slot).recorded_eq s.world
    refine ⟨root, rfl, holds, stands.every, Prod.ext journal.1.symm journal.2.symm, ?_, ?_⟩
    · rw [stepCalls, holds]
      exact Schema.recorded_calls stands.every s.world
    · intro v reply
      obtain ⟨w, run⟩ := run_of_value reply
      rw [stepCalls, holds]
      rw [holds] at run
      exact Schema.recorded_conforms stands.formed run
  · cases read

/-! ## What a slot holds -/

/-- No step reads a schema into a slot. -/
def NeverReads (slot : String) (s : Session σ) : List SessionStep → Prop
  | [] => True
  | c :: rest => c.reads? s.context slot = none ∧ NeverReads slot (s.step c).2 rest

/-- What a slot holds after steps: what it held before if none of them read into it, and else the schema
that was read last. That schema uses what was in force at that step, by the registrations and settings of the
steps before it. -/
inductive Holds (s : Session σ) (steps : List SessionStep) (slot : String) : Prop
  | untouched (never : NeverReads slot s steps)
      (same : (s.steps steps).2.schemaAt slot = s.schemaAt slot) : Holds s steps slot
  | read {before after : List SessionStep} {source : String} {root : Node Generator}
      (split : steps = before ++ .parse slot source :: after)
      (read : Schema.parse (s.steps before).2.context source = .ok ⟨some root⟩)
      (last : NeverReads slot ((s.steps before).2.step (.parse slot source)).2 after)
      (uses : (s.steps steps).2.Uses slot (s.handleAfter before) (s.settingsAfter before) root) :
      Holds s steps slot

theorem reads?_eq_some {c : SessionStep} {ctx : Context Generator} {slot : String}
    {schema : Schema Generator} (h : c.reads? ctx slot = some schema) :
    ∃ source, c = .parse slot source ∧ Schema.parse ctx source = .ok schema := by
  cases c with
  | parse other source =>
    rw [SessionStep.reads?] at h
    split at h
    · next same =>
      subst same
      refine ⟨source, rfl, ?_⟩
      cases read : Schema.parse ctx source with
      | error e => rw [read] at h; cases h
      | ok found => rw [read] at h; cases h; rfl
    · cases h
  | _ => cases h

/-- By induction on the steps from the first one on. -/
theorem holds_steps (s : Session σ) (steps : List SessionStep) (slot : String) :
    s.Holds steps slot := by
  induction steps generalizing s with
  | nil => exact .untouched trivial rfl
  | cons c rest ih =>
    have slotAfter := schemaAt_step s c slot
    cases ih (s.step c).2 with
    | untouched never same =>
      -- the first step is the only one that can have read into the slot
      rw [← steps_cons, slotAfter] at same
      cases here : c.reads? s.context slot with
      | none => exact .untouched ⟨here, never⟩ (by rw [same, here, Option.getD_none])
      | some schema =>
        rw [here, Option.getD_some] at same
        obtain ⟨source, rfl, read⟩ := reads?_eq_some here
        obtain ⟨root, rfl, uses⟩ := uses_of_parse read same
        have split : .parse slot source :: rest = [] ++ .parse slot source :: rest := rfl
        exact .read split read never uses
    | @read before after source root split read last uses =>
      -- what the first step registered counts for the schema as far as nothing overrode it
      rw [settingsAfter_cons, funext (handleAfter_cons s c before)] at uses
      have split : c :: rest = (c :: before) ++ .parse slot source :: after := congrArg (c :: ·) split
      exact .read split read last uses

/-! ## Counters -/

theorem stepCalls_numbered (s : Session σ) (c : SessionStep) {cell : Nat} {start : Int64}
    (stands : s.world.counters[cell]? = some start) :
    Numbered cell start (s.stepCalls c) (s.step c).2.world := by
  have idle : ∀ {w : World σ}, w.counters[cell]? = some start → Numbered cell start [] w :=
    fun still => ⟨0, rfl, by simpa using still⟩
  cases c with
  | registerCounter name start =>
    refine idle ?_
    exact (List.getElem?_append_left (List.getElem?_eq_some_iff.mp stands).1).trans stands
  | registerFile file =>
    simp only [step]
    split
    · exact idle stands
    · exact idle stands
  | parse slot source =>
    simp only [step]
    split
    · exact idle stands
    · exact idle stands
  | generate slot =>
    rw [step_generate, ← ((s.schemaAt slot).recorded_eq s.world).2]
    exact (s.schemaAt slot).recorded_numbered stands
  | _ => exact idle stands

/-- Over all steps the results of a counter are successive integers, and the counter is left behind the last
of them. -/
theorem calls_numbered (s : Session σ) (steps : List SessionStep) {cell : Nat} {start : Int64}
    (stands : s.world.counters[cell]? = some start) :
    Numbered cell start (s.calls steps) (s.steps steps).2.world := by
  induction steps generalizing s start with
  | nil => exact ⟨0, rfl, stands.trans (by rw [show Int64.ofNat 0 = 0 from rfl, Int64.add_zero])⟩
  | cons c rest ih =>
    obtain ⟨m, first, middle⟩ := s.stepCalls_numbered c stands
    obtain ⟨n, others, last⟩ := ih (s.step c).2 middle
    refine ⟨m + n, ?_, ?_⟩
    · rw [calls, results, List.filterMap_append, numbers_add]
      exact congrArg₂ (· ++ ·) first others
    · rw [steps_cons, last, Int64.add_assoc, Int64.ofNat_add]

/-- Registering a counter gives its name a handle that no earlier counter has. From there on the results of
the counter are numbered over all schemas together, up to the world that the steps behind it leave. -/
structure Counts (s : Session σ) (name : String) (start : Int64) (after : List SessionStep)
    (left : World σ) : Prop where
  handle : (s.step (.registerCounter name start)).2.context.registry.get? name =
    some (.counter s.world.counters.length)
  numbered : Numbered s.world.counters.length start
    ((s.step (.registerCounter name start)).2.calls after) left

theorem steps_append (s : Session σ) (before after : List SessionStep) :
    (s.steps (before ++ after)).2 = ((s.steps before).2.steps after).2 := by
  induction before generalizing s with
  | nil => rfl
  | cons c before ih => rw [List.cons_append, steps_cons, steps_cons, ih]

/-- Whatever is done in a session: every slot holds the schema that was read into it last and that schema uses
what was in force when it was read, and the results of every counter, of those made before as of those made by
these steps, are successive integers over all runs that follow. -/
theorem history (s : Session σ) (steps : List SessionStep) :
    (∀ slot, s.Holds steps slot) ∧
      (∀ cell start, s.world.counters[cell]? = some start →
        Numbered cell start (s.calls steps) (s.steps steps).2.world) ∧
      ∀ before name start after, steps = before ++ .registerCounter name start :: after →
        (s.steps before).2.Counts name start after (s.steps steps).2.world := by
  refine ⟨s.holds_steps steps, fun _ _ => s.calls_numbered steps, ?_⟩
  rintro before name start after rfl
  have numbered := calls_numbered ((s.steps before).2.step (.registerCounter name start)).2 after
    List.getElem?_concat_length
  rw [steps_append, steps_cons]
  exact ⟨Registry.get?_register_self .., numbered⟩

/-- Two schemas that share a counter. -/
theorem history_shared :
    let s : Session Random.Stream := ⟨default, [("a", ⟨some (.terminal ⟨"n", .counter 0⟩)⟩),
      ("b", ⟨some (.array none (.terminal ⟨"n", .counter 0⟩))⟩)], ⟨.cycle #[], .epoch, [5]⟩⟩
    let steps : List SessionStep := [.generate "a", .register "n" .word, .generate "b", .generate "a"]
    s.world.counters[0]? = some 5 ∧ results 0 (s.calls steps) = [.int 5, .int 6, .int 7] ∧
      Numbered 0 5 (s.calls steps) (s.steps steps).2.world :=
  ⟨rfl, rfl, (history _ _).2.1 0 5 rfl⟩

end Session

end MockSchema
