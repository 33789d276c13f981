import MockSchema.Generator.Person
import MockSchema.Generator.Uuid
import MockSchema.Proofs.Draws
import MockSchema.Schema.Generate

/-!
# Draws from related states

A draw that only takes words cannot tell two states apart that give the same words. Let two kinds of states be
related such that related states give the same word and stay related (`SameWords`). Then a draw from either
has the same result, which may be a failure, and leaves related states (`Alike`). This is shown once for every
draw of the library; what is kept during a run, or put down beside it, are instances.
-/

namespace MockSchema

namespace Gen

variable {σ τ α β : Type}

/-- Related states give the same words, and stay related. -/
structure SameWords [RandomSource σ] [RandomSource τ] (R : σ → τ → Prop) : Prop where
  next32 : ∀ s t, R s t → (RandomSource.next32 s).1 = (RandomSource.next32 t).1 ∧
    R (RandomSource.next32 s).2 (RandomSource.next32 t).2
  next64 : ∀ s t, R s t → (RandomSource.next64 s).1 = (RandomSource.next64 t).1 ∧
    R (RandomSource.next64 s).2 (RandomSource.next64 t).2
  bytes : ∀ count s t, R s t → (RandomSource.bytes count s).1 = (RandomSource.bytes count t).1 ∧
    R (RandomSource.bytes count s).2 (RandomSource.bytes count t).2

/-- From related states both draws have the same result and leave related states. -/
def Alike (R : σ → τ → Prop) (g : Gen σ α) (g' : Gen τ α) : Prop :=
  ∀ s t, R s t → (g.runFrom s).1 = (g'.runFrom t).1 ∧ R (g.runFrom s).2 (g'.runFrom t).2

section

variable {R : σ → τ → Prop} {g : Gen σ α} {g' : Gen τ α} {f : α → Gen σ β} {f' : α → Gen τ β}

theorem alike_pure (a : α) : Alike R (pure a) (pure a) := fun _ _ related => ⟨rfl, related⟩

theorem alike_fail (e : Failure) : Alike R (fail e : Gen σ α) (fail e) :=
  fun _ _ related => ⟨rfl, related⟩

theorem alike_step {f : σ → α × σ} {f' : τ → α × τ}
    (h : ∀ s t, R s t → (f s).1 = (f' t).1 ∧ R (f s).2 (f' t).2) : Alike R (step f) (step f') := by
  intro s t related
  obtain ⟨same, kept⟩ := h s t related
  rw [runFrom_step, runFrom_step, same]
  exact ⟨rfl, kept⟩

theorem Alike.bind (hg : Alike R g g') (hf : ∀ a, Alike R (f a) (f' a)) :
    Alike R (g >>= f) (g' >>= f') := by
  intro s t related
  obtain ⟨same, kept⟩ := hg s t related
  rw [runFrom_bind, runFrom_bind]
  cases run : g.runFrom s with
  | mk result s' =>
    cases run' : g'.runFrom t with
    | mk result' t' =>
      rw [run, run'] at same kept
      change result = result' at same
      subst same
      cases result with
      | error e => exact ⟨rfl, kept⟩
      | ok a => exact hf a s' t' kept

theorem Alike.map {f : α → β} (hg : Alike R g g') :
    Alike R (do return f (← g)) (do return f (← g')) :=
  hg.bind fun a => alike_pure (f a)

theorem Alike.times (hg : Alike R g g') (n : Nat) : Alike R (times g n) (times g' n) := by
  induction n with
  | zero => exact alike_pure []
  | succ n ih => exact hg.bind fun a => ih.map

theorem alike_each {γ : Type} {f : γ → Gen σ α} {f' : γ → Gen τ α} {cs : List γ}
    (h : ∀ c ∈ cs, Alike R (f c) (f' c)) : Alike R (each f cs) (each f' cs) := by
  induction cs with
  | nil => exact alike_pure []
  | cons c rest ih =>
    obtain ⟨first, others⟩ := List.forall_mem_cons.mp h
    exact first.bind fun a => (ih others).map

end

end Gen

open Gen

variable {σ τ : Type} {R : σ → τ → Prop}

/-! ## Single draws -/

namespace Random

theorem reduced_alike {word : σ → Nat × σ} {word' : τ → Nat × τ}
    (words : ∀ s t, R s t → (word s).1 = (word' t).1 ∧ R (word s).2 (word' t).2) (width range : Nat)
    (s : σ) (t : τ) (related : R s t) :
    (reduced width range word s).1 = (reduced width range word' t).1 ∧
      R (reduced width range word s).2 (reduced width range word' t).2 := by
  obtain ⟨same, kept⟩ := words s t related
  obtain ⟨same', kept'⟩ := words _ _ kept
  unfold reduced
  simp only [same, same']
  split
  · exact ⟨rfl, kept'⟩
  · exact ⟨rfl, kept⟩

theorem fillFrom_alike {next : σ → Nat × σ} {next' : τ → Nat × τ}
    (same : ∀ s t, R s t → (next s).1 = (next' t).1 ∧ R (next s).2 (next' t).2) (size words count : Nat)
    (s : σ) (t : τ) (related : R s t) :
    (fillFrom size next words count s).1 = (fillFrom size next' words count t).1 ∧
      R (fillFrom size next words count s).2 (fillFrom size next' words count t).2 := by
  induction words generalizing count s t with
  | zero => exact ⟨rfl, related⟩
  | succ words ih =>
    obtain ⟨first, kept⟩ := same s t related
    obtain ⟨others, kept⟩ := ih (count - size) _ _ kept
    refine ⟨?_, kept⟩
    simp only [fillFrom, first, others]

/-- Where all words come from long ones, only those have to be the same. -/
theorem sameWords_viaWords {next : σ → UInt64 × σ} {next' : τ → UInt64 × τ}
    (same : ∀ s t, R s t → (next s).1 = (next' t).1 ∧ R (next s).2 (next' t).2) :
    @SameWords σ τ (viaWords next) (viaWords next') R := by
  let _ := viaWords next
  let _ := viaWords next'
  refine ⟨fun s t related => ?_, same, fun count s t related => ?_⟩
  · obtain ⟨first, kept⟩ := same s t related
    exact ⟨congrArg UInt64.toUInt32 first, kept⟩
  · refine fillFrom_alike (fun s t related => ?_) 8 _ count s t related
    obtain ⟨first, kept⟩ := same s t related
    exact ⟨congrArg UInt64.toNat first, kept⟩

variable [RandomSource σ] [RandomSource τ]

theorem word32_alike (words : SameWords R) (s : σ) (t : τ) (related : R s t) :
    (word32 s).1 = (word32 t).1 ∧ R (word32 s).2 (word32 t).2 :=
  ⟨congrArg UInt32.toNat (words.next32 s t related).1, (words.next32 s t related).2⟩

theorem word64_alike (words : SameWords R) (s : σ) (t : τ) (related : R s t) :
    (word64 s).1 = (word64 t).1 ∧ R (word64 s).2 (word64 t).2 :=
  ⟨congrArg UInt64.toNat (words.next64 s t related).1, (words.next64 s t related).2⟩

theorem below32_alike (words : SameWords R) (range : Nat) :
    Alike R (below32 range : Gen σ Nat) (below32 range) := by
  unfold below32
  split
  · exact alike_fail _
  split
  · exact alike_step (word32_alike words)
  · exact alike_step (reduced_alike (word32_alike words) 32 range)

theorem belowLength_alike (words : SameWords R) (length : Nat) :
    Alike R (belowLength length : Gen σ Nat) (belowLength length) := by
  unfold belowLength
  split
  · exact below32_alike words length
  · exact alike_step (reduced_alike (word64_alike words) 64 length)

theorem between32_alike (words : SameWords R) (low high : Nat) :
    Alike R (between32 low high : Gen σ Nat) (between32 low high) := by
  unfold between32
  split
  · exact alike_fail _
  · exact (below32_alike words _).map

theorem between64_alike (words : SameWords R) (low high : Int64) :
    Alike R (between64 low high : Gen σ Int64) (between64 low high) := by
  unfold between64
  split
  · exact alike_fail _
  dsimp only
  split
  · exact alike_step fun s t related =>
      ⟨congrArg UInt64.toInt64 (words.next64 s t related).1, (words.next64 s t related).2⟩
  · refine alike_step fun s t related => ?_
    obtain ⟨same, kept⟩ := reduced_alike (word64_alike words) 64 (high.toInt - low.toInt + 1).toNat s t
      related
    exact ⟨congrArg (fun n => low + Int64.ofNat n) same, kept⟩

theorem chance_alike (words : SameWords R) (p : Binary64) :
    Alike R (chance p : Gen σ Bool) (chance p) := by
  unfold chance
  split
  · exact alike_pure true
  split
  · exact alike_fail _
  · refine alike_step fun s t related => ?_
    obtain ⟨same, kept⟩ := word64_alike words s t related
    exact ⟨congrArg (fun w => decide (w < p.floorScaled 64)) same, kept⟩

theorem betweenFloats_alike (words : SameWords R) (low high : Binary64) :
    Alike R (betweenFloats low high : Gen σ Binary64) (betweenFloats low high) := by
  unfold betweenFloats
  split
  · exact alike_fail _
  · refine alike_step fun s t related => ?_
    obtain ⟨same, kept⟩ := word64_alike words s t related
    exact ⟨congrArg (fun w => ((Binary64.ofDyadic false (w / 4096) (-52)).mul (high.sub low)).add low)
      same, kept⟩

theorem pick_alike {α : Type} (words : SameWords R) (members : List α) :
    Alike R (pick members : Gen σ α) (pick members) := by
  refine (belowLength_alike words _).bind fun place => ?_
  split
  · exact alike_pure _
  · exact alike_fail _

end Random

variable [RandomSource σ] [RandomSource τ]

theorem Range.draw_alike (words : SameWords R) (r : Range) :
    Alike R (r.draw : Gen σ Int64) r.draw := by
  unfold Range.draw
  split
  · exact alike_pure _
  · exact Random.between64_alike words _ _

theorem drawLength_alike (words : SameWords R) (length : Option Range) :
    Alike R (drawLength length : Gen σ Nat) (drawLength length) := by
  cases length with
  | none => exact alike_pure 1
  | some r => exact (r.draw_alike words).map

/-! ## Texts -/

namespace Pattern

theorem drawCount_alike (words : SameWords R) (settings : Settings) (counts : Counts) :
    Alike R (drawCount settings counts : Gen σ Nat) (drawCount settings counts) := by
  unfold drawCount
  split
  · exact (Random.chance_alike words _).map
  · exact Random.between32_alike words _ _

theorem drawMember_alike (words : SameWords R) (set : CharSet) :
    Alike R (drawMember set : Gen σ (List Char)) (drawMember set) := by
  unfold drawMember
  split
  · exact alike_pure _
  · exact (Random.below32_alike words _).map

namespace Expr

mutual

theorem sample_alike (words : SameWords R) (settings : Settings) : ∀ e : Expr,
    Alike R (e.sample settings : Gen σ (List Char)) (e.sample settings)
  | .empty => alike_pure _
  | .look _ => alike_pure _
  | .literal _ => alike_pure _
  | .class _ set => drawMember_alike words set
  | .repetition counts _ sub =>
    (drawCount_alike words settings counts).bind fun n => ((sample_alike words settings sub).times n).map
  | .capture _ _ sub => sample_alike words settings sub
  | .concat parts => sampleAll_alike words settings parts
  | .alternation [] => alike_pure _
  | .alternation (e :: rest) =>
    (Random.belowLength_alike words _).bind fun place => sampleAt_alike words settings (e :: rest) place

theorem sampleAll_alike (words : SameWords R) (settings : Settings) : ∀ es : List Expr,
    Alike R (sampleAll settings es : Gen σ (List Char)) (sampleAll settings es)
  | [] => alike_pure _
  | e :: rest => (sample_alike words settings e).bind fun _ => (sampleAll_alike words settings rest).map

theorem sampleAt_alike (words : SameWords R) (settings : Settings) : ∀ (es : List Expr) (place : Nat),
    Alike R (sampleAt settings es place : Gen σ (List Char)) (sampleAt settings es place)
  | [], _ => alike_pure _
  | e :: _, 0 => sample_alike words settings e
  | _ :: rest, place + 1 => sampleAt_alike words settings rest place

end

end Expr

theorem draw_alike (words : SameWords R) (p : Pattern) : Alike R (p.draw : Gen σ String) p.draw :=
  (p.expr.sample_alike words p.settings).map

end Pattern

/-! ## Persons and identifiers -/

namespace Person

theorem firstName_alike (words : SameWords R) : Alike R (firstName : Gen σ String) firstName :=
  Random.pick_alike words firstNames

theorem lastName_alike (words : SameWords R) : Alike R (lastName : Gen σ String) lastName :=
  Random.pick_alike words lastNames

theorem fullName_alike (words : SameWords R) : Alike R (fullName : Gen σ String) fullName :=
  (firstName_alike words).bind fun _ => (lastName_alike words).map

theorem email_alike (words : SameWords R) : Alike R (email : Gen σ String) email :=
  (firstName_alike words).bind fun _ => (lastName_alike words).bind fun _ =>
    (Random.pick_alike words emailDomains).map

theorem digits_alike (words : SameWords R) (count : Nat) :
    Alike R (digits count : Gen σ (List Char)) (digits count) :=
  (Random.below32_alike words 10).map.times count

theorem phoneNumber_alike (words : SameWords R) : Alike R (phoneNumber : Gen σ String) phoneNumber :=
  (digits_alike words 3).bind fun _ => (digits_alike words 3).bind fun _ => (digits_alike words 4).map

end Person

theorem Uuid.draw_alike (words : SameWords R) : Alike R (Uuid.draw : Gen σ String) Uuid.draw :=
  (alike_step (words.bytes 16)).map

/-! ## Values -/

variable {η : Type}

namespace Node

mutual

/-- Conditions on all names and all patterns in a node. -/
def Every (named : Terminal η → Prop) (compiled : Pattern → Prop) : Node η → Prop
  | .object members => MembersEvery named compiled members
  | .array _ element => element.Every named compiled
  | .template t => ∀ p ∈ t.params, named p
  | .terminal t => named t
  | .pattern p => compiled p
  | _ => True

def MembersEvery (named : Terminal η → Prop) (compiled : Pattern → Prop) :
    List (String × Node η) → Prop
  | [] => True
  | (_, node) :: rest => node.Every named compiled ∧ MembersEvery named compiled rest

end

mutual

theorem every_true : ∀ node : Node η, node.Every (fun _ => True) fun _ => True
  | .object members => membersEvery_true members
  | .array _ element => element.every_true
  | .template _ => fun _ _ => trivial
  | .terminal _ | .pattern _ | .emptyArray | .range _ | .literal _ => trivial

theorem membersEvery_true : ∀ members : List (String × Node η),
    MembersEvery (fun _ => True) (fun _ => True) members
  | [] => trivial
  | (_, node) :: rest => ⟨node.every_true, membersEvery_true rest⟩

end

variable {call : η → Gen σ Value} {call' : η → Gen τ Value} {named : Terminal η → Prop}
  {compiled : Pattern → Prop}

mutual

/-- Values of a node are alike if those of its names are. -/
theorem generate_alike (words : SameWords R)
    (calls : ∀ t, named t → Alike R (call t.handle) (call' t.handle)) : ∀ node : Node η,
    node.Every named compiled → Alike R (node.generate call) (node.generate call')
  | .object members, every => (generateMembers_alike words calls members every).map
  | .array length element, every =>
    (drawLength_alike words length).bind fun n =>
      ((generate_alike words calls element every).times n).map
  | .emptyArray, _ => alike_pure _
  | .range r, _ => (r.draw_alike words).map
  | .template _, every => (alike_each fun p member => calls p (every p member)).map.map
  | .literal _, _ => alike_pure _
  | .terminal t, every => calls t every
  | .pattern p, _ => (p.draw_alike words).map

theorem generateMembers_alike (words : SameWords R)
    (calls : ∀ t, named t → Alike R (call t.handle) (call' t.handle)) :
    ∀ members : List (String × Node η), MembersEvery named compiled members →
      Alike R (generateMembers call members) (generateMembers call' members)
  | [], _ => alike_pure _
  | (_, node) :: rest, every =>
    (generate_alike words calls node every.1).bind fun _ =>
      (generateMembers_alike words calls rest every.2).map

end

end Node

end MockSchema
