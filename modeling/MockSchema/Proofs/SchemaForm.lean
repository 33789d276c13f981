import MockSchema.Proofs.PatternForm
import MockSchema.Proofs.Reading

/-!
# The form of schemas

What can be relied on in a schema that was read: names stand for what the registry has for them, a
template is written as its segments say, no list has a negative length, and every pattern is compiled.
-/

namespace MockSchema

variable {η : Type}

/-- A cut that a template was made from: the cut is written as the template, its segments are those of the
template, and its names are those of the parameters without the white space around them. -/
structure TemplateCut.Of (cut : TemplateCut) (t : Template η) : Prop where
  written : cut.chars = t.raw.toList
  leftmost : cut.IsLeftmost
  segments_eq : t.segments = cut.segments
  names : t.params.map Terminal.name =
    cut.places.map fun p => String.ofList (Text.trim Unicode.isWhiteSpace p.2)

theorem TemplateCut.Of.length_eq {cut : TemplateCut} {t : Template η} (h : cut.Of t) :
    cut.places.length = t.params.length := by
  simpa using (congrArg List.length h.names).symm

namespace Node

mutual

/-- The form of a node whose names satisfy a condition. -/
def Formed (named : Terminal η → Prop) : Node η → Prop
  | .object members => MembersFormed named members
  | .array length element => (∀ r ∈ length, 0 ≤ r.min) ∧ element.Formed named
  | .template t => (∀ p ∈ t.params, named p) ∧ ∃ cut : TemplateCut, cut.Of t
  | .terminal t => named t
  | .pattern p => p.expr.Formed
  | _ => True

def MembersFormed (named : Terminal η → Prop) : List (String × Node η) → Prop
  | [] => True
  | (_, node) :: rest => node.Formed named ∧ MembersFormed named rest

end

end Node

/-- A terminal is what a registry has for its name. -/
def Registry.Has (r : Registry η) (t : Terminal η) : Prop := r.get? t.name = some t.handle

/-- Names that are registered in order make up the parameters of a cut. -/
theorem Registry.has_of_names {r : Registry η} {names : List (List Char)}
    {params : List (Terminal η)} (registered : List.Forall₂ r.Names names params) :
    (∀ p ∈ params, r.Has p) ∧
      params.map Terminal.name =
        names.map fun name => String.ofList (Text.trim Unicode.isWhiteSpace name) := by
  induction registered with
  | nil => simp
  | cons first _ ih =>
    obtain ⟨has, names⟩ := ih
    exact ⟨List.forall_mem_cons.mpr ⟨first.2, has⟩, by simp [first.1, names]⟩

theorem Token.Denotes.formed {ctx : Context η} {t : Token} {node : Node η}
    (stands : t.Denotes ctx node) : node.Formed ctx.registry.Has := by
  cases stands with
  | terminal _ registered => exact registered
  | template _ written leftmost registered =>
    obtain ⟨has, names⟩ := Registry.has_of_names registered
    exact ⟨has, _, written, leftmost, rfl, names.trans (List.map_map ..)⟩
  | pattern _ compiles => exact (Pattern.ofText_eq_ok compiles).2.2
  | _ => trivial

mutual

theorem ValueTree.Denotes.formed {ctx : Context η} : ∀ {d : ValueTree} {node : Node η},
    d.Denotes ctx node → node.Formed ctx.registry.Has
  | _, _, .leaf token => token.formed
  | _, _, .range _ => trivial
  | _, _, .emptyObject => trivial
  | _, _, .object listed => listed.formed
  | _, _, .emptyArray => trivial
  | _, _, .array item _ => ⟨by simp, item.formed⟩
  | _, _, .sizedArray _ countable item => ⟨by simpa using countable, item.formed⟩

theorem PairsTree.Denotes.formed {ctx : Context η} : ∀ {d : PairsTree}
    {members : List (String × Node η)}, d.Denotes ctx members →
      Node.MembersFormed ctx.registry.Has members
  | _, _, .last member => ⟨member.formed, trivial⟩
  | _, _, .more member others => ⟨member.formed, others.formed⟩

end

/-- A schema that was read has a root of this form. -/
theorem Schema.ofTokens_formed {ctx : Context η} {tokens : List Token} {schema : Schema η}
    (read : Schema.ofTokens ctx tokens = .ok schema) :
    ∃ root, schema = ⟨some root⟩ ∧ root.Formed ctx.registry.Has := by
  obtain ⟨_, -, root, stands, rfl⟩ := (ofTokens_eq_ok ctx tokens schema).mp read
  exact ⟨root, rfl, stands.formed⟩

end MockSchema
