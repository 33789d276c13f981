import MockSchema.Random.ChaCha

/-!
# Sources chosen at run time

A source of one of the known kinds, for callers that learn the kind only when they run.
-/

namespace MockSchema.Random

inductive AnySource where
  | splitMix (s : SplitMix)
  | stream (s : Stream)
  | chaCha (s : ChaCha)

namespace AnySource

/-- The source for callers that name none: a scrambled counter from zero. -/
def initial : AnySource := .splitMix ⟨0⟩

instance : Inhabited AnySource := ⟨initial⟩

/-- Takes from the source whatever its kind is; the kind stays. -/
def take {α : Type} (f : {σ : Type} → [RandomSource σ] → σ → α × σ) : AnySource → α × AnySource
  | .splitMix s => let (a, s') := f s; (a, .splitMix s')
  | .stream s => let (a, s') := f s; (a, .stream s')
  | .chaCha s => let (a, s') := f s; (a, .chaCha s')

end AnySource

instance : RandomSource AnySource where
  next32 := AnySource.take RandomSource.next32
  next64 := AnySource.take RandomSource.next64
  bytes count := AnySource.take (RandomSource.bytes count)

end MockSchema.Random
