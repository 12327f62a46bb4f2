import SourceLint.Proofs.Syntax.Shape
import SourceLint.Syntax.Parser

/-!
# What a parser yields

* **`Parser.Yields`** — whatever a parser returns has a property.  What it returns nothing of, because it
  fails, does not matter.

The lemmas follow the ways in which parsers are put together: `Yields.bind` and `Yields.after` for one
after another, `Yields.ite` for a choice, `yields_group` for what is inside a group, and one for each sort
of list.
-/

namespace SourceLint.Syntax.Parser

variable {α β : Type} {P : α → Prop} {Q : β → Prop}

/-- Whatever the parser returns has the property. -/
def Yields (p : Parser α) (P : α → Prop) : Prop :=
  ∀ s a t, p s = .ok (a, t) → P a

namespace Yields

/-- What the second parser yields may rest on what the first one yields. -/
theorem bind {p : Parser α} {f : α → Parser β} (hp : p.Yields P)
    (hf : ∀ a, P a → (f a).Yields Q) : (p >>= f).Yields Q := by
  intro s b u h
  change (p s >>= fun r => f r.1 r.2) = .ok (b, u) at h
  cases hps : p s with
  | error e => rw [hps] at h; cases h
  | ok r =>
    obtain ⟨a, t⟩ := r
    rw [hps] at h
    exact hf a (hp s a t hps) t b u h

/-- What the second parser yields does not rest on the first one. -/
theorem after {p : Parser α} {f : α → Parser β} (hf : ∀ a, (f a).Yields Q) : (p >>= f).Yields Q :=
  bind (P := fun _ => True) (fun _ _ _ _ => trivial) fun a _ => hf a

theorem pure {a : α} (h : P a) : (pure a : Parser α).Yields P := by
  intro s b t hb
  cases hb
  exact h

/-- A value that is already known is handed on. -/
theorem of_pure {a : α} {f : α → Parser β} (h : (f a).Yields Q) :
    ((Pure.pure a : Parser α) >>= f).Yields Q := h

theorem ite {c : Prop} [Decidable c] {p q : Parser α} (hp : p.Yields P) (hq : q.Yields P) :
    (if c then p else q).Yields P := by
  split
  · exact hp
  · exact hq

theorem map {p : Parser α} {f : α → β} (hp : p.Yields P) (hf : ∀ a, P a → Q (f a)) :
    (f <$> p).Yields Q :=
  bind hp fun a ha => .pure (hf a ha)

/-- Whatever is returned has both properties. -/
theorem and {p : Parser α} {P' : α → Prop} (hp : p.Yields P) (hp' : p.Yields P') :
    p.Yields fun a => P a ∧ P' a :=
  fun s a t hs => ⟨hp s a t hs, hp' s a t hs⟩

theorem mono {p : Parser α} {P' : α → Prop} (hp : p.Yields P) (h : ∀ a, P a → P' a) :
    p.Yields P' :=
  fun s a t hs => h a (hp s a t hs)

end Yields

/-- What is wrapped keeps its property. -/
theorem yields_some {p : Parser α} (hp : p.Yields P) :
    (some <$> p).Yields fun a? => ∀ a ∈ a?, P a := by
  refine hp.map fun a ha a' ha' => ?_
  cases ha'
  exact ha

/-! ### Failing -/

theorem yields_throw (e : SyntaxError) : (throw e : Parser α).Yields P := by
  intro s a t h
  cases h

theorem yields_fail (cause : SyntaxCause) : (fail cause : Parser α).Yields P :=
  .after fun _ => yields_throw _

theorem yields_expected (what : List String) : (expected what : Parser α).Yields P :=
  .after fun _ => yields_fail _

/-! ### Groups -/

theorem yields_groupThen {d : Delimiter} {p : Parser α} {next : α → Parser β} (hp : p.Yields P)
    (hnext : ∀ a, P a → (next a).Yields Q) : (groupThen d p next).Yields Q := by
  intro s b u h
  unfold groupThen at h
  split at h
  · split at h
    · -- the inside and what follows the group both succeed
      simp only [bind, Except.bind] at h
      split at h
      · cases h
      · rename_i r hinner
        split at h
        · cases h
        · rename_i r' hafter
          cases h
          exact hnext r.1 (hp _ r.1 r.2 hinner) _ r'.1 r'.2 hafter
    · exact yields_expected (P := Q) _ s b u h
  · exact yields_expected (P := Q) _ s b u h

theorem yields_group {d : Delimiter} {p : Parser α} (hp : p.Yields P) : (group d p).Yields P :=
  yields_groupThen hp fun _ ha => .pure ha

/-! ### Lists -/

section Lists

variable {p : Parser α} (hp : p.Yields P)

include hp

theorem yields_listToWithin (stop : List TokenTree → Bool) (separator : String) (fuel : Nat) :
    (listToWithin stop separator p fuel).Yields fun as => ∀ a ∈ as, P a := by
  induction fuel with
  | zero => exact .pure fun _ h => absurd h List.not_mem_nil
  | succ fuel ih =>
    refine .after fun ts => .ite (.pure fun _ h => absurd h List.not_mem_nil) ?_
    refine .bind hp fun a ha => .after fun ts => .ite (.pure (List.forall_mem_singleton.2 ha)) ?_
    exact .after fun _ => .bind ih fun as has => .pure (List.forall_mem_cons.2 ⟨ha, has⟩)

theorem yields_listTo (stop : List TokenTree → Bool) (separator : String) :
    (listTo stop separator p).Yields fun as => ∀ a ∈ as, P a :=
  .after fun _ => yields_listToWithin hp stop separator _

theorem yields_commaList : (commaList p).Yields fun as => ∀ a ∈ as, P a :=
  yields_listTo hp List.isEmpty ","

theorem yields_listOfWithin (stop : List TokenTree → Bool) (separator : String) (fuel : Nat) :
    (listOfWithin stop separator p fuel).Yields fun as => ∀ a ∈ as, P a := by
  induction fuel with
  | zero => exact .pure fun _ h => absurd h List.not_mem_nil
  | succ fuel ih =>
    refine .after fun ts => .ite (.pure fun _ h => absurd h List.not_mem_nil) ?_
    refine .bind hp fun a ha => .after fun more => .ite ?_ (.pure (List.forall_mem_singleton.2 ha))
    exact .bind ih fun as has => .pure (List.forall_mem_cons.2 ⟨ha, has⟩)

theorem yields_listOf (stop : List TokenTree → Bool) (separator : String) :
    (listOf stop separator p).Yields fun as => ∀ a ∈ as, P a :=
  .after fun _ => yields_listOfWithin hp stop separator _

theorem yields_whileWithin (more : List TokenTree → Bool) (fuel : Nat) :
    (whileWithin more p fuel).Yields fun as => ∀ a ∈ as, P a := by
  induction fuel with
  | zero => exact .pure fun _ h => absurd h List.not_mem_nil
  | succ fuel ih =>
    refine .after fun ts => .ite ?_ (.pure fun _ h => absurd h List.not_mem_nil)
    exact .bind hp fun a ha => .bind ih fun as has => .pure (List.forall_mem_cons.2 ⟨ha, has⟩)

theorem yields_repeatWhile (more : List TokenTree → Bool) :
    (repeatWhile more p).Yields fun as => ∀ a ∈ as, P a :=
  .after fun _ => yields_whileWithin hp more _

theorem yields_repeatToEnd : (repeatToEnd p).Yields fun as => ∀ a ∈ as, P a :=
  yields_repeatWhile hp _

end Lists

/-! ### Nodes -/

theorem yields_node {P : Node → Prop} {start : Position} {l : Label} {cs : List Node}
    (h : ∀ s, P (.mk l s cs)) : (node start l cs).Yields P :=
  .after fun _ => .pure (h _)

theorem yields_plain_node {start : Position} {l : Label} {cs : List Node}
    (hl : l.standsFreely = true) (hcs : AllPlain cs) : (node start l cs).Yields Node.Plain :=
  yields_node fun _ => Node.plain_mk hl hcs

theorem yields_simple_node {start : Position} {l : Label} {cs : List Node}
    (hl : l.standsFreely = true) (hcs : AllPlain cs) : (node start l cs).Yields Node.Simple :=
  yields_node fun _ => ⟨Node.plain_mk hl hcs, hcs⟩

theorem yields_expressionNode {start : Position} {form : ExpressionForm} {cs : List Node}
    (hform : (Label.part (.expression form)).isFree = true) (hcs : AllPlain cs) :
    (expressionNode start form cs).Yields Node.Simple :=
  yields_simple_node hform hcs

/-- A path as an expression. -/
theorem yields_pathNode {start : Position} {p : TypedPath} {cs : List Node} (hp : p.isProper = true)
    (hcs : AllPlain cs) : (expressionNode start (.path p) cs).Yields Node.Simple :=
  yields_node fun _ => ⟨Node.plain_mk_of_describes rfl hcs hp, hcs⟩

theorem yields_typeNode {start : Position} {form : TypeForm} {cs : List Node} (hcs : AllPlain cs) :
    (typeNode start form cs).Yields Node.Plain :=
  yields_plain_node rfl hcs

theorem yields_patternNode {start : Position} {form : PatternForm} {cs : List Node}
    (hcs : AllPlain cs) : (patternNode start form cs).Yields Node.Simple :=
  yields_simple_node rfl hcs

end SourceLint.Syntax.Parser
