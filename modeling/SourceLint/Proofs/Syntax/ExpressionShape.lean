import SourceLint.Proofs.Syntax.TypeShape
import SourceLint.Syntax.Grammar.Expression

/-!
# The shape of patterns and expressions

Patterns and expressions are simple: not only they but also their children may stand wherever a plain node
may.  This is what lets attributes be put before the parts of an operand, and a dot take over the parts of
the number before it.

* **`yields_pattern`**, **`yields_alternatives`** — patterns.
* **`yields_atom`**, **`yields_operand`**, **`yields_operators`**, **`yields_expression`**,
  **`yields_statementExpression`** — expressions.
-/

namespace SourceLint.Syntax

open Syntax.Parser

namespace Node

theorem Simple.plain {n : Node} (h : n.Simple) : n.Plain := h.1

/-- The parts of a simple node with others before them. -/
theorem Simple.append {n : Node} (h : n.Simple) (s : Span) {as : List Node} (has : AllPlain as) :
    (mk n.label s (as ++ n.children)).Simple := by
  obtain ⟨l, s', cs⟩ := n
  exact ⟨Plain.append h.1 has, allPlain_append.2 ⟨has, h.2⟩⟩

theorem simple_mk {l : Label} {s : Span} {cs : List Node} (hl : l.standsFreely = true)
    (hcs : AllPlain cs) : (mk l s cs).Simple :=
  ⟨plain_mk hl hcs, hcs⟩

end Node

open Node

namespace Production

variable {g : Grammar}

/-! ### Patterns -/

theorem yields_single {p : Parser Node} (hp : p.Yields Simple) :
    (do return [← p] : Parser (List Node)).Yields AllPlain :=
  .bind hp fun _ hn => .pure (by simpa using hn.plain)

variable (hg : g.Sound)

include hg

theorem yields_alternatives : (alternatives g).Yields Simple := by
  refine .after fun start => .after fun leading => .bind hg.pattern fun first hfirst => ?_
  have hmore : (do mark "|"; g.pattern : Parser Node).Yields Simple := .after fun _ => hg.pattern
  refine .after fun ts => .ite (.bind (yields_repeatWhile hmore _) fun rest hrest => ?_) (.pure hfirst)
  refine yields_patternNode (allPlain_cons.2 ⟨hfirst.plain, fun n hn => (hrest n hn).plain⟩)

theorem yields_pathExpression : (pathExpression g).Yields Simple :=
  .after fun _ => .bind ((yields_typedPath_isProper true).and (yields_typedPath hg true)) fun _ h =>
    yields_pathNode h.1 h.2

theorem yields_constBlock : (constBlock g).Yields Simple :=
  .after fun _ => .after fun _ => .bind (yields_attributedBlock hg) fun _ h =>
    yields_expressionNode rfl (by simpa using h)

theorem yields_rangeBound? : (rangeBound? g).Yields fun n? => ∀ n ∈ n?, n.Simple := by
  refine .after fun ts => .ite (.pure nofun) <| .ite (yields_some yields_literal) ?_
  refine .ite (yields_some (yields_pathExpression hg)) ?_
  exact .ite (yields_some (yields_constBlock hg)) (yields_expected _)

theorem yields_rangeRest : (rangeRest g).Yields AllPlain := by
  refine .after fun closed => .bind (yields_rangeBound? hg) fun upper hupper => ?_
  cases upper with
  | none => exact .ite (yields_expected _) (.pure allPlain_nil)
  | some n => exact .pure (by simpa using (hupper n rfl).plain)

theorem yields_fieldPattern (start : Position) {attributes : List Node} (ha : AllPlain attributes) :
    (fieldPattern g start attributes).Yields Node.Plain := by
  unfold fieldPattern
  refine .after fun boxed => .after fun byRef => .after fun mutable => ?_
  extract_lets marked rest
  have hrest : ∀ r, (rest r).Yields Node.Plain := by
    refine fun r => .after fun ts => .ite ?_ (.ite ?_ ?_)
    · refine .after fun _ => .bind (yields_alternatives hg) fun inner hinner => ?_
      exact (yields_patternNode (by simp [ha, hinner.plain])).mono fun _ h => h.plain
    · refine .bind (yields_patternNode allPlain_nil) fun inner hinner => ?_
      exact (yields_patternNode (by simp [ha, hinner.plain])).mono fun _ h => h.plain
    · exact (yields_patternNode ha).mono fun _ h => h.plain
  exact .ite (.after fun n => .of_pure (hrest (n, false))) (.after fun r => hrest r)

theorem yields_fieldPatterns (fuel : Nat) : (fieldPatterns g fuel).Yields AllPlain := by
  induction fuel with
  | zero => exact .pure allPlain_nil
  | succ fuel ih =>
    refine .after fun ts => .ite (.pure allPlain_nil) (.after fun start => ?_)
    refine .bind (yields_outerAttributes hg) fun attributes ha => .after fun ts => .ite ?_ ?_
    · exact .after fun _ => yields_single (yields_patternNode ha)
    · refine .bind (yields_fieldPattern hg start ha) fun field hfield => .after fun ts => .ite ?_ ?_
      · exact .pure (by simpa using hfield)
      · exact .after fun _ => .bind ih fun rest hrest => .pure (allPlain_cons.2 ⟨hfield, hrest⟩)

theorem yields_patternFromPath : (patternFromPath g).Yields Simple := by
  refine .after fun start => .bind (yields_typedPath hg true) fun r hr => .after fun ts => ?_
  refine .ite ?call <| .ite ?struct <| .ite ?tuple <| .ite ?range (yields_patternNode hr)
  case call => exact .bind (yields_macroRest _ _) fun call h => yields_patternNode (by simpa using h)
  case struct =>
    refine .bind (yields_group (.after fun ts => yields_fieldPatterns hg _)) fun fields hfields => ?_
    exact yields_patternNode (allPlain_append.2 ⟨hr, hfields⟩)
  case tuple =>
    refine .bind (yields_group (yields_commaList (yields_alternatives hg))) fun elements h => ?_
    exact yields_patternNode (allPlain_append.2 ⟨hr, fun n hn => (h n hn).plain⟩)
  case range =>
    exact .bind (yields_rangeRest hg) fun upper hupper =>
      yields_patternNode (allPlain_append.2 ⟨hr, hupper⟩)

theorem yields_patternFromLiteral : (patternFromLiteral g).Yields Simple := by
  refine .after fun start => .bind (yields_rangeBound? hg) fun lower? hlower => ?_
  cases lower? with
  | none => exact yields_expected _
  | some lower =>
    have hplain : lower.Plain := (hlower lower rfl).plain
    refine .after fun ts => .ite (.bind (yields_rangeRest hg) fun upper hupper => ?_) ?_
    · exact yields_patternNode (allPlain_cons.2 ⟨hplain, hupper⟩)
    · exact yields_patternNode (by simpa using hplain)

theorem yields_patternFromDots : (patternFromDots g).Yields Simple := by
  refine .after fun start => .after fun closed => .bind (yields_rangeBound? hg) fun upper? hupper => ?_
  cases upper? with
  | none => exact .ite (yields_expected _) (yields_patternNode allPlain_nil)
  | some upper => exact yields_patternNode (by simpa using (hupper upper rfl).plain)

theorem yields_bindingPattern : (bindingPattern g).Yields Simple := by
  unfold bindingPattern
  refine .after fun start => .after fun _ => .after fun _ => .after fun ts => ?_
  extract_lets rest
  have hrest : (rest ()).Yields Simple := by
    refine .after fun bound => .ite ?_ (yields_patternNode allPlain_nil)
    exact .bind hg.pattern fun n hn => yields_patternNode (by simpa using hn.plain)
  exact .ite (.after fun _ => hrest) (.after fun _ => hrest)

theorem yields_tupleElements (fuel : Nat) : (tupleElements g fuel).Yields fun r => AllPlain r.1 := by
  induction fuel with
  | zero => exact .pure allPlain_nil
  | succ fuel ih =>
    refine .after fun ts => .ite (.pure allPlain_nil) ?_
    refine .bind (yields_alternatives hg) fun element h => .after fun ts => .ite ?_ ?_
    · exact .pure (by simpa using h.plain)
    · exact .after fun _ => .bind ih fun r hr => .pure (allPlain_cons.2 ⟨h.plain, hr⟩)

theorem yields_parenthesizedPattern : (parenthesizedPattern g).Yields Simple := by
  refine .after fun start => ?_
  refine .bind (yields_group (.after fun ts => yields_tupleElements hg _)) fun r hr => ?_
  obtain ⟨elements, trailing⟩ := r
  dsimp only
  split
  · exact yields_patternNode hr
  · exact yields_patternNode hr

theorem yields_sliceElement : (sliceElement g).Yields Simple := by
  refine .bind (yields_alternatives hg) fun element h => ?_
  split
  · exact yields_throw _
  · exact .pure h

theorem yields_pattern : (Production.pattern g).Yields Simple := by
  refine .after fun start => .after fun ts => .ite (yields_patternFromPath hg) ?_
  refine .ite (.after fun _ => yields_patternNode allPlain_nil) ?_
  refine .ite (.after fun _ => .after fun _ => yields_patternNode allPlain_nil) ?_
  refine .ite (yields_patternFromLiteral hg) <| .ite (yields_bindingPattern hg) ?_
  refine .ite ?reference <| .ite (yields_parenthesizedPattern hg) <| .ite ?slice ?_
  case reference =>
    exact .after fun _ => .after fun _ => .bind hg.pattern fun n hn =>
      yields_patternNode (by simpa using hn.plain)
  case slice =>
    refine .bind (yields_group (yields_commaList (yields_sliceElement hg))) fun elements h => ?_
    exact yields_patternNode fun n hn => (h n hn).plain
  exact .ite (yields_patternFromDots hg) (yields_expected _)

/-! ### Operators -/

theorem yields_extendOperand (allowStruct : Bool) (level : Precedence) (fuel : Nat) {e : Node}
    (he : e.Simple) : (extendOperand g allowStruct level fuel e).Yields Simple := by
  induction fuel generalizing e with
  | zero => exact .pure he
  | succ fuel ih =>
    refine .after fun ts => .ite (.bind (hg.operators e _ _ he) fun e' he' => ?_) (.pure he)
    exact .after fun ts' => .ite (.pure he') (ih he')

theorem yields_rightOperand (allowStruct : Bool) (level : Precedence) :
    (rightOperand g allowStruct level).Yields Simple :=
  .bind (hg.operand allowStruct) fun _ he => .after fun _ => yields_extendOperand hg _ _ _ he

theorem yields_rangeEnd (allowStruct : Bool) : (rangeEnd g allowStruct).Yields AllPlain := by
  refine .after fun closed => .after fun ts => ?_
  have hupper := yields_single (yields_rightOperand hg allowStruct Precedence.range)
  exact .ite (.pure allPlain_nil) hupper

theorem yields_operatorStep {left : Node} (hleft : left.Simple) (allowStruct : Bool)
    (level : Precedence) :
    (operatorStep g left allowStruct level).Yields fun e? => ∀ e ∈ e?, e.Simple := by
  have hsome : ∀ start form cs, (Label.part (.expression form)).isFree = true → AllPlain cs →
      (do return some (← expressionNode start form cs) : Parser _).Yields
        fun e? => ∀ e ∈ e?, e.Simple :=
    fun start form cs hform hcs => yields_some (yields_expressionNode hform hcs)
  refine .after fun ts => .ite (.pure nofun) ?_
  split
  · -- an operator between operands
    rename_i symbol op _
    have hbinary : (do
        mark symbol
        let right ← rightOperand g allowStruct op.precedence
        return some (← expressionNode left.span.start (.binary op) [left, right]) : Parser _).Yields
          fun e? => ∀ e ∈ e?, e.Simple :=
      .after fun _ => .bind (yields_rightOperand hg _ _) fun right hright =>
        hsome _ _ _ rfl (by simp [hleft.plain, hright.plain])
    exact .ite (.pure nofun) (.ite (.after fun _ => hbinary) hbinary)
  · refine .ite ?assignment <| .ite ?range <| .ite ?cast (.pure nofun)
    case assignment =>
      exact .after fun _ => .bind (yields_rightOperand hg _ _) fun right hright =>
        hsome _ _ _ rfl (by simp [hleft.plain, hright.plain])
    case range =>
      exact .bind (yields_rangeEnd hg _) fun upper hupper =>
        hsome _ _ _ rfl (allPlain_cons.2 ⟨hleft.plain, hupper⟩)
    case cast =>
      exact .after fun _ => .bind (hg.type false) fun type htype => .after fun _ =>
        hsome _ _ _ rfl (by simp [hleft.plain, htype])

theorem yields_operatorsWithin (allowStruct : Bool) (level : Precedence) (fuel : Nat) {left : Node}
    (hleft : left.Simple) : (operatorsWithin g allowStruct level fuel left).Yields Simple := by
  induction fuel generalizing left with
  | zero => exact .pure hleft
  | succ fuel ih =>
    refine .bind (yields_operatorStep hg hleft allowStruct level) fun e? he => ?_
    cases e? with
    | none => exact .pure hleft
    | some e => exact ih (he e rfl)

theorem yields_operators {left : Node} (hleft : left.Simple) (allowStruct : Bool)
    (level : Precedence) : (Production.operators g left allowStruct level).Yields Simple :=
  .after fun _ => yields_operatorsWithin hg allowStruct level _ hleft

theorem yields_expression (allowStruct : Bool) :
    (Production.expression g allowStruct).Yields Simple :=
  .bind (hg.operand allowStruct) fun _ hleft => yields_operators hg hleft allowStruct .lowest

/-! ### Calls, fields and indices -/

theorem yields_expressionList (d : Delimiter) : (expressionList g d).Yields Node.Plain := by
  refine .after fun start => ?_
  refine .bind (yields_group (yields_commaList (hg.expression true))) fun elements h => ?_
  exact yields_plain_node rfl fun n hn => (h n hn).plain

omit hg in
theorem yields_numberedFields {e : Node} (he : e.Simple) (place : Position) (text : String) :
    (numberedFields e place text).Yields fun r => r.1.Simple := by
  unfold numberedFields
  extract_lets trailing pieces wrap
  -- every piece puts one more node around the expression
  have hwrap : ∀ (ps : List String) (n : Node), n.Simple → (ps.foldl wrap n).Simple := by
    intro ps
    induction ps with
    | nil => exact fun n hn => hn
    | cons p ps ih => exact fun n hn => ih _ (simple_mk rfl (by simpa using hn.plain))
  split
  · exact yields_throw _
  · exact .pure (hwrap pieces e he)

theorem yields_selection {e : Node} (he : e.Simple) : (selection g e).Yields Simple := by
  unfold selection
  refine .after fun ts => ?_
  extract_lets rest
  have hrest : ∀ r : Node × Bool, r.1.Simple → (rest r).Yields Simple := by
    intro r hr
    have hone : AllPlain [r.1] := by simpa using hr.plain
    refine .ite (yields_expressionNode rfl hr.2) <| .after fun awaited => ?_
    refine .ite (yields_expressionNode rfl hone) <| .after fun member => .after fun ts => ?_
    extract_lets afterArguments
    have hafter : ∀ arguments, (∀ nss ∈ arguments, ∀ ns ∈ nss, AllPlain ns) →
        (afterArguments arguments).Yields Simple := by
      intro arguments harguments
      refine .after fun ts => .ite ?_ (yields_expressionNode rfl hone)
      refine .bind (yields_expressionList hg _) fun list hlist => yields_simple_node rfl ?_
      have hgenerics : AllPlain (arguments.getD []).flatten := by
        cases arguments with
        | none => exact allPlain_nil
        | some nss => exact allPlain_flatten (harguments nss rfl)
      have hreceiver : (partOf .receiver [r.1]).Plain := plain_mk rfl hone
      have hpart : (partOf .generics (arguments.getD []).flatten).Plain := plain_mk rfl hgenerics
      simp [hreceiver, hpart, hlist]
    refine .ite (.after fun _ => .bind (yields_some (yields_genericArguments hg)) hafter) ?_
    exact .of_pure (hafter none nofun)
  split
  · exact .after fun place => .after fun _ => .bind (yields_numberedFields he _ _) fun r hr =>
      .of_pure (hrest (r.1, !r.2) hr)
  · exact .of_pure (hrest (e, false) he)

theorem yields_postfixWithin (fuel : Nat) {e : Node} (he : e.Simple) :
    (postfixWithin g fuel e).Yields Simple := by
  induction fuel generalizing e with
  | zero => exact .pure he
  | succ fuel ih =>
    have hone : AllPlain [e] := by simpa using he.plain
    refine .after fun ts => .ite ?call <| .ite ?dot <| .ite ?index <| .ite ?question (.pure he)
    case call =>
      refine .bind (yields_expressionList hg _) fun list hlist => ?_
      have hcallee : (Node.mk (.part .callee) e.span [e]).Plain := plain_mk rfl hone
      have hparts : AllPlain [.mk (.part .callee) e.span [e], list] := by simp [hcallee, hlist]
      have hdescribes : (Label.call e.pathExpression?).describes
          [.mk (.part .callee) e.span [e], list] = true := decide_eq_true rfl
      exact .bind (yields_node fun _ => ⟨plain_mk_of_describes rfl hparts hdescribes, hparts⟩)
        fun _ h => ih h
    case dot => exact .after fun _ => .bind (yields_selection hg he) fun _ h => ih h
    case index =>
      refine .bind (yields_group (hg.expression true)) fun index hindex => ?_
      exact .bind (yields_expressionNode rfl (by simp [he.plain, hindex.plain])) fun _ h => ih h
    case question => exact .after fun _ => .bind (yields_expressionNode rfl hone) fun _ h => ih h

theorem yields_afterAtom {e : Node} (he : e.Simple) : (afterAtom g e).Yields Simple :=
  .after fun _ => yields_postfixWithin hg _ he

/-! ### Atoms -/

theorem yields_structField : (pathAtom.structField g).Yields AllPlain := by
  refine .bind (yields_outerAttributes hg) fun attributes ha => .after fun n => .after fun ts => ?_
  refine .ite (.after fun _ => .bind (hg.expression true) fun e he => ?_) (.pure ha)
  exact .pure (by simp [ha, he.plain])

theorem yields_structFields (fuel : Nat) : (pathAtom.structFields g fuel).Yields AllPlain := by
  induction fuel with
  | zero => exact .pure allPlain_nil
  | succ fuel ih =>
    refine .after fun ts => .ite (.pure allPlain_nil) <| .after fun ts => .ite ?_ ?_
    · exact .after fun _ => .after fun ts => .ite (.pure allPlain_nil)
        (yields_single (hg.expression true))
    · refine .bind (yields_structField hg) fun field hfield => .after fun ts => .ite (.pure hfield) ?_
      exact .after fun _ => .bind ih fun rest hrest => .pure (allPlain_append.2 ⟨hfield, hrest⟩)

theorem yields_pathAtom (allowStruct : Bool) : (pathAtom g allowStruct).Yields Simple := by
  refine .after fun start => ?_
  refine .bind ((yields_typedPath_isProper true).and (yields_typedPath hg true)) fun r hr => ?_
  refine .after fun ts => .ite ?call <| .ite ?struct (yields_pathNode hr.1 hr.2)
  case call =>
    exact .bind (yields_macroRest _ _) fun call h => yields_expressionNode rfl (by simpa using h)
  case struct =>
    refine .bind (yields_group (.after fun ts => yields_structFields hg _)) fun fields hfields => ?_
    exact yields_expressionNode rfl (allPlain_append.2 ⟨hr.2, hfields⟩)

omit hg in
/-- The elements that a comma list puts after the first one. -/
theorem allPlain_of_forall_simple {e : Node} {es : List Node} (he : e.Simple)
    (hes : ∀ n ∈ es, n.Simple) : AllPlain (e :: es) :=
  allPlain_cons.2 ⟨he.plain, fun n hn => (hes n hn).plain⟩

theorem yields_parenthesizedAtom : (parenthesizedAtom g).Yields Simple := by
  refine .after fun start => ?_
  refine .bind (P := fun r => AllPlain r.1) (yields_group ?_) fun r hr =>
    yields_expressionNode (by cases r.2 <;> rfl) hr
  refine .after fun ts => .ite (.pure allPlain_nil) <| .bind (hg.expression true) fun e he => ?_
  refine .after fun ts => .ite (.pure (by simpa using he.plain)) <| .after fun _ => ?_
  exact .bind (yields_commaList (hg.expression true)) fun es hes =>
    .pure (allPlain_of_forall_simple he hes)

theorem yields_arrayAtom : (arrayAtom g).Yields Simple := by
  refine .after fun start => ?_
  refine .bind (P := fun r => AllPlain r.1) (yields_group ?_) fun r hr =>
    yields_expressionNode (by cases r.2 <;> rfl) hr
  refine .after fun ts => .ite (.pure allPlain_nil) <| .bind (hg.expression true) fun e he => ?_
  refine .after fun ts => .ite (.pure (by simpa using he.plain)) <| .ite ?_ <| .ite ?_ ?_
  · exact .after fun _ => .bind (yields_commaList (hg.expression true)) fun es hes =>
      .pure (allPlain_of_forall_simple he hes)
  · exact .after fun _ => .bind (hg.expression true) fun n hn =>
      .pure (by simp [he.plain, hn.plain])
  · exact yields_expected _

/-! ### Closures -/

omit hg in
theorem allPlain_partsOfParameter {p : Node} (hp : p.Simple) : AllPlain (partsOfParameter p) := by
  have hchildren : AllPlain p.children := hp.2
  unfold partsOfParameter
  split
  · rename_i constant _ hone
    rw [hone, allPlain_cons] at hchildren
    have hconstant : constant.Plain := hchildren.1
    split
    · -- the constant keeps its block and loses the attributes before it
      rename_i hform
      obtain ⟨l, s, cs⟩ := constant
      have hl : l = .part (.expression .constBlock) := expression?_eq_some.1 (beq_iff_eq.1 hform)
      have hcs : AllPlain cs := hconstant.allPlain_children (hl ▸ rfl)
      have hlast : AllPlain cs.getLast?.toList :=
        allPlain_toList fun n hn => hcs n (List.mem_of_getLast? hn)
      exact allPlain_cons.2 ⟨plain_mk (hl ▸ rfl) hlast, allPlain_nil⟩
    · simpa using hconstant
  · exact hchildren

omit hg in
/-- Only the parts of a literal are not kept as they are. -/
theorem plain_withPartsOfParameter {p : Node} (s : Span) {attributes : List Node}
    (ha : AllPlain attributes) (hp : p.Simple) :
    (mk p.label s (attributes ++ partsOfParameter p)).Plain := by
  have hparts : AllPlain (attributes ++ partsOfParameter p) :=
    allPlain_append.2 ⟨ha, allPlain_partsOfParameter hp⟩
  by_cases hliteral : p.pattern? = some .literal
  · have hl : p.label = .part (.pattern .literal) := by
      unfold pattern? at hliteral
      split at hliteral
      · rename_i hlabel
        cases hliteral
        exact hlabel
      · cases hliteral
    rw [hl]
    exact plain_mk rfl hparts
  · have hsame : partsOfParameter p = p.children := by
      unfold partsOfParameter
      split
      · rename_i hform _
        exact absurd hform hliteral
      · rfl
    rw [hsame]
    exact (hp.append s ha).plain

theorem yields_closureParameter : (closureParameter g).Yields Node.Plain := by
  refine .after fun start => .bind (yields_outerAttributes hg) fun attributes ha => ?_
  refine .bind hg.pattern fun inner hinner => .after fun typed => .ite ?_ (.ite ?_ ?_)
  · refine .bind (hg.type true) fun type htype => ?_
    exact (yields_patternNode (by simp [ha, hinner.plain, htype])).mono fun _ h => h.plain
  · exact .pure hinner.plain
  · exact .pure (plain_withPartsOfParameter _ ha hinner)

theorem yields_closure (allowStruct : Bool) : (closure g allowStruct).Yields Simple := by
  refine .after fun start => .bind (yields_binder? hg) fun binder hbinder => ?_
  refine .after fun _ => .after fun _ => .after fun _ => .after fun _ => .after fun _ => ?_
  refine .bind (yields_listTo (yields_closureParameter hg) _ _) fun parameters hparameters => ?_
  have hnode : ∀ (result : List Node) (body : Node), AllPlain result → body.Simple →
      (node start (.closure parameters.length)
        (binder.getD [] ++ parameters ++ result ++ [partOf .value [body]])).Yields Simple := by
    intro result body hresult hbody
    have hvalue : (partOf .value [body]).Plain := plain_mk rfl (by simpa using hbody.plain)
    have hparts : AllPlain parameters := hparameters
    exact yields_simple_node rfl (by simp [allPlain_getD hbinder, hparts, hresult, hvalue])
  refine .after fun _ => .after fun ts => .ite ?_ ?_
  · refine .bind (yields_resultType hg true) fun result hresult => .after fun place => ?_
    refine .bind (yields_block hg) fun inner hinner => ?_
    exact .bind (yields_expressionNode rfl (by simpa using hinner)) fun body hbody =>
      .of_pure (hnode result body hresult hbody)
  · exact .bind (hg.expression allowStruct) fun body hbody =>
      .of_pure (hnode [] body allPlain_nil hbody)

/-! ### Conditions, loops and jumps -/

theorem yields_letCondition (allowStruct : Bool) : (letCondition g allowStruct).Yields Simple := by
  refine .after fun start => .after fun _ => .bind (yields_alternatives hg) fun binding hbinding => ?_
  refine .after fun _ => .bind (hg.operand allowStruct) fun left hleft => ?_
  exact .bind (hg.operators left _ _ hleft) fun value hvalue =>
    yields_expressionNode rfl (by simp [hbinding.plain, hvalue.plain])

theorem yields_conditional : (Production.conditional g).Yields Simple := by
  refine .after fun start => .after fun _ => .bind (hg.expression false) fun condition hcondition => ?_
  refine .bind (yields_block hg) fun branch hbranch => .after fun otherwise => .ite ?_ ?_
  · have hnode : ∀ other : Node, other.Simple →
        (expressionNode start .conditional [condition, branch, other]).Yields Simple := by
      intro other hother
      exact yields_expressionNode rfl (by simp [hcondition.plain, hbranch, hother.plain])
    refine .after fun place => .after fun ts => .ite (.bind hg.conditional hnode) (.ite ?_ ?_)
    · exact .bind (yields_block hg) fun inner hinner =>
        .bind (yields_expressionNode rfl (by simpa using hinner)) hnode
    · exact .bind (yields_expected _) hnode
  · exact yields_expressionNode rfl (by simp [hcondition.plain, hbranch])

theorem yields_whileLoop (start : Position) : (whileLoop g start).Yields Simple :=
  .after fun _ => .bind (hg.expression false) fun _ hcondition =>
    .bind (yields_attributedBlock hg) fun _ hr =>
      yields_expressionNode rfl (by simp [hcondition.plain, hr.1, hr.2])

theorem yields_forLoop (start : Position) : (forLoop g start).Yields Simple := by
  refine .after fun _ => .bind (yields_alternatives hg) fun binding hbinding => .after fun _ => ?_
  refine .bind (hg.expression false) fun source hsource => ?_
  exact .bind (yields_attributedBlock hg) fun r hr =>
    yields_expressionNode rfl (by simp [hbinding.plain, hsource.plain, hr.1, hr.2])

theorem yields_endlessLoop (start : Position) : (endlessLoop g start).Yields Simple :=
  .after fun _ => .bind (yields_attributedBlock hg) fun _ hr =>
    yields_expressionNode rfl (by simpa using hr)

theorem yields_labeled : (labeled g).Yields Simple := by
  refine .after fun start => .after fun _ => .after fun _ => .after fun ts => ?_
  refine .ite (yields_whileLoop hg start) <| .ite (yields_forLoop hg start) ?_
  refine .ite (yields_endlessLoop hg start) <| .ite (yields_blockExpression hg start) ?_
  exact yields_expected _

theorem yields_arm : (arm g).Yields Node.Plain := by
  unfold arm
  refine .after fun start => .bind (yields_outerAttributes hg) fun attributes ha => ?_
  refine .bind (yields_alternatives hg) fun binding hbinding => .after fun guarded => ?_
  extract_lets afterGuard
  have hafter : ∀ guard, AllPlain guard → (afterGuard guard).Yields Node.Plain := by
    intro guard hguard
    refine .after fun _ => .bind hg.statementExpression fun body hbody => .after fun ts => ?_
    have hnode : (node start (.part .arm) (attributes ++ binding :: guard ++ [body])).Yields
        Node.Plain :=
      yields_plain_node rfl (by simp [ha, hbinding.plain, hguard, hbody.plain])
    exact .ite (.after fun _ => hnode) (.after fun _ => hnode)
  refine .ite (.bind (hg.expression true) fun e he => .of_pure (hafter [e] ?_)) ?_
  · simpa using he.plain
  · exact .of_pure (hafter [] allPlain_nil)

theorem yields_matching : (matching g).Yields Simple := by
  have hinside : (do return (← innerAttributes g, ← repeatToEnd (arm g)) : Parser _).Yields
      fun r => AllPlain r.1 ∧ AllPlain r.2 :=
    .bind (yields_innerAttributes hg) fun _ ha =>
      .bind (yields_repeatToEnd (yields_arm hg)) fun _ harms => .pure ⟨ha, harms⟩
  refine .after fun start => .after fun _ => .bind (hg.expression false) fun subject hsubject => ?_
  exact .bind (yields_group hinside) fun r hr =>
    yields_expressionNode rfl (by simp [hsubject.plain, hr.1, hr.2])

theorem yields_breakOut (allowStruct : Bool) : (breakOut g allowStruct).Yields Simple := by
  unfold breakOut
  refine .after fun start => .after fun _ => .after fun ts => ?_
  extract_lets rest
  have hrest : (rest ()).Yields Simple := by
    refine .after fun _ => .after fun ts => .ite ?_ (yields_expressionNode rfl allPlain_nil)
    exact .bind (hg.expression true) fun e he => yields_expressionNode rfl (by simpa using he.plain)
  exact .ite (.after fun _ => .after fun _ => .after fun _ => hrest) hrest

theorem yields_withOptionalValue {form : ExpressionForm}
    (hform : (Label.part (.expression form)).isFree = true) :
    (withOptionalValue g form).Yields Simple := by
  refine .after fun start => .after fun _ => .after fun ts => .ite ?_ ?_
  · exact .bind (hg.expression true) fun e he =>
      yields_expressionNode hform (by simpa using he.plain)
  · exact yields_expressionNode hform allPlain_nil

theorem yields_keywordBlock {form : ExpressionForm}
    (hform : (Label.part (.expression form)).isFree = true) (attributed : Bool) :
    (keywordBlock g form attributed).Yields Simple := by
  unfold keywordBlock
  refine .after fun start => .after fun _ => ?_
  extract_lets rest
  have hrest : ∀ moved, (rest moved).Yields Simple := by
    refine fun moved => .ite (.bind (yields_attributedBlock hg) fun r hr => ?_) ?_
    · exact yields_expressionNode hform (by simpa using hr)
    · exact .bind (yields_block hg) fun inner h => yields_expressionNode hform (by simpa using h)
  exact .ite (.after fun moved => hrest moved) (.of_pure (hrest false))

/-! ### Operands and statements -/

theorem yields_atom (allowStruct : Bool) : (atom g allowStruct).Yields Simple := by
  refine .after fun start => .after fun ts => .ite yields_literal ?_
  refine .ite (yields_keywordBlock hg rfl _) <| .ite (yields_keywordBlock hg rfl _) ?_
  refine .ite (yields_closure hg allowStruct) ?_
  refine .ite (.after fun _ => yields_expressionNode rfl allPlain_nil) ?_
  refine .ite (yields_pathAtom hg allowStruct) <| .ite (yields_parenthesizedAtom hg) ?_
  refine .ite (yields_breakOut hg allowStruct) ?_
  refine .ite (.after fun _ => .after fun _ => yields_expressionNode rfl allPlain_nil) ?_
  refine .ite (yields_withOptionalValue hg rfl) ?_
  refine .ite (.after fun _ => .after fun _ => yields_expressionNode rfl allPlain_nil) ?_
  refine .ite (yields_arrayAtom hg) <| .ite (yields_letCondition hg allowStruct) ?_
  refine .ite hg.conditional <| .ite (yields_whileLoop hg start) ?_
  refine .ite (yields_forLoop hg start) <| .ite (yields_endlessLoop hg start) ?_
  refine .ite (yields_matching hg) <| .ite (yields_withOptionalValue hg rfl) ?_
  refine .ite (yields_keywordBlock hg rfl _) <| .ite (yields_keywordBlock hg rfl _) ?_
  refine .ite (yields_blockExpression hg start) <| .ite ?range <| .ite ?inferred ?_
  case range => exact .bind (yields_rangeEnd hg allowStruct) fun upper h => yields_expressionNode rfl h
  case inferred => exact .after fun _ => yields_expressionNode rfl allPlain_nil
  exact .ite (yields_labeled hg) (yields_expected _)

theorem yields_reference (start : Position) {attributes : List Node} (ha : AllPlain attributes)
    (allowStruct : Bool) : (reference g start attributes allowStruct).Yields Simple := by
  unfold reference
  refine .after fun _ => .after fun ts => ?_
  extract_lets raw afterWords afterRaw
  have hwords : (afterWords ()).Yields Simple :=
    .bind (hg.operand allowStruct) fun inner h =>
      yields_expressionNode (by cases raw <;> rfl) (by simp [ha, h.plain])
  have hafter : (afterRaw ()).Yields Simple :=
    .after fun mutable => .ite (.after fun _ => hwords) hwords
  exact .ite (.after fun _ => hafter) hafter

omit hg in
theorem simple_withAttributes (start : Position) {attributes : List Node} {e : Node}
    (ha : AllPlain attributes) (he : e.Simple) : (withAttributes start attributes e).Simple := by
  unfold withAttributes
  split
  · exact he
  · split
    · exact he.append _ allPlain_nil
    · exact he.append _ ha

omit hg in
theorem simple_withEarlierAttributes (start : Position) {attributes : List Node} {e : Node}
    (ha : AllPlain attributes) (he : e.Simple) :
    (withEarlierAttributes start attributes e).Simple := by
  unfold withEarlierAttributes
  split
  · exact he
  · exact simple_withAttributes start ha he

theorem yields_operand (allowStruct : Bool) : (Production.operand g allowStruct).Yields Simple := by
  refine .after fun start => .bind (yields_outerAttributes hg) fun attributes ha => ?_
  refine .after fun ts => .ite (yields_reference hg start ha allowStruct) <| .ite ?_ ?_
  · exact .after fun _ => .bind (hg.operand allowStruct) fun inner h =>
      yields_expressionNode rfl (by simp [ha, h.plain])
  · refine .after fun place => .bind (yields_atom hg allowStruct) fun head hhead => ?_
    refine .bind (yields_afterAtom hg hhead) fun e he => ?_
    have hresult := simple_withAttributes start ha he
    exact .ite (.after fun _ => .pure hresult) (.pure hresult)

theorem yields_blockLike? : (blockLike? g).Yields fun e? => ∀ e ∈ e?, e.Simple := by
  refine .after fun start => .after fun ts => .ite (yields_some hg.conditional) ?_
  refine .ite (yields_some (yields_whileLoop hg start)) <| .ite (yields_some (yields_forLoop hg start)) ?_
  refine .ite (yields_some (yields_endlessLoop hg start)) <| .ite (yields_some (yields_matching hg)) ?_
  refine .ite (yields_some (yields_keywordBlock hg rfl _)) <| .ite (yields_some (yields_keywordBlock hg rfl _)) ?_
  refine .ite (yields_some (yields_keywordBlock hg rfl _)) ?_
  refine .ite (yields_some (yields_blockExpression hg start)) ?_
  exact .ite (yields_some (yields_labeled hg)) (.pure nofun)

theorem yields_statementExpression : (Production.statementExpression g).Yields Simple := by
  refine .after fun start => .bind (yields_outerAttributes hg) fun attributes ha => ?_
  refine .bind (yields_blockLike? hg) fun e? he => ?_
  cases e? with
  | none =>
    exact .bind (hg.operand true) fun e he =>
      hg.operators _ _ _ (simple_withEarlierAttributes start ha he)
  | some e =>
    have hsimple : e.Simple := he e rfl
    refine .after fun ts => .ite ?_ (.pure (simple_withEarlierAttributes start ha hsimple))
    exact .bind (yields_afterAtom hg hsimple) fun e' he' =>
      hg.operators _ _ _ (simple_withEarlierAttributes start ha he')

end Production

end SourceLint.Syntax
