import SourceLint.Proofs.Syntax.Yields
import SourceLint.Syntax.Grammar.Type

/-!
# The shape of attributes, paths and types

Every production keeps the nodes that it reads at places where they may stand, if the nonterminals that
it is given do.  Of attributes, of the arguments of paths, of types and of bounds all nodes are plain.

* **`Grammar.Sound`** — what the nonterminals yield has the shape of its place.
* **`yields_outerAttributes`**, **`yields_typedPath`**, **`yields_parameters`**, **`yields_conditions`**,
  **`yields_bound`**, **`yields_type`** — what the productions yield that others are made of.
-/

namespace SourceLint.Syntax

open Syntax.Parser

/-- What the nonterminals yield has the shape of its place.  Fields and imports have no use for it: of
those that are read through the record no nodes are kept. -/
structure Grammar.Sound (g : Grammar) : Prop where
  expression : ∀ allowStruct, (g.expression allowStruct).Yields Node.Simple
  operand : ∀ allowStruct, (g.operand allowStruct).Yields Node.Simple
  operators : ∀ left allowStruct level, left.Simple →
    (g.operators left allowStruct level).Yields Node.Simple
  statementExpression : g.statementExpression.Yields Node.Simple
  conditional : g.conditional.Yields Node.Simple
  type : ∀ allowPlus, (g.type allowPlus).Yields Node.Plain
  bound : g.bound.Yields AllPlain
  pattern : g.pattern.Yields Node.Simple
  statements : g.statements.Yields AllPlain
  item : g.item.Yields Node.Plain

namespace Production

variable {g : Grammar}

/-! ### Blocks, macro calls and literals -/

theorem yields_macroRest (start : Position) (path : Path) :
    (macroRest start path).Yields Node.Plain :=
  .after fun _ => .after fun _ => yields_plain_node rfl allPlain_nil

theorem yields_literal : literal.Yields Node.Simple := by
  dsimp only [literal]
  refine .after fun start => .after fun ts => .ite (.after fun _ => ?_) ?_
  all_goals exact .after fun _ => yields_expressionNode rfl allPlain_nil

theorem allPlain_boundNodes {found : List (BoundForm × List Node)}
    (h : ∀ b ∈ found, AllPlain b.2) : AllPlain (found.map (·.2)).flatten :=
  allPlain_flatten (List.forall_mem_map.2 h)

variable (hg : g.Sound)

include hg

theorem yields_block : (block g).Yields Node.Plain :=
  .after fun _ => .bind (yields_group hg.statements) fun _ h => yields_plain_node rfl h

/-! ### Attributes -/

theorem yields_attributeValue : (attributeValue g).Yields Node.Plain := by
  refine .after fun ts => .ite ?_ (.ite (yields_fail _) ?_)
  · exact yields_literal.mono fun _ h => h.1
  · exact (hg.expression true).mono fun _ h => h.1

theorem yields_attributeContent : (attributeContent g).Yields fun r => AllPlain r.2 := by
  unfold attributeContent
  refine .after fun ts => ?_
  extract_lets rest
  have hrest : ∀ path, (rest path).Yields fun r => AllPlain r.2 := by
    refine fun path => .after fun ts => ?_
    split
    · exact .after fun _ => .pure allPlain_nil
    · refine .ite (.after fun _ => ?_) (.pure allPlain_nil)
      exact .bind (yields_attributeValue hg) fun n hn => .pure (by simpa using hn)
  exact .ite (.after fun _ => .after fun p => hrest p) (.after fun p => hrest p)

theorem yields_attributeRest (start : Position) : (attributeRest g start).Yields Node.Plain :=
  .bind (yields_group (yields_attributeContent hg)) fun _ h => yields_plain_node rfl h

theorem yields_outerAttributes : (outerAttributes g).Yields AllPlain :=
  yields_repeatWhile (.after fun _ => .after fun _ => yields_attributeRest hg _) _

theorem yields_innerAttributes : (innerAttributes g).Yields AllPlain :=
  yields_repeatWhile
    (.after fun _ => .after fun _ => .after fun _ => yields_attributeRest hg _) _

theorem yields_attributedBlock :
    (attributedBlock g).Yields fun r => AllPlain r.1 ∧ r.2.Plain := by
  have hinside : (do return (← innerAttributes g, ← g.statements) : Parser _).Yields
      fun r => AllPlain r.1 ∧ AllPlain r.2 :=
    .bind (yields_innerAttributes hg) fun _ ha => .bind hg.statements fun _ hs => .pure ⟨ha, hs⟩
  refine .after fun start => .bind (yields_group hinside) fun r hr => ?_
  exact .bind (yields_plain_node rfl hr.2) fun body hbody => .pure ⟨hr.1, hbody⟩

theorem yields_blockExpression (start : Position) :
    (blockExpression g start).Yields Node.Simple :=
  .bind (yields_attributedBlock hg) fun r hr =>
    yields_expressionNode rfl (by simpa using hr)

/-! ### Paths -/

theorem yields_constArgument : (constArgument g).Yields Node.Plain := by
  refine .after fun start => .after fun ts => .ite ?_ (.ite ?_ (.ite ?_ (yields_expected _)))
  · exact yields_literal.mono fun _ h => h.1
  · exact .after fun n => (yields_pathNode rfl allPlain_nil).mono fun _ h => h.1
  · exact (yields_blockExpression hg start).mono fun _ h => h.1

theorem yields_genericArgument : (genericArgument g).Yields AllPlain := by
  have hvalue : ∀ type : Node, type.Plain →
      (do return [type, ← constArgument g] : Parser _).Yields AllPlain := by
    intro type htype
    exact .bind (yields_constArgument hg) fun n hn => .pure (by simp [htype, hn])
  dsimp only [genericArgument]
  refine .after fun ts => .ite (.after fun _ => .pure allPlain_nil) (.ite ?_ ?_)
  · exact .bind (yields_constArgument hg) fun n hn => .pure (by simpa using hn)
  · refine .bind (hg.type true) fun type htype => .ite ?_ (.pure (by simpa using htype))
    refine .after fun assigned => .ite (.after fun ts => .ite (hvalue type htype) ?_) ?_
    · exact .bind (hg.type true) fun n hn => .pure (by simp [htype, hn])
    · refine .after fun bounded => .ite ?_ (.pure (by simpa using htype))
      refine .bind (yields_listOf hg.bound _ _) fun bounds hbounds => .pure ?_
      exact allPlain_cons.2 ⟨htype, allPlain_flatten hbounds⟩

theorem yields_genericArguments : (genericArguments g).Yields fun nss => ∀ ns ∈ nss, AllPlain ns :=
  .after fun _ => .bind (yields_listTo (yields_genericArgument hg) _ _) fun _ h =>
    .after fun _ => .pure h

theorem yields_resultType (allowPlus : Bool) : (resultType g allowPlus).Yields AllPlain :=
  .after fun _ => .ite (.bind (hg.type allowPlus) fun n hn => .pure (by simpa using hn))
    (.pure allPlain_nil)

theorem yields_functionArguments : (functionArguments g).Yields AllPlain := by
  refine .bind (yields_group (yields_commaList (hg.type true))) fun inputs hinputs => ?_
  exact .bind (yields_resultType hg false) fun result hresult =>
    .pure (allPlain_append.2 ⟨hinputs, hresult⟩)

theorem yields_pathSegment (inExpression : Bool) :
    (pathSegment g inExpression).Yields fun r => AllPlain r.2 := by
  dsimp only [pathSegment]
  refine .after fun ts => .ite (.after fun _ => .pure allPlain_nil) ?_
  refine .ite (.after fun n => .after fun ts => .ite ?_ ?_) (.after fun n => .after fun ts => .ite ?_ ?_)
  all_goals first
    | exact .pure allPlain_nil
    | exact .after fun _ => .bind (yields_genericArguments hg) fun _ h => .pure (allPlain_flatten h)

theorem yields_pathSegments (inExpression : Bool) (more : List TokenTree → Bool) (fuel : Nat) :
    (pathSegments g inExpression more fuel).Yields fun r => AllPlain r.2 := by
  induction fuel with
  | zero => exact .pure allPlain_nil
  | succ fuel ih =>
    refine .bind (yields_pathSegment hg inExpression) fun r hr => .after fun ts => .ite ?_ (.pure hr)
    exact .after fun _ => .bind ih fun rest hrest => .pure (allPlain_append.2 ⟨hr, hrest⟩)

theorem yields_path (inExpression : Bool) : (path g inExpression).Yields fun r => AllPlain r.2 :=
  .after fun _ => .after fun _ => .bind (yields_pathSegments hg _ _ _) fun _ h => .pure h

theorem yields_typedPath (inExpression : Bool) :
    (typedPath g inExpression).Yields fun r => AllPlain r.2 := by
  unfold typedPath
  refine .after fun angled => .ite ?_ (.bind (yields_path hg inExpression) fun r hr => .pure hr)
  refine .bind (hg.type true) fun type htype => ?_
  extract_lets rest
  have hrest : ∀ viaTrait : Option (Path × List Node), (∀ r ∈ viaTrait, AllPlain r.2) →
      (rest viaTrait).Yields fun r => AllPlain r.2 := by
    intro viaTrait hvia
    refine .after fun _ => .after fun _ => .after fun ts => ?_
    refine .bind (yields_pathSegments hg _ _ _) fun r hr => ?_
    cases viaTrait with
    | none => exact .pure (allPlain_cons.2 ⟨htype, hr⟩)
    | some via => exact .pure (by simpa [htype, hr] using hvia via rfl)
  refine .after fun _ => .ite ?_ ?_
  · exact .bind (yields_some (yields_path hg false)) hrest
  · exact .of_pure (hrest none nofun)

omit hg in
/-- A list of names has at least one. -/
theorem yields_pathSegments_ne_nil (inExpression : Bool) (more : List TokenTree → Bool) (fuel : Nat) :
    (pathSegments g inExpression more (fuel + 1)).Yields fun r => r.1 ≠ [] :=
  .after fun _ => .after fun _ => .ite (.after fun _ => .after fun _ => .pure (List.cons_ne_nil _ _))
    (.pure (List.cons_ne_nil _ _))

omit hg in
theorem yields_path_ne_nil (inExpression : Bool) :
    (path g inExpression).Yields fun r => r.1.segments ≠ [] :=
  .after fun _ => .after fun _ => .bind (yields_pathSegments_ne_nil _ _ _) fun _ h => .pure h

omit hg in
/-- Behind a type stands a double colon or a trait and another name. -/
theorem yields_typedPath_isProper (inExpression : Bool) :
    (typedPath g inExpression).Yields fun r => r.1.isProper = true := by
  unfold typedPath
  refine .after fun angled => .ite (.after fun type => ?_) (.after fun r => .pure rfl)
  extract_lets rest
  have hrest : ∀ viaTrait : Option (Path × List Node), (∀ r ∈ viaTrait, r.1.segments ≠ []) →
      (rest viaTrait).Yields fun r => r.1.isProper = true := by
    intro viaTrait hvia
    refine .after fun _ => .after fun _ => .after fun ts => ?_
    refine .bind (yields_pathSegments_ne_nil _ _ _) fun r hr => ?_
    cases viaTrait with
    | none => exact .pure rfl
    | some via =>
      have hlength : 2 ≤ (via.1.segments ++ r.1).length := by
        have htrait := List.length_pos_iff.2 (hvia via rfl)
        have hbehind := List.length_pos_iff.2 hr
        rw [List.length_append]
        omega
      refine .pure ?_
      rw [TypedPath.isProper, decide_eq_true hlength, Bool.or_true]
  refine .after fun _ => .ite ?_ ?_
  · exact .bind (yields_some (yields_path_ne_nil false)) hrest
  · exact .of_pure (hrest none nofun)

theorem yields_functionPath (p : Path) {nodes : List Node} (hnodes : AllPlain nodes) :
    (functionPath g p nodes).Yields fun r => AllPlain r.2 := by
  dsimp only [functionPath]
  refine .after fun ts => .ite (.after fun _ => ?_) (.pure hnodes)
  exact .bind (yields_functionArguments hg) fun arguments h =>
    .pure (allPlain_append.2 ⟨hnodes, h⟩)

/-! ### Parameters and conditions -/

theorem yields_typeParameter : (typeParameter g).Yields AllPlain := by
  unfold typeParameter
  refine .after fun n => ?_
  extract_lets stop afterBounds
  have hafter : ∀ bounds, (∀ ns ∈ bounds, AllPlain ns) → (afterBounds bounds).Yields AllPlain := by
    intro bounds hbounds
    have hflat : AllPlain bounds.flatten := allPlain_flatten hbounds
    refine .after fun assigned => .ite (.bind (hg.type true) fun n hn => ?_) ?_
    · exact .of_pure (.pure (by simp [hflat, hn]))
    · exact .of_pure (.pure (by simpa using hflat))
  refine .after fun bounded => .ite (.bind (yields_listOf hg.bound _ _) hafter) ?_
  exact .of_pure (hafter [] fun _ h => absurd h List.not_mem_nil)

theorem yields_constParameter : (constParameter g).Yields AllPlain := by
  refine .after fun _ => .after fun n => .after fun _ => .bind (hg.type true) fun type htype => ?_
  refine .after fun assigned => .ite (.bind (yields_constArgument hg) fun n hn => ?_) ?_
  · exact .of_pure (.pure (by simp [htype, hn]))
  · exact .of_pure (.pure (by simpa using htype))

theorem yields_parameter (wild : Bool) : (parameter g wild).Yields AllPlain := by
  refine .bind (yields_outerAttributes hg) fun attributes ha => .after fun ts => ?_
  refine .ite (.after fun _ => .pure ha) (.ite ?_ (.ite ?_ (.ite (.after fun _ => .pure ha) ?_)))
  · exact .bind (yields_typeParameter hg) fun ns hns => .pure (allPlain_append.2 ⟨ha, hns⟩)
  · exact .bind (yields_constParameter hg) fun ns hns => .pure (allPlain_append.2 ⟨ha, hns⟩)
  · exact .ite (yields_expected _) (yields_expected _)

theorem yields_parameters : (parameters g).Yields AllPlain := by
  refine .after fun angled => .ite ?_ (.pure allPlain_nil)
  refine .bind (yields_listTo (yields_parameter hg true) _ _) fun found h => ?_
  exact .after fun _ => .pure (allPlain_flatten h)

theorem yields_binder? : (binder? g).Yields fun ns? => ∀ ns ∈ ns?, AllPlain ns := by
  refine .after fun present => .ite ?_ (.pure nofun)
  refine .after fun _ => .bind (yields_listTo (yields_parameter hg false) _ _) fun found h => ?_
  refine .after fun _ => .pure fun ns hns => ?_
  cases hns
  exact allPlain_flatten h

theorem yields_condition : (condition g).Yields AllPlain := by
  refine .after fun ts => .ite ?_ (.bind (yields_binder? hg) fun binder hbinder => ?_)
  · exact .after fun _ => .after fun _ => .after fun _ => .pure allPlain_nil
  · refine .bind (hg.type true) fun type htype => .after fun _ => ?_
    refine .bind (yields_listOf hg.bound _ _) fun bounds hbounds => .pure ?_
    simp [allPlain_getD hbinder, htype, allPlain_flatten hbounds]

theorem yields_conditions : (conditions g).Yields AllPlain := by
  have hfound : (do return (← listOf endsCondition "," (condition g)).flatten : Parser _).Yields
      AllPlain :=
    .bind (yields_listOf (yields_condition hg) _ _) fun found h => .pure (allPlain_flatten h)
  refine .after fun present => .ite (.after fun ts => ?_) (.pure allPlain_nil)
  exact .ite (.after fun _ => hfound) hfound

/-! ### Bounds -/

theorem yields_traitBound (allowConst : Bool) :
    (traitBound g allowConst).Yields fun ns? => ∀ ns ∈ ns?, AllPlain ns := by
  unfold traitBound
  refine .bind (yields_binder? hg) fun before hbefore => .after fun start => .after fun ts => ?_
  extract_lets isConst rest
  have hrest : (rest ()).Yields fun ns? => ∀ ns ∈ ns?, AllPlain ns := by
    refine .after fun relaxedAt => .after fun relaxed => ?_
    extract_lets afterBinder
    have hafter : ∀ binder, (∀ ns ∈ binder, AllPlain ns) →
        (afterBinder binder).Yields fun ns? => ∀ ns ∈ ns?, AllPlain ns := by
      intro binder hbinder
      refine .bind (yields_path hg false) fun p hp => ?_
      refine .bind (yields_functionPath hg p.1 hp) fun q hq => ?_
      have hresult : (pure (if isConst then none else some (binder.getD [] ++ q.2)) :
          Parser (Option (List Node))).Yields fun ns? => ∀ ns ∈ ns?, AllPlain ns := by
        refine .pure fun ns hns => ?_
        split at hns
        · cases hns
        · cases hns
          exact allPlain_append.2 ⟨allPlain_getD hbinder, hq⟩
      exact .ite (.after fun _ => hresult) hresult
    exact .ite (.bind (yields_binder? hg) hafter) (.of_pure (hafter before hbefore))
  refine .ite (.after fun _ => .ite (.after fun _ => hrest) hrest) ?_
  exact .ite (.after fun _ => .ite (.after fun _ => hrest) hrest) hrest

theorem yields_parenthesizedBound (allowConst : Bool) :
    (parenthesizedBound g allowConst).Yields AllPlain := by
  have hinside : (do
      let nodes ← traitBound g allowConst
      return (nodes.getD [], nodes.isSome && (← get).afterBrace) : Parser _).Yields
        fun r => AllPlain r.1 :=
    .bind (yields_traitBound hg allowConst) fun nodes h => .after fun _ => .pure (allPlain_getD h)
  exact .bind (yields_group hinside) fun r hr => .after fun _ => .pure hr

theorem yields_anyBound (allowCapture allowConst : Bool) :
    (anyBound g allowCapture allowConst).Yields fun r => AllPlain r.2 := by
  refine .after fun start => .after fun ts => .ite (.after fun _ => .pure allPlain_nil) ?_
  refine .ite (.after fun _ => .ite (.pure allPlain_nil) (yields_throw _)) (.ite ?_ ?_)
  · exact .bind (yields_parenthesizedBound hg allowConst) fun ns hns => .pure hns
  · exact .bind (yields_traitBound hg allowConst) fun ns hns => .pure (allPlain_getD hns)

theorem yields_bound : (bound g).Yields AllPlain :=
  .bind (yields_anyBound hg false true) fun _ h => .pure h

theorem yields_boundsWithin (allowPlus allowCapture allowConst : Bool) (fuel : Nat) :
    (boundsWithin g allowPlus allowCapture allowConst fuel).Yields
      fun r => ∀ b ∈ r.1, AllPlain b.2 := by
  induction fuel with
  | zero => exact .pure fun _ h => absurd h List.not_mem_nil
  | succ fuel ih =>
    refine .bind (yields_anyBound hg allowCapture allowConst) fun first hfirst => .after fun ts => ?_
    have hone : ∀ b ∈ [first], AllPlain b.2 := List.forall_mem_singleton.2 hfirst
    refine .ite (.after fun _ => .after fun ts => .ite ?_ (.pure hone)) (.pure hone)
    exact .bind ih fun r hr => .pure (List.forall_mem_cons.2 ⟨hfirst, hr⟩)

theorem yields_bounds (start : Position) (allowPlus allowCapture allowConst : Bool)
    (complaint : String) :
    (bounds g start allowPlus allowCapture allowConst complaint).Yields fun r => AllPlain r.1 := by
  refine .after fun ts => .bind (yields_boundsWithin hg _ _ _ _) fun r hr => ?_
  have hresult : AllPlain (r.1.map (·.2)).flatten := allPlain_boundNodes hr
  exact .ite (.after fun _ => .pure hresult) (.pure hresult)

/-! ### Types -/

theorem yields_bareParameter (isFirst : Bool) : (bareParameter g isFirst).Yields AllPlain := by
  unfold bareParameter
  refine .after fun ts => ?_
  extract_lets isMutSelf rest
  have hrest : (rest ()).Yields AllPlain := by
    refine .after fun ts => ?_
    extract_lets isSelf isNamed afterName
    have hafter : (afterName ()).Yields AllPlain := by
      refine .after fun ts => .ite (.after fun _ => .pure allPlain_nil) ?_
      refine .ite (.after fun _ => .pure allPlain_nil) (.bind (hg.type true) fun n hn => .pure ?_)
      split
      · exact allPlain_nil
      · simpa using hn
    exact .ite (.after fun _ => .after fun _ => hafter) hafter
  exact .ite (.after fun _ => hrest) hrest

theorem yields_bareParameters (isFirst : Bool) (fuel : Nat) :
    (bareParameters g isFirst fuel).Yields AllPlain := by
  induction fuel generalizing isFirst with
  | zero => exact .pure allPlain_nil
  | succ fuel ih =>
    refine .after fun ts => .ite (.pure allPlain_nil) ?_
    refine .bind (yields_outerAttributes hg) fun attributes ha => .after fun ts => ?_
    refine .ite (.after fun _ => .after fun _ => .pure ha) (.ite ?_ ?_)
    · exact .after fun _ => .after fun _ => .after fun _ => .after fun _ => .pure ha
    · refine .bind (yields_bareParameter hg isFirst) fun ns hns => .after fun ts => ?_
      have hone : AllPlain (attributes ++ ns) := allPlain_append.2 ⟨ha, hns⟩
      refine .ite (.pure hone) (.after fun _ => .bind (ih false) fun rest hrest => .pure ?_)
      exact allPlain_append.2 ⟨hone, hrest⟩

theorem yields_functionType (start : Position) {binder : List Node} (hbinder : AllPlain binder) :
    (functionType g start binder).Yields Node.Plain := by
  refine .bind (yields_binder? hg) fun inner hinner => .after fun _ => .after fun _ => .after fun _ => ?_
  refine yields_groupThen (.after fun ts => yields_bareParameters hg true _) fun nodes hnodes => ?_
  refine .bind (yields_resultType hg false) fun result hresult => yields_typeNode ?_
  simp [hbinder, allPlain_getD hinner, hnodes, hresult]

theorem yields_moreBounds : (moreBounds g).Yields AllPlain := by
  have hone : (do mark "+"; return (← anyBound g false false).2 : Parser _).Yields AllPlain :=
    .after fun _ => .bind (yields_anyBound hg false false) fun _ h => .pure h
  exact .bind (yields_repeatWhile hone _) fun more h => .pure (allPlain_flatten h)

/-- The nodes that parentheses in the place of a type hold. -/
def Parenthesized.nodes : Parenthesized → List Node
  | .unit => []
  | .lifetimeBounds type | .one type => [type]
  | .relaxedBound nodes | .many nodes => nodes

theorem yields_parenthesizedType : (parenthesizedType g).Yields fun p => AllPlain p.nodes := by
  refine .after fun ts => .ite (.pure allPlain_nil) (.ite (.after fun start => ?_) (.ite ?_ ?_))
  · refine .bind (yields_bounds hg _ _ _ _ _) fun r hr => .bind (yields_typeNode hr) fun n hn => ?_
    exact .pure (by simpa [Parenthesized.nodes] using hn)
  · exact .bind (yields_traitBound hg false) fun ns hns => .pure (allPlain_getD hns)
  · refine .bind (hg.type true) fun first hfirst => .after fun ts => .ite (.after fun _ => ?_) ?_
    · refine .bind (yields_commaList (hg.type true)) fun rest hrest => .pure ?_
      exact allPlain_cons.2 ⟨hfirst, hrest⟩
    · exact .pure (by simpa [Parenthesized.nodes] using hfirst)

theorem yields_typeInParentheses (start : Position) (allowPlus : Bool) :
    (typeInParentheses g start allowPlus).Yields Node.Plain := by
  refine yields_groupThen (yields_parenthesizedType hg) fun inside hinside => ?_
  cases inside with
  | unit => exact yields_typeNode allPlain_nil
  | lifetimeBounds type => exact yields_typeNode hinside
  | relaxedBound nodes =>
    refine .bind (yields_moreBounds hg) fun more hmore => yields_typeNode ?_
    exact allPlain_append.2 ⟨hinside, hmore⟩
  | many types => exact yields_typeNode hinside
  | one type =>
    refine .after fun ts => .ite ?_ (yields_typeNode hinside)
    refine .bind (yields_moreBounds hg) fun more hmore => yields_typeNode ?_
    exact allPlain_append.2 ⟨hinside, hmore⟩

theorem yields_typeFromPath (start : Position) (allowPlus : Bool) {binder : Option (List Node)}
    (hbinder : ∀ ns ∈ binder, AllPlain ns) :
    (typeFromPath g start allowPlus binder).Yields Node.Plain := by
  refine .bind (yields_typedPath hg false) fun r hr => .ite (yields_typeNode hr) ?_
  refine .after fun ts => .ite ?_ (.ite ?_ (yields_typeNode hr))
  · exact .bind (yields_macroRest _ _) fun call hcall => yields_typeNode (by simpa using hcall)
  · have hnode : ∀ more single, AllPlain more →
        (typeNode start (.traitObject false single) (binder.getD [] ++ r.2 ++ more)).Yields
          Node.Plain := by
      intro more single hmore
      exact yields_typeNode (by simp [allPlain_getD hbinder, hr, hmore])
    refine .ite (.after fun _ => .after fun ts => .ite (.after fun ts => ?_) ?_) ?_
    · refine .bind (yields_boundsWithin hg _ _ _ _) fun found hfound => ?_
      exact .of_pure (hnode _ _ (allPlain_boundNodes hfound))
    · exact .of_pure (hnode _ _ allPlain_nil)
    · exact .of_pure (hnode _ _ allPlain_nil)

theorem yields_typeAfterBinder (start : Position) (allowPlus : Bool) {binder : Option (List Node)}
    (hbinder : ∀ ns ∈ binder, AllPlain ns) :
    (typeAfterBinder g start allowPlus binder).Yields Node.Plain := by
  have htarget : ∀ form, (do typeNode start form [← g.type false] : Parser Node).Yields Node.Plain :=
    fun form => .bind (hg.type false) fun n hn => yields_typeNode (by simpa using hn)
  refine .after fun place => .after fun ts => ?_
  refine .ite (yields_typeInParentheses hg place allowPlus) ?_
  refine .ite (yields_functionType hg start (allPlain_getD hbinder)) ?_
  refine .ite (.after fun _ => yields_typeNode allPlain_nil) ?_
  refine .ite (yields_typeFromPath hg start allowPlus hbinder) ?_
  refine .ite ?dynamic <| .ite ?bracketed <| .ite ?pointer <| .ite ?reference <| .ite ?never <|
    .ite ?hidden <| .ite ?inferred <| .ite ?lifetimes (yields_expected _)
  case dynamic =>
    refine .after fun _ => .after fun star => .bind (yields_bounds hg _ _ _ _ _) fun r hr => ?_
    exact .ite (yields_typeNode allPlain_nil) (yields_typeNode hr)
  case bracketed =>
    refine .bind (P := fun r => AllPlain r.2) (yields_group ?_) fun r hr => yields_typeNode hr
    refine .bind (hg.type true) fun element helement => .after fun more => .ite ?_ ?_
    · exact .bind (hg.expression true) fun n hn => .pure (by simp [helement, hn.1])
    · exact .pure (by simpa using helement)
  case pointer =>
    exact .after fun _ => .after fun ts => .ite (.after fun _ => htarget _) (.after fun _ => htarget _)
  case reference => exact .after fun _ => .after fun _ => .after fun _ => htarget _
  case never => exact .after fun _ => yields_typeNode allPlain_nil
  case hidden =>
    exact .after fun _ => .bind (yields_bounds hg _ _ _ _ _) fun r hr => yields_typeNode hr
  case inferred => exact .after fun _ => yields_typeNode allPlain_nil
  case lifetimes => exact .bind (yields_bounds hg _ _ _ _ _) fun r hr => yields_typeNode hr

theorem yields_type (allowPlus : Bool) : (Production.type g allowPlus).Yields Node.Plain := by
  refine .after fun start => .bind (yields_binder? hg) fun binder hbinder => ?_
  have hrest := yields_typeAfterBinder hg start allowPlus hbinder
  exact .ite (.after fun ts => .ite hrest (.after fun _ => hrest)) hrest

end Production

end SourceLint.Syntax
