import SourceLint.Proofs.Syntax.ExpressionShape
import SourceLint.Syntax.Grammar.Statement
import SourceLint.Syntax.Program

/-!
# The shape of items, statements and whole texts

Members stand only in the bodies of their owners: an item that keeps fields or members of an
implementation keeps them in a node that no other place may have.

* **`yields_structItem`**, **`yields_unionItem`**, **`yields_implementation`** — the items with members.
* **`yields_item`**, **`yields_statements`** — items and statements.
* **`grammar_sound`** — the nonterminals at every depth of nesting keep the shapes.
* **`plain_of_parseProgram`** — the tree of a text is plain.
-/

namespace SourceLint.Syntax

open Syntax.Parser Node

namespace Production

variable {g : Grammar}

theorem yields_unstructuredItem (start : Position) : (unstructuredItem start).Yields Node.Plain :=
  yields_plain_node rfl allPlain_nil

variable (hg : g.Sound)

include hg

/-! ### Functions -/

theorem yields_receiverType (byReference : Bool) :
    (receiverType g byReference).Yields AllPlain := by
  refine .after fun ts => .ite (.after fun _ => .bind (hg.type true) fun n hn => ?_) ?_
  · exact .pure (by simpa using hn)
  · exact .pure allPlain_nil

/-- The nodes that a parameter of a function holds. -/
def FunctionParameter.nodes : FunctionParameter → List Node
  | .receiver _ nodes | .typed nodes | .variadic nodes => nodes

theorem yields_functionParameter : (functionParameter g).Yields fun p => AllPlain p.nodes := by
  refine .after fun ts => .after fun receiver? => ?_
  cases receiver? with
  | some r =>
    exact .after fun _ => .bind (yields_receiverType hg r.1) fun nodes h => .pure h
  | none =>
    refine .ite (.bind (hg.type true) fun n hn => .pure ?_) ?_
    · simpa [FunctionParameter.nodes] using hn
    · refine .bind hg.pattern fun binding hbinding => .after fun _ => .after fun variadic => ?_
      refine .ite (.pure ?_) (.bind (hg.type true) fun n hn => .pure ?_)
      · simpa [FunctionParameter.nodes] using hbinding.plain
      · simp [FunctionParameter.nodes, hbinding.plain, hn]

theorem yields_functionParameters (hasReceiver isFirst : Bool) (fuel : Nat) :
    (functionParameters g hasReceiver isFirst fuel).Yields fun l => AllPlain l.nodes := by
  induction fuel generalizing hasReceiver isFirst with
  | zero => exact .pure allPlain_nil
  | succ fuel ih =>
    unfold functionParameters
    refine .after fun ts => .ite (.pure allPlain_nil) ?_
    refine .bind (yields_outerAttributes hg) fun attributes ha => .after fun ts => .ite ?_ ?_
    · exact .after fun _ => .after fun ts => .ite (.pure ha) (.after fun _ => .pure ha)
    refine .bind (yields_functionParameter hg) fun parameter hparameter => ?_
    have hall : AllPlain (attributes ++ parameter.nodes) := allPlain_append.2 ⟨ha, hparameter⟩
    extract_lets rest
    have hrest : ∀ isReceiver, (rest (attributes ++ parameter.nodes, isReceiver)).Yields
        fun l => AllPlain l.nodes := by
      refine fun isReceiver => .after fun ts => .ite (.pure hall) (.after fun _ => ?_)
      exact .bind (ih _ _) fun l hl => .pure (allPlain_append.2 ⟨hall, hl⟩)
    cases parameter with
    | variadic nodes =>
      exact .after fun ts => .ite (.pure hall) (.after fun _ => .pure hall)
    | receiver place nodes =>
      have hlast := hrest true
      exact .ite (.after fun _ => .ite (.after fun _ => .of_pure hlast) (.of_pure hlast))
        (.ite (.after fun _ => .of_pure hlast) (.of_pure hlast))
    | typed nodes => exact .of_pure (hrest false)

theorem yields_signature (allowSafe : Bool) :
    (signature g allowSafe).Yields fun head => head.node.Plain := by
  unfold signature
  refine .after fun start => .after fun _ => .after fun _ => .after fun isUnsafe => ?_
  extract_lets inputs rest
  have hrest : ∀ isSafe, (rest isSafe).Yields fun head => head.node.Plain := by
    refine fun isSafe => .after fun _ => .after fun _ => .after fun n => ?_
    refine .bind (yields_parameters hg) fun generics hgenerics => ?_
    refine yields_groupThen (P := fun l => AllPlain l.nodes) ?_ fun inputs hinputs => ?_
    · exact .after fun ts => yields_functionParameters hg _ _ _
    · refine .bind (yields_resultType hg true) fun result hresult => ?_
      refine .bind (yields_conditions hg) fun where_ hwhere => ?_
      have hparts : AllPlain (generics ++ where_ ++ inputs.nodes ++ result) := by
        simp [hgenerics, hwhere, hinputs, hresult]
      exact .bind (yields_plain_node rfl hparts) fun head hhead => .pure hhead
  exact .ite (.after fun isSafe => hrest isSafe) (.of_pure (hrest false))

theorem yields_boundsUpTo (stop : List TokenTree → Bool) : (boundsUpTo g stop).Yields AllPlain :=
  .bind (yields_listTo hg.bound _ _) fun _ h => .pure (allPlain_flatten h)

omit hg in
theorem yields_macroItem (start : Position) {attributes : List Node} (ha : AllPlain attributes) :
    (macroItem start attributes).Yields fun n => AllPlain n.children ∧ n.label = .part .item := by
  refine .after fun place => .after fun p => .bind (yields_macroRest _ _) fun call hcall => ?_
  have hnode : (node start (.part .item) (attributes ++ [call])).Yields
      fun n => AllPlain n.children ∧ n.label = .part .item :=
    yields_node fun _ => ⟨by simpa [children] using ⟨ha, hcall⟩, rfl⟩
  exact .after fun s => .ite hnode (.after fun _ => hnode)

/-! ### Types and constants in bodies -/

/-- The parts of a type alias or an associated type are plain. -/
structure TypeDeclaration.Sound (t : TypeDeclaration) : Prop where
  generics : AllPlain t.generics
  bounds : ∀ ns ∈ t.bounds, AllPlain ns
  definition : ∀ n ∈ t.definition, n.Plain

theorem yields_typeDeclaration (allowDefault whereBefore whereAfter : Bool) :
    (typeDeclaration g allowDefault whereBefore whereAfter).Yields TypeDeclaration.Sound := by
  unfold typeDeclaration
  refine .after fun vis => ?_
  extract_lets stop afterDefault
  have hdefault : ∀ isDefault, (afterDefault isDefault).Yields TypeDeclaration.Sound := by
    refine fun isDefault => .after fun _ => .after fun n => ?_
    refine .bind (yields_parameters hg) fun generics hgenerics => .after fun bounded => ?_
    extract_lets afterBounds
    have hbounded : ∀ bounds, (∀ ns ∈ bounds, AllPlain ns) →
        (afterBounds bounds).Yields TypeDeclaration.Sound := by
      refine fun bounds hbounds => .after fun ts => ?_
      extract_lets hasWhere afterBefore
      have hbefore : ∀ before, AllPlain before →
          (afterBefore before).Yields TypeDeclaration.Sound := by
        refine fun before hbefore => .after fun assigned => ?_
        extract_lets afterDefinition
        have hdefined : ∀ definition, (∀ n ∈ definition, n.Plain) →
            (afterDefinition definition).Yields TypeDeclaration.Sound := by
          intro definition hdefinition
          refine .ite (.bind (yields_conditions hg) fun after hafter => .after fun _ => ?_) ?_
          · exact .pure ⟨by simp [hgenerics, hbefore, hafter], hbounds, hdefinition⟩
          · exact .of_pure (.after fun _ =>
              .pure ⟨by simp [hgenerics, hbefore], hbounds, hdefinition⟩)
        refine .ite (.bind (yields_some (hg.type true)) hdefined) ?_
        exact .of_pure (hdefined none nofun)
      exact .ite (.bind (yields_conditions hg) hbefore) (.of_pure (hbefore [] allPlain_nil))
    refine .ite (.bind (yields_some (yields_boundsUpTo hg stop)) hbounded) ?_
    exact .of_pure (hbounded none nofun)
  exact .ite (.after hdefault) (.of_pure (hdefault false))

/-- The parts of a constant in a body are plain. -/
structure ConstDeclaration.Sound (c : ConstDeclaration) : Prop where
  parts : AllPlain c.parts
  value : ∀ n ∈ c.value, n.Plain

theorem yields_constDeclaration (others : List String) :
    (constDeclaration g others).Yields ConstDeclaration.Sound := by
  unfold constDeclaration
  refine .after fun ts => ?_
  extract_lets afterName
  have hafter : ∀ n, (afterName n).Yields ConstDeclaration.Sound := by
    refine fun n => .after fun ts => .bind (yields_parameters hg) fun generics hgenerics => ?_
    refine .after fun _ => .bind (hg.type true) fun type htype => .after fun assigned => ?_
    extract_lets afterValue
    have hvalued : ∀ value, (∀ n ∈ value, n.Plain) →
        (afterValue value).Yields ConstDeclaration.Sound := by
      refine fun value hvalue => .after fun ts => ?_
      refine .bind (yields_conditions hg) fun where_ hwhere => .after fun _ => .pure ?_
      exact ⟨by simp [hgenerics, hwhere, htype], hvalue⟩
    have hexpression : (g.expression true).Yields Node.Plain :=
      (hg.expression true).mono fun _ h => h.plain
    refine .ite (.bind (yields_some hexpression) hvalued) (.of_pure (hvalued none nofun))
  exact .ite (.after hafter) (.after hafter)

/-! ### Members of implementations -/

omit hg in
theorem fits_member {l : Label} {s : Span} {cs : List Node} (hl : Shape.member.parts? l = some [.plain])
    (hcs : AllPlain cs) : (Node.mk l s cs).fits .member = true := by
  refine fits_mk hl ?_ hcs
  obtain ⟨⟨_, _, rfl⟩ | ⟨_, rfl⟩ | ⟨_, rfl⟩ | rfl, -⟩ := parts?_member hl <;> rfl

omit hg in
theorem yields_unstructuredMember (start : Position) :
    (unstructuredItem start).Yields fun n => n.fits .member = true :=
  yields_node fun _ => fits_member rfl allPlain_nil

theorem yields_implFunction (start : Position) {attributes : List Node} (ha : AllPlain attributes) :
    (implFunction g start attributes).Yields fun n => n.fits .member = true := by
  refine .after fun vis => .after fun _ => .bind (yields_signature hg false) fun head hhead => ?_
  refine .after fun ended => .ite (yields_unstructuredMember start) ?_
  refine .bind (yields_attributedBlock hg) fun r hr => yields_node fun _ => fits_member rfl ?_
  simp [ha, hhead, hr.1, hr.2]

theorem yields_implItem : (implItem g).Yields fun n => n.fits .member = true := by
  refine .after fun start => .bind (yields_outerAttributes hg) fun attributes ha => ?_
  refine .after fun vis? => ?_
  cases vis? with
  | none => exact .after fun _ => yields_unstructuredMember start
  | some r =>
    obtain ⟨vis, s⟩ := r
    dsimp -zeta only
    extract_lets isDefault ts afterDefault
    refine .ite (yields_implFunction hg start ha) <| .ite (.after fun _ => ?constant) ?_
    case constant =>
      have hafter : ∀ b, (afterDefault b).Yields fun n => n.fits .member = true := by
        refine fun _ => .after fun _ => .bind (yields_constDeclaration hg []) fun c hc => ?_
        split
        · rename_i value hvalue
          have hpart : (partOf .value [value]).Plain :=
            plain_mk rfl (by simpa using hc.value value hvalue)
          refine .ite (yields_node fun _ => fits_member rfl ?_) (yields_unstructuredMember start)
          simp [ha, hc.parts, hpart]
        · exact yields_unstructuredMember start
      exact .ite (.after hafter) (.after hafter)
    refine .ite (.bind (yields_typeDeclaration hg true false true) fun t ht => ?type) <|
      .ite ?call ?_
    case type =>
      split
      · rename_i type hdefinition _
        refine yields_node fun _ => fits_member rfl ?_
        simp [ha, ht.generics, ht.definition type hdefinition]
      · exact yields_unstructuredMember start
    case call =>
      refine (yields_macroItem start ha).mono fun n hn => ?_
      obtain ⟨l, s, cs⟩ := n
      obtain ⟨hcs, rfl⟩ := hn
      exact fits_member rfl hcs
    exact .after fun _ => .ite (.after fun _ => yields_expected _) (yields_expected _)

/-! ### Items of traits and foreign blocks -/

omit hg in
theorem yields_plainMacroItem (start : Position) {attributes : List Node}
    (ha : AllPlain attributes) : (macroItem start attributes).Yields Node.Plain := by
  refine (yields_macroItem start ha).mono fun n hn => ?_
  obtain ⟨l, s, cs⟩ := n
  obtain ⟨hcs, rfl⟩ := hn
  exact plain_mk rfl hcs

theorem yields_traitFunction (start : Position) {attributes : List Node} (ha : AllPlain attributes) :
    (traitFunction g start attributes).Yields Node.Plain := by
  refine .bind (yields_signature hg false) fun head hhead => .after fun ts => .ite ?_ (.ite ?_ ?_)
  · refine .bind (yields_attributedBlock hg) fun r hr => yields_plain_node rfl ?_
    simp [ha, hhead, hr.1, hr.2]
  · exact .after fun _ => yields_plain_node rfl (by simp [ha, hhead])
  · exact yields_expected _

theorem yields_traitItem : (traitItem g).Yields Node.Plain := by
  unfold traitItem
  refine .after fun start => .bind (yields_outerAttributes hg) fun attributes ha => ?_
  refine .after fun vis => .after fun isDefault => .after fun ts => ?_
  extract_lets finish
  have hfinish : ∀ n : Node, n.Plain → (finish n).Yields Node.Plain :=
    fun n hn => .ite (yields_unstructuredItem start) (.pure hn)
  refine .ite (.bind (yields_traitFunction hg start ha) hfinish) ?_
  refine .ite (.bind (yields_traitFunction hg start ha) hfinish) ?_
  refine .ite ?constant <| .ite ?type <| .ite (.bind (yields_plainMacroItem start ha) hfinish) ?_
  case constant =>
    refine .after fun _ => .bind (yields_constDeclaration hg _) fun c hc => .ite ?_ ?_
    · refine .bind (yields_plain_node rfl ?_) hfinish
      simp [ha, hc.parts, allPlain_toList hc.value]
    · exact .bind (yields_unstructuredItem start) hfinish
  case type =>
    refine .bind (yields_typeDeclaration hg _ _ _) fun t ht => .ite ?_ ?_
    · exact .bind (yields_unstructuredItem start) hfinish
    · refine .bind (yields_plain_node rfl ?_) hfinish
      simp [ha, ht.generics, allPlain_getD ht.bounds, allPlain_toList ht.definition]
  exact .bind (yields_expected _) hfinish

theorem yields_foreignFunction (start : Position) {attributes : List Node}
    (ha : AllPlain attributes) : (foreignFunction g start attributes).Yields Node.Plain := by
  refine .after fun _ => .bind (yields_signature hg true) fun head hhead => .after fun ts => ?_
  refine .ite (.after fun _ => yields_unstructuredItem start) (.after fun _ => ?_)
  refine .ite (yields_unstructuredItem start) (yields_plain_node rfl ?_)
  simp [ha, hhead]

theorem yields_foreignStatic (start : Position) {attributes : List Node}
    (ha : AllPlain attributes) : (foreignStatic g start attributes).Yields Node.Plain := by
  unfold foreignStatic
  refine .after fun _ => .after fun isUnsafe => ?_
  extract_lets afterSafe
  have hafter : ∀ isSafe, (afterSafe isSafe).Yields Node.Plain := by
    refine fun isSafe => .after fun _ => .after fun _ => .after fun _ => .after fun _ => ?_
    refine .bind (hg.type true) fun type htype => .after fun hasValue => ?_
    extract_lets finish
    have hfinish : (finish ()).Yields Node.Plain :=
      .after fun _ => .ite (yields_unstructuredItem start)
        (yields_plain_node rfl (by simp [ha, htype]))
    exact .ite (.after fun _ => hfinish) hfinish
  exact .ite (.of_pure (hafter false)) (.after hafter)

theorem yields_foreignItem : (foreignItem g).Yields Node.Plain := by
  refine .after fun start => .bind (yields_outerAttributes hg) fun attributes ha => ?_
  refine .after fun vis? => ?_
  cases vis? with
  | none => exact .after fun _ => yields_unstructuredItem start
  | some r =>
    refine .ite (yields_foreignFunction hg start ha) <| .ite (yields_foreignStatic hg start ha) ?_
    refine .ite ?type <| .ite (yields_plainMacroItem start ha) (.after fun _ => yields_expected _)
    refine .bind (yields_typeDeclaration hg _ _ _) fun t ht => ?_
    refine .ite (yields_unstructuredItem start) (yields_plain_node rfl ?_)
    simp [ha, ht.generics]

/-! ### Structs, enums and unions -/

theorem yields_namedField : (namedField g).Yields fun n => n.fits .field = true := by
  unfold namedField
  refine .after fun start => .bind (yields_outerAttributes hg) fun attributes ha => ?_
  refine .after fun vis => .after fun ts => ?_
  extract_lets wild afterName
  have hafter : ∀ n, (afterName n).Yields fun n => n.fits .field = true := by
    refine fun n => .after fun _ => .after fun ts => .ite (.after fun _ => .after fun _ => ?_) ?_
    · exact yields_node fun _ => fits_mk rfl rfl ha
    · refine .bind (hg.type true) fun type htype => yields_node fun _ => fits_mk rfl rfl ?_
      exact allPlain_append.2 ⟨ha, by simpa using htype⟩
  exact .ite (.after hafter) (.after hafter)

theorem yields_unnamedField : (unnamedField g).Yields fun n => n.fits .field = true := by
  refine .after fun start => .bind (yields_outerAttributes hg) fun attributes ha => ?_
  refine .after fun vis => .bind (hg.type true) fun type htype => yields_node fun _ => fits_mk rfl rfl ?_
  exact allPlain_append.2 ⟨ha, by simpa using htype⟩

theorem yields_namedFields : (namedFields g).Yields fun n => n.fits .fieldList = true :=
  .after fun _ => .bind (yields_group (yields_commaList (yields_namedField hg))) fun _ h =>
    yields_node fun _ => fits_mk rfl rfl h

theorem yields_unnamedFields : (unnamedFields g).Yields fun n => n.fits .fieldList = true :=
  .after fun _ => .bind (yields_group (yields_commaList (yields_unnamedField hg))) fun _ h =>
    yields_node fun _ => fits_mk rfl rfl h

omit hg in
theorem fits_noFields : (partOf .fields []).fits .fieldList = true := by decide

omit hg in
theorem plain_partOf_generics {cs : List Node} (hcs : AllPlain cs) : (partOf .generics cs).Plain :=
  plain_mk rfl hcs

theorem yields_structItem (start : Position) {attributes : List Node} (ha : AllPlain attributes) :
    (structItem g start attributes).Yields Node.Plain := by
  unfold structItem
  refine .after fun _ => .after fun n => .bind (yields_parameters hg) fun generics hgenerics => ?_
  extract_lets finish
  have hfinish : ∀ where_ fields, AllPlain where_ → fields.fits .fieldList = true →
      (finish where_ fields).Yields Node.Plain := by
    intro where_ fields hwhere hfields
    refine yields_node fun _ => plain_mk_of_parts (τ := .fieldList) rfl ?_
    have hpart : (partOf .generics (generics ++ where_)).Plain :=
      plain_partOf_generics (allPlain_append.2 ⟨hgenerics, hwhere⟩)
    simp [ha.allPlainOr, hpart, hfields]
  refine .after fun ts => .bind (yields_conditions hg) fun where_ hwhere => .after fun ts => ?_
  refine .ite ?_ (.ite ?_ (.ite ?_ (yields_expected _)))
  · refine .bind (yields_unnamedFields hg) fun fields hfields => .after fun ts => ?_
    refine .bind (yields_conditions hg) fun late hlate => .after fun ended => ?_
    exact .ite (hfinish late fields hlate hfields) (yields_expected _)
  · exact .bind (yields_namedFields hg) fun fields hfields => hfinish where_ fields hwhere hfields
  · exact .after fun _ => hfinish where_ _ hwhere fits_noFields

theorem yields_enumVariant : (enumVariant g).Yields fun n => n.fits .variant = true := by
  unfold enumVariant
  refine .after fun start => .bind (yields_outerAttributes hg) fun attributes ha => ?_
  refine .after fun _ => .after fun _ => .after fun ts => ?_
  extract_lets afterFields
  have hafter : ∀ fields : Node, fields.fits .fieldList = true →
      (afterFields fields).Yields fun n => n.fits .variant = true := by
    intro fields hfields
    have hnode : ∀ discriminant, AllPlain discriminant →
        (node start (.part .variant) (attributes ++ fields :: discriminant)).Yields
          fun n => n.fits .variant = true := by
      intro discriminant hdiscriminant
      refine yields_node fun _ => fits_iff.2 ⟨[.plain, .fieldList], rfl, fun c hc => ?_, rfl⟩
      rcases List.mem_append.1 hc with h | h
      · exact ⟨.plain, by simp, ha c h⟩
      · rcases List.mem_cons.1 h with rfl | h
        · exact ⟨.fieldList, by simp, hfields⟩
        · exact ⟨.plain, by simp, hdiscriminant c h⟩
    refine .after fun assigned => .ite (.bind (hg.expression true) fun e he => .of_pure ?_) ?_
    · exact hnode [e] (by simpa using he.plain)
    · exact .of_pure (hnode [] allPlain_nil)
  refine .ite (.bind (yields_namedFields hg) hafter) ?_
  exact .ite (.bind (yields_unnamedFields hg) hafter) (.of_pure (hafter _ fits_noFields))

theorem yields_enumItem (start : Position) {attributes : List Node} (ha : AllPlain attributes) :
    (enumItem g start attributes).Yields Node.Plain := by
  refine .after fun _ => .after fun n => .bind (yields_parameters hg) fun generics hgenerics => ?_
  refine .bind (yields_conditions hg) fun where_ hwhere => ?_
  refine .bind (yields_group (yields_commaList (yields_enumVariant hg))) fun variants hvariants => ?_
  refine yields_node fun _ => plain_mk_of_parts (τ := .variant) rfl ?_
  have hpart : (partOf .generics (generics ++ where_)).Plain :=
    plain_partOf_generics (allPlain_append.2 ⟨hgenerics, hwhere⟩)
  simp [ha.allPlainOr, hpart, allPlainOr_of_fits hvariants]

theorem yields_unionItem (start : Position) {attributes : List Node} (ha : AllPlain attributes) :
    (unionItem g start attributes).Yields Node.Plain := by
  refine .after fun _ => .after fun n => .bind (yields_parameters hg) fun generics hgenerics => ?_
  refine .bind (yields_conditions hg) fun where_ hwhere => ?_
  refine .bind (yields_namedFields hg) fun fields hfields => ?_
  refine yields_node fun _ => plain_mk_of_parts (τ := .fieldList) rfl ?_
  have hpart : (partOf .generics (generics ++ where_)).Plain :=
    plain_partOf_generics (allPlain_append.2 ⟨hgenerics, hwhere⟩)
  simp [ha.allPlainOr, hpart, hfields]

/-! ### Modules, imports and foreign blocks -/

theorem yields_itemBody {item : Parser Node} {P : Node → Prop} {τ : Shape} (hitem : item.Yields P)
    (hfits : ∀ (s : Span) (ns : List Node), (∀ n ∈ ns, P n) →
      (Node.mk (.part .items) s ns).fits τ = true) :
    (itemBody g item).Yields fun r => AllPlain r.1 ∧ r.2.fits τ = true := by
  have hinside : (do return (← innerAttributes g, ← repeatToEnd item) : Parser _).Yields
      fun r => AllPlain r.1 ∧ ∀ n ∈ r.2, P n :=
    .bind (yields_innerAttributes hg) fun _ ha =>
      .bind (yields_repeatToEnd hitem) fun _ hitems => .pure ⟨ha, hitems⟩
  refine .after fun start => .bind (yields_group hinside) fun r hr => ?_
  exact .bind (yields_node fun s => hfits s r.2 hr.2) fun items hitems => .pure ⟨hr.1, hitems⟩

/-- The body of a module, a trait or a foreign block. -/
theorem yields_plainBody {item : Parser Node} (hitem : item.Yields Node.Plain) :
    (itemBody g item).Yields fun r => AllPlain r.1 ∧ r.2.fits .itemList = true :=
  yields_itemBody hg hitem fun _ _ h => fits_mk rfl rfl h

/-- The body of an implementation. -/
theorem yields_implBody :
    (itemBody g (implItem g)).Yields fun r => AllPlain r.1 ∧ r.2.fits .memberList = true :=
  yields_itemBody hg (yields_implItem hg) fun _ _ h => fits_mk rfl rfl h

theorem yields_moduleItem (start : Position) {attributes : List Node} (ha : AllPlain attributes) :
    (moduleItem g start attributes).Yields Node.Plain := by
  unfold moduleItem
  refine .after fun _ => .after fun _ => .after fun ts => ?_
  extract_lets afterName
  have hafter : ∀ n, (afterName n).Yields Node.Plain := by
    refine fun n => .after fun ts => .ite (.after fun _ => yields_plain_node rfl ha) (.ite ?_ ?_)
    · refine .bind (yields_plainBody hg hg.item) fun r hr => ?_
      refine yields_node fun _ => plain_mk_of_parts (τ := .itemList) rfl ?_
      simp [ha.allPlainOr, hr.1.allPlainOr, hr.2]
    · exact yields_expected _
  exact .ite (.after hafter) (.after hafter)

omit hg in
theorem yields_importItem (start : Position) {attributes : List Node} (ha : AllPlain attributes) :
    (importItem g start attributes).Yields Node.Plain := by
  refine .after fun _ => .after fun _ => .after fun ok => .after fun _ => yields_plain_node rfl ?_
  split
  · exact ha
  · exact allPlain_nil

omit hg in
theorem yields_crateItem (start : Position) {attributes : List Node} (ha : AllPlain attributes) :
    (crateItem start attributes).Yields Node.Plain := by
  unfold crateItem
  refine .after fun _ => .after fun _ => .after fun ts => ?_
  extract_lets finish afterName
  have hfinish : (finish ()).Yields Node.Plain := .after fun _ => yields_plain_node rfl ha
  have hafter : (afterName ()).Yields Node.Plain := by
    refine .after fun renamed => .ite (.after fun ts => ?_) hfinish
    exact .ite (.after fun _ => hfinish) (.after fun _ => hfinish)
  exact .ite (.after fun _ => hafter) (.after fun _ => hafter)

theorem yields_foreignBlock (start : Position) {attributes : List Node} (ha : AllPlain attributes) :
    (foreignBlock g start attributes).Yields Node.Plain := by
  unfold foreignBlock
  refine .after fun _ => .after fun ts => ?_
  extract_lets afterConvention
  have hafter : ∀ u, (afterConvention u).Yields Node.Plain := by
    refine fun _ => .bind (yields_plainBody hg (yields_foreignItem hg)) fun r hr => ?_
    refine yields_node fun _ => plain_mk_of_parts (τ := .itemList) rfl ?_
    simp [ha.allPlainOr, hr.1.allPlainOr, hr.2]
  exact .ite (.after hafter) (.after hafter)

/-! ### Traits and implementations -/

theorem yields_traitRest (start : Position) {attributes : List Node} (ha : AllPlain attributes)
    (n : String) {generics : List Node} (hgenerics : AllPlain generics) :
    (traitRest g start attributes n generics).Yields Node.Plain := by
  unfold traitRest
  extract_lets stop afterBounds
  have hafter : ∀ bounds, AllPlain bounds → (afterBounds bounds).Yields Node.Plain := by
    refine fun bounds hbounds => .bind (yields_conditions hg) fun where_ hwhere => ?_
    refine .bind (yields_plainBody hg (yields_traitItem hg)) fun r hr => ?_
    refine yields_node fun _ => plain_mk_of_parts (τ := .itemList) rfl ?_
    have hpart : (partOf .generics (generics ++ (where_ ++ bounds))).Plain :=
      plain_partOf_generics (by simp [hgenerics, hwhere, hbounds])
    simp [ha.allPlainOr, hr.1.allPlainOr, hpart, hr.2]
  refine .after fun bounded => .ite (.bind (yields_boundsUpTo hg stop) hafter) ?_
  exact .of_pure (hafter [] allPlain_nil)

theorem yields_markedTrait (start : Position) {attributes : List Node} (ha : AllPlain attributes) :
    (markedTrait g start attributes).Yields Node.Plain := by
  refine .after fun _ => .after fun _ => .after fun _ => .after fun n => ?_
  exact .bind (yields_parameters hg) fun generics hgenerics =>
    yields_traitRest hg start ha n hgenerics

theorem yields_traitItemOrAlias (start : Position) {attributes : List Node}
    (ha : AllPlain attributes) : (traitItemOrAlias g start attributes).Yields Node.Plain := by
  refine .after fun _ => .after fun n => .bind (yields_parameters hg) fun generics hgenerics => ?_
  refine .after fun ts => .ite (yields_traitRest hg start ha n hgenerics) (.ite ?_ ?_)
  · have hbound : (do return (← anyBound g false false).2 : Parser _).Yields AllPlain :=
      .bind (yields_anyBound hg false false) fun _ h => .pure h
    refine .after fun _ => .bind (yields_listTo hbound _ _) fun bounds hbounds => ?_
    refine .bind (yields_conditions hg) fun where_ hwhere => .after fun _ => ?_
    exact yields_plain_node rfl (by simp [ha, hgenerics, hwhere, allPlain_flatten hbounds])
  · exact yields_expected _

theorem yields_implementation (start : Position) {attributes : List Node}
    (ha : AllPlain attributes) : (implementation g start attributes).Yields Node.Plain := by
  unfold implementation
  refine .after fun vis => .after fun _ => .after fun _ => .after fun _ => .after fun ts => ?_
  extract_lets afterGenerics
  have hafter : ∀ generics, AllPlain generics → (afterGenerics generics).Yields Node.Plain := by
    refine fun generics hgenerics => .after fun ts => ?_
    extract_lets isConst afterConst
    have hconst : (afterConst ()).Yields Node.Plain := by
      refine .after fun bang => .after fun ts => ?_
      extract_lets negative afterBang
      have hbang : (afterBang ()).Yields Node.Plain := by
        refine .bind (hg.type true) fun first hfirst => .after fun isFor => ?_
        extract_lets afterTypes
        have htypes : ∀ (header : ImplHeader) (types : List Node) (hasTrait : Bool),
            AllPlain types → (afterTypes (header, types, hasTrait)).Yields Node.Plain := by
          intro header types hasTrait htypes
          refine .bind (yields_conditions hg) fun where_ hwhere => ?_
          refine .bind (yields_implBody hg) fun r hr => .ite (yields_unstructuredItem start) ?_
          refine yields_node fun _ => plain_mk_of_parts (τ := .memberList) rfl ?_
          have hpart : (partOf .generics (generics ++ where_)).Plain :=
            plain_partOf_generics (allPlain_append.2 ⟨hgenerics, hwhere⟩)
          simp [ha.allPlainOr, hr.1.allPlainOr, hpart, htypes.allPlainOr, hr.2]
        have hone : AllPlain [first] := by simpa using hfirst
        refine .ite (.bind (hg.type true) fun self hself => ?_) (.ite ?_ ?_)
        · have htwo : AllPlain [first, self] := by simp [hfirst, hself]
          split
          · exact .of_pure (htypes _ _ _ htwo)
          · exact .of_pure (htypes _ _ _ htwo)
        · exact .bind (P := fun r => AllPlain r.2.1) (yields_throw _) fun r hr => htypes _ _ _ hr
        · exact .of_pure (htypes _ _ _ hone)
      exact .ite (.after fun _ => hbang) hbang
    exact .ite (.after fun _ => .after fun _ => hconst) hconst
  exact .ite (.bind (yields_parameters hg) hafter) (.of_pure (hafter [] allPlain_nil))

/-! ### Functions, constants and statics -/

theorem yields_functionItem (start : Position) {attributes : List Node} (ha : AllPlain attributes) :
    (functionItem g start attributes).Yields Node.Plain := by
  refine .bind (yields_signature hg false) fun head hhead => .after fun ended => ?_
  refine .ite (yields_unstructuredItem start) (.bind (yields_attributedBlock hg) fun r hr => ?_)
  exact yields_plain_node rfl (by simp [ha, hhead, hr.1, hr.2])

theorem yields_staticItem (start : Position) {attributes : List Node} (ha : AllPlain attributes) :
    (staticItem g start attributes).Yields Node.Plain := by
  refine .after fun _ => .after fun _ => .after fun _ => .after fun assigned => .ite ?_ ?_
  · exact .after fun _ => .after fun _ => yields_unstructuredItem start
  · refine .after fun _ => .bind (hg.type true) fun type htype => .after fun ended => ?_
    refine .ite (yields_unstructuredItem start) (.after fun _ => ?_)
    refine .bind (hg.expression true) fun value hvalue => .after fun _ => yields_plain_node rfl ?_
    simp [ha, htype, hvalue.plain]

theorem yields_constItem (start : Position) {attributes : List Node} (ha : AllPlain attributes) :
    (constItem g start attributes).Yields Node.Plain := by
  refine .after fun _ => .bind (yields_constDeclaration hg []) fun c hc => ?_
  split
  · rename_i value hvalue
    refine .ite (yields_plain_node rfl ?_) (yields_unstructuredItem start)
    simp [ha, hc.parts, hc.value value hvalue]
  · exact yields_unstructuredItem start

theorem yields_aliasItem (start : Position) {attributes : List Node} (ha : AllPlain attributes) :
    (aliasItem g start attributes).Yields Node.Plain := by
  refine .bind (yields_typeDeclaration hg _ _ _) fun t ht => ?_
  split
  · rename_i type hdefinition _
    exact yields_plain_node rfl (by simp [ha, ht.generics, ht.definition type hdefinition])
  · exact yields_unstructuredItem start

omit hg in
theorem yields_macroDefinition (start : Position) : (macroDefinition start).Yields Node.Plain := by
  unfold macroDefinition
  refine .after fun _ => .after fun _ => .after fun ts => ?_
  extract_lets hasParameters finish
  have hfinish : (finish ()).Yields Node.Plain :=
    .after fun ts => .ite (.after fun _ => yields_unstructuredItem start) (yields_expected _)
  exact .ite (.after fun _ => hfinish) hfinish

omit hg in
theorem yields_macroCallItem (start : Position) {attributes : List Node}
    (ha : AllPlain attributes) : (macroCallItem start attributes).Yields Node.Plain := by
  unfold macroCallItem
  refine .after fun place => .after fun p => .after fun _ => .after fun ts => ?_
  extract_lets rest
  have hrest : (rest ()).Yields Node.Plain := by
    refine .after fun _ => .bind (yields_plain_node rfl allPlain_nil) fun call hcall => ?_
    have hnode : (node start (.part .item) (attributes ++ [call])).Yields Node.Plain :=
      yields_plain_node rfl (by simp [ha, hcall])
    exact .after fun s => .ite hnode (.after fun _ => hnode)
  exact .ite (.after fun _ => hrest) hrest

/-! ### All items -/

theorem yields_itemRest (start : Position) {attributes : List Node} (ha : AllPlain attributes) :
    (itemRest g start attributes).Yields Node.Plain := by
  refine .after fun vis? => ?_
  cases vis? with
  | none => exact .after fun _ => yields_unstructuredItem start
  | some r =>
    have hforeign := yields_foreignBlock hg start ha
    have himplementation := yields_implementation hg start ha
    have hmodule := yields_moduleItem hg start ha
    have hmarked := yields_markedTrait hg start ha
    refine .ite (.after fun _ => yields_functionItem hg start ha) <| .ite ?external ?_
    case external =>
      refine .ite (.after fun _ => yields_crateItem start ha) <| .ite hforeign <| .ite ?_ ?_
      · exact .ite hforeign (.after fun _ => .after fun _ => yields_expected _)
      · exact .after fun _ => .after fun _ => yields_expected _
    refine .ite (.after fun _ => yields_importItem start ha) ?_
    refine .ite (.after fun _ => yields_staticItem hg start ha) ?_
    refine .ite (.after fun _ => yields_constItem hg start ha) <| .ite ?marked ?_
    case marked =>
      refine .ite (.after fun _ => hmarked) <| .ite himplementation <| .ite hforeign ?_
      exact .ite (.after fun _ => hmodule) (.after fun _ => .after fun _ => yields_expected _)
    refine .ite (.after fun _ => hmodule) <| .ite (yields_aliasItem hg start ha) ?_
    refine .ite (.after fun _ => yields_structItem hg start ha) ?_
    refine .ite (.after fun _ => yields_enumItem hg start ha) ?_
    refine .ite (.after fun _ => yields_unionItem hg start ha) ?_
    refine .ite (.after fun _ => yields_traitItemOrAlias hg start ha) ?_
    refine .ite (.after fun _ => hmarked) <| .ite himplementation ?_
    refine .ite (.after fun _ => yields_macroDefinition start) ?_
    exact .ite (yields_macroCallItem start ha) (.after fun _ => yields_expected _)

theorem yields_item : (Production.item g).Yields Node.Plain :=
  .after fun start => .bind (yields_outerAttributes hg) fun _ ha => yields_itemRest hg start ha

/-! ### Statements -/

omit hg in
theorem plain_withEarlierAttributes (start : Position) {attributes : List Node} {e : Node}
    (ha : AllPlain attributes) (he : e.Plain) :
    (withEarlierAttributes start attributes e).Plain := by
  obtain ⟨l, s, cs⟩ := e
  unfold withEarlierAttributes withAttributes
  split
  · exact he
  · split
    · exact he
    · exact he.append ha

omit hg in
/-- The attributes of a statement move down its left operands, and all of these keep their shape.  Only the
outermost one is known to be simple, so the two shapes have to be followed together. -/
theorem attachLeft_sound (start : Position) {attributes : List Node} (ha : AllPlain attributes)
    (e : Node) :
    (e.Plain → (attachLeft start attributes e).Plain) ∧
      (e.Simple → (attachLeft start attributes e).Simple) := by
  have hoperator : ∀ form s l r, (Label.part (.expression form)).isFree = true →
      ((Label.part (.expression form)).isFree = true → l.Plain → AllPlain r →
        (attachLeft.aroundLeft start attributes form s l r).Simple) →
      attachLeft start attributes (.mk (.part (.expression form)) s (l :: r)) =
        attachLeft.aroundLeft start attributes form s l r →
      ((Node.mk (.part (.expression form)) s (l :: r)).Plain →
        (attachLeft start attributes (.mk (.part (.expression form)) s (l :: r))).Plain) ∧
      ((Node.mk (.part (.expression form)) s (l :: r)).Simple →
        (attachLeft start attributes (.mk (.part (.expression form)) s (l :: r))).Simple) := by
    intro form s l r hform haround heq
    have hsimple : (Node.mk (.part (.expression form)) s (l :: r)).Plain →
        (attachLeft.aroundLeft start attributes form s l r).Simple := by
      intro he
      have hparts := allPlain_cons.1 (he.allPlain_children rfl)
      exact haround hform hparts.1 hparts.2
    rw [heq]
    exact ⟨fun he => (hsimple he).plain, fun he => hsimple he.plain⟩
  refine attachLeft.induct start attributes
    (fun form s l r =>
      (Label.part (.expression form)).isFree = true → l.Plain → AllPlain r →
        (attachLeft.aroundLeft start attributes form s l r).Simple)
    (fun e => (e.Plain → (attachLeft start attributes e).Plain) ∧
      (e.Simple → (attachLeft start attributes e).Simple))
    ?around ?assignment ?binary ?cast ?other e
  case around =>
    intro form s l r ih hform hl hr
    rw [attachLeft.aroundLeft]
    exact simple_mk hform (allPlain_cons.2 ⟨ih.1 hl, hr⟩)
  case assignment => exact fun s l r ih => hoperator _ _ _ _ rfl ih (by rw [attachLeft])
  case binary => exact fun op s l r ih => hoperator _ _ _ _ rfl ih (by rw [attachLeft])
  case cast => exact fun s l r ih => hoperator _ _ _ _ rfl ih (by rw [attachLeft])
  case other =>
    intro e hassignment hbinary hcast
    have heq : attachLeft start attributes e = withEarlierAttributes start attributes e := by
      rw [attachLeft]
      · exact hassignment
      · exact hbinary
      · exact hcast
    rw [heq]
    exact ⟨plain_withEarlierAttributes start ha, simple_withEarlierAttributes start ha⟩

theorem yields_bindingStatement (start : Position) {attributes : List Node}
    (ha : AllPlain attributes) : (bindingStatement g start attributes).Yields Node.Plain := by
  unfold bindingStatement
  refine .after fun _ => .after fun place => .bind hg.pattern fun pattern hpattern => ?_
  refine .after fun typed => ?_
  extract_lets afterBinding
  have hafter : ∀ binding : Node, binding.Simple → (afterBinding binding).Yields Node.Plain := by
    intro binding hbinding
    have hnode : ∀ value, AllPlain value → (do
        mark ";"
        statementNode start .binding (attributes ++ binding :: value) : Parser Node).Yields
          Node.Plain := by
      refine fun value hvalue => .after fun _ => yields_plain_node rfl ?_
      simp [ha, hbinding.plain, hvalue]
    refine .after fun assigned => .ite (.bind (hg.expression true) fun value hvalue => ?_) ?_
    · refine .after fun s => .after fun ts => .ite (.after fun _ => .after fun otherwise => ?_) ?_
      · refine .bind (yields_block hg) fun inner hinner => ?_
        refine .bind (yields_expressionNode rfl (by simpa using hinner)) fun e he => .of_pure ?_
        exact hnode _ (by simp [hvalue.plain, he.plain])
      · exact .of_pure (hnode _ (by simpa using hvalue.plain))
    · exact .of_pure (hnode [] allPlain_nil)
  refine .ite (.bind (hg.type true) fun type htype => ?_) (.of_pure (hafter pattern hpattern))
  exact .bind (yields_patternNode (by simp [hpattern.plain, htype])) hafter

omit hg in
theorem yields_macroStatement (start : Position) {attributes : List Node}
    (ha : AllPlain attributes) : (macroStatement start attributes).Yields Node.Plain := by
  refine .after fun place => .after fun p => .bind (yields_macroRest _ _) fun call hcall => ?_
  exact .after fun _ => yields_plain_node rfl (by simp [ha, hcall])

theorem yields_expressionStatement (start : Position) {attributes : List Node}
    (ha : AllPlain attributes) :
    (expressionStatement g start attributes).Yields fun s => s.node.Plain := by
  refine .bind hg.statementExpression fun e he => .after fun s => .after fun hasSemicolon => ?_
  have hattached : (attachLeft start attributes e).Simple := (attachLeft_sound start ha e).2 he
  refine .ite ?_ ?_
  · exact .bind (yields_plain_node rfl hattached.2) fun n hn => .pure hn
  · exact .bind (yields_plain_node rfl (by simpa using hattached.plain)) fun n hn => .pure hn

theorem yields_statement : (statement g).Yields fun s => s.node.Plain := by
  refine .after fun start => .bind (yields_outerAttributes hg) fun attributes ha => ?_
  refine .after fun ts => .after fun form => .ite ?_ <| .ite ?_ <| .ite ?_ ?_
  · exact .bind (yields_macroStatement start ha) fun n hn => .pure hn
  · exact .bind (yields_bindingStatement hg start ha) fun n hn => .pure hn
  · refine .bind (yields_itemRest hg start ha) fun n hn => ?_
    exact .bind (yields_plain_node rfl (by simpa using hn)) fun s hs => .pure hs
  · exact yields_expressionStatement hg start ha

theorem yields_statements : (statements g).Yields AllPlain := by
  have hwithin : ∀ fuel, (statementsWithin g fuel).Yields AllPlain := by
    intro fuel
    induction fuel with
    | zero => exact .pure allPlain_nil
    | succ fuel ih =>
      refine .after fun start => .after fun ts => .ite (.pure allPlain_nil) ?_
      refine .after fun empty => .ite ?_ (.bind (yields_statement hg) fun s hs => .after fun ts => ?_)
      · have hempty : (partOf (.expression .unstructured) []).Plain := plain_mk rfl allPlain_nil
        refine .bind (yields_plain_node rfl (by simpa using hempty)) fun n hn => ?_
        exact .bind ih fun rest hrest => .pure (allPlain_cons.2 ⟨hn, hrest⟩)
      · have hrest : (do return s.node :: (← statementsWithin g fuel) : Parser _).Yields AllPlain :=
          .bind ih fun rest hrest => .pure (allPlain_cons.2 ⟨hs, hrest⟩)
        exact .ite (.after fun _ => hrest) hrest
  exact .after fun ts => hwithin _

end Production

/-! ### Whole texts -/

theorem Grammar.exhausted_sound : Grammar.exhausted.Sound where
  expression _ := yields_expected _
  operand _ := yields_expected _
  operators _ _ _ _ := yields_expected _
  statementExpression := yields_expected _
  conditional := yields_expected _
  type _ := yields_expected _
  bound := yields_expected _
  pattern := yields_expected _
  statements := yields_expected _
  item := yields_expected _

/-- **The nonterminals keep the shapes at every depth of nesting**: one level of the productions keeps what
the level below it keeps. -/
theorem grammar_sound (depth : Nat) : (grammar depth).Sound := by
  induction depth with
  | zero => exact Grammar.exhausted_sound
  | succ depth ih =>
    exact {
      expression := Production.yields_expression ih
      operand := Production.yields_operand ih
      operators := fun _ allowStruct level h => Production.yields_operators ih h allowStruct level
      statementExpression := Production.yields_statementExpression ih
      conditional := Production.yields_conditional ih
      type := Production.yields_type ih
      bound := Production.yields_bound ih
      pattern := Production.yields_pattern ih
      statements := Production.yields_statements ih
      item := Production.yields_item ih }

theorem of_run {α : Type} {p : Grammar → Parser α} {P : α → Prop}
    (hp : ∀ g : Grammar, g.Sound → (p g).Yields P) {ts : List TokenTree} {a : α}
    (h : Production.run p ts = .ok a) : P a := by
  unfold Production.run at h
  extract_lets g at h
  cases hrun : (p g).run (.ofTrees ts) with
  | error e =>
    rw [hrun] at h
    cases h
  | ok r =>
    have hP : P r.1 := hp g (grammar_sound _) _ r.1 r.2 hrun
    rw [hrun] at h
    simp only [bind, Except.bind] at h
    split at h
    · cases h
    · cases h
    · cases h
      exact hP

theorem yields_file {g : Grammar} (hg : g.Sound) : (Production.file g).Yields AllPlain :=
  .bind (Production.yields_innerAttributes hg) fun _ ha =>
    .bind (yields_repeatToEnd hg.item) fun _ hitems => .pure (allPlain_append.2 ⟨ha, hitems⟩)

theorem plain_of_wholeText {p : Grammar → Parser (List Node)}
    (hp : ∀ g : Grammar, g.Sound → (p g).Yields AllPlain) {part : Part}
    (hpart : (Label.part part).standsFreely = true) {trees : Except SyntaxError (List TokenTree)}
    {tree : Node}
    (h : (do let ts ← trees; return wholeText part (← Production.run p ts)) = .ok tree) :
    tree.Plain := by
  simp only [bind, Except.bind, pure, Except.pure] at h
  split at h
  · cases h
  · split at h
    · cases h
    · rename_i nodes hrun
      cases h
      exact plain_mk hpart (of_run hp hrun)

theorem plain_of_parseFile {cs : List Char} {tree : Node} (h : parseFile cs = .ok tree) :
    tree.Plain :=
  plain_of_wholeText (fun _ hg => yields_file hg) rfl h

theorem plain_of_parseStatements {cs : List Char} {tree : Node}
    (h : parseStatements cs = .ok tree) : tree.Plain :=
  plain_of_wholeText (fun _ hg => hg.statements) rfl h

/-- **The tree of a text is plain**: whatever the text, members stand only where their owners expect
them. -/
theorem plain_of_parseProgram {cs : List Char} {tree : Node} (h : parseProgram cs = .ok tree) :
    tree.Plain := by
  rw [parseProgram] at h
  split at h
  · rename_i file hfile
    cases h
    exact plain_of_parseFile hfile
  · split at h
    · rename_i statements hstatements
      cases h
      exact plain_of_parseStatements hstatements
    · cases h

end SourceLint.Syntax
