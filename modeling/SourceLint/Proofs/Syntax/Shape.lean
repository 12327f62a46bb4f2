import SourceLint.Syntax.Node

/-!
# Shapes of trees

A tree does not say by its type which nodes may stand inside which.  The shape of a place does: it says
which labels a node there may have, and which shapes its children then have.  Members stand only where
their owners expect them: a field in a list of fields, and that list in a struct, a union or a variant; a
member of an implementation in the body of one.

* **`Shape`** — the places that are told apart; `Shape.parts?` is the grammar of trees.
* **`Label.describes`** — what a label repeats of the tree below it is true: that of a call names the path
  that is called.
* **`Node.fits`** — a tree has a shape.
* **`Node.Plain`**, **`AllPlain`** — nodes that stand anywhere but at the places kept for members.
* **`Node.Simple`** — plain nodes whose children may be moved to any other plain node, as the parts of
  an expression are.
-/

namespace SourceLint.Syntax

/-- The places in a tree that differ in what may stand there. -/
inductive Shape where
  /-- Items, statements, expressions, types, patterns and attributes with all their parts. -/
  | plain
  /-- The fields of a struct, a union or a variant. -/
  | fieldList
  | field
  | variant
  /-- The body of an implementation. -/
  | memberList
  | member
  /-- The body of a module, a trait or a foreign block. -/
  | itemList
deriving DecidableEq

/-- What the children of a plain node with the label may be; nothing if no plain node has it. -/
def Label.plainParts? : Label → Option (List Shape)
  | .struct _ | .union _ => some [.plain, .fieldList]
  | .enum _ => some [.plain, .variant]
  | .impl _ => some [.plain, .memberList]
  | .module _ | .trait _ | .part .item => some [.plain, .itemList]
  | .field _ | .implFunction _ _ | .implConst _ | .implType _ => none
  | .part .fields | .part .items | .part .variant => none
  | _ => some [.plain]

/-- What the children of a node with the label may be where the shape is; nothing if no such node may
stand there. -/
def Shape.parts? (σ : Shape) (l : Label) : Option (List Shape) :=
  match σ, l with
  | .plain, l => l.plainParts?
  | .fieldList, .part .fields => some [.field]
  | .field, .field _ => some [.plain]
  | .variant, .part .variant => some [.plain, .fieldList]
  | .memberList, .part .items => some [.member]
  | .member, .implFunction _ _ | .member, .implConst _ | .member, .implType _ => some [.plain]
  | .member, .part .item => some [.plain]
  | .itemList, .part .items => some [.plain]
  | _, _ => none

/-- A path that is looked up in a type is not a single name. -/
def TypedPath.isProper (p : TypedPath) : Bool :=
  !p.qualified || p.path.global || 2 ≤ p.path.segments.length

/-- The label says of its node what is true by the children: in a call the callee stands before the
arguments, and the label repeats its path. -/
def Label.describes : Label → List Node → Bool
  | .call callee, cs =>
    match cs.reverse with
    | _ :: .mk (.part .callee) _ [e] :: _ => e.pathExpression? = callee
    | _ => false
  | .part (.expression (.path p)), _ => p.isProper
  | _, _ => true

/-- The label says nothing that has to be true by the children. -/
def Label.isFree : Label → Bool
  | .call _ | .part (.expression (.path _)) => false
  | _ => true

/-- A node with the label and any plain children is plain. -/
def Label.standsFreely (l : Label) : Bool :=
  l.plainParts?.isSome && l.isFree

theorem Label.describes_of_isFree {l : Label} (h : l.isFree = true) (cs : List Node) :
    l.describes cs = true := by
  unfold isFree at h
  split at h
  · cases h
  · cases h
  · rename_i hcall hpath
    unfold describes
    split
    · exact absurd rfl (hcall _)
    · exact absurd rfl (hpath _)
    · rfl

/-- The label of a call tells the truth if it repeats the path of what stands right before the
arguments. -/
theorem Label.describes_call {callee : Option TypedPath} {cs : List Node} :
    (Label.call callee).describes cs = true ↔
      ∃ front s e arguments, cs = front ++ [.mk (.part .callee) s [e], arguments] ∧
        e.pathExpression? = callee := by
  rw [describes]
  constructor
  · intro h
    split at h
    · rename_i arguments s e rest hreverse
      refine ⟨rest.reverse, s, e, arguments, ?_, of_decide_eq_true h⟩
      rw [List.reverse_eq_iff.1 hreverse]
      simp
    · cases h
  · rintro ⟨front, s, e, arguments, rfl, h⟩
    simp [h]

/-- What a label says is about the last children. -/
theorem Label.describes_append {l : Label} {cs : List Node} (h : l.describes cs = true)
    (as : List Node) : l.describes (as ++ cs) = true := by
  cases l with
  | call callee =>
    obtain ⟨front, s, e, arguments, rfl, he⟩ := Label.describes_call.1 h
    exact Label.describes_call.2 ⟨as ++ front, s, e, arguments, (List.append_assoc ..).symm, he⟩
  | part p =>
    cases p with
    | expression form => cases form <;> exact h
    | _ => rfl
  | _ => rfl

/-- Plain nodes with children of another shape as well say nothing about these. -/
theorem Label.isFree_of_plainParts {l : Label} {τ : Shape} (h : l.plainParts? = some [.plain, τ]) :
    l.isFree = true := by
  cases l with
  | call callee => cases h
  | part p =>
    cases p with
    | expression form => cases form <;> first | rfl | cases h
    | _ => rfl
  | _ => rfl

namespace Node

mutual

/-- The node and everything inside it stands where its shape allows it, and is what its label says. -/
def fits (σ : Shape) : Node → Bool
  | .mk l _ cs =>
    match σ.parts? l with
    | some τs => allFit τs cs && l.describes cs
    | none => false

/-- Each of the nodes has one of the shapes. -/
def allFit (τs : List Shape) : List Node → Bool
  | [] => true
  | c :: cs => (τs.any fun τ => fits τ c) && allFit τs cs

end

theorem allFit_iff {τs : List Shape} {cs : List Node} :
    allFit τs cs = true ↔ ∀ c ∈ cs, ∃ τ ∈ τs, c.fits τ = true := by
  induction cs with
  | nil => simp [allFit]
  | cons c cs ih => rw [allFit, Bool.and_eq_true, ih, List.any_eq_true, List.forall_mem_cons]

theorem fits_iff {σ : Shape} {l : Label} {s : Span} {cs : List Node} :
    (Node.mk l s cs).fits σ = true ↔
      ∃ τs, σ.parts? l = some τs ∧ (∀ c ∈ cs, ∃ τ ∈ τs, c.fits τ = true) ∧
        l.describes cs = true := by
  rw [fits]
  cases σ.parts? l with
  | none => simp
  | some τs => simp [allFit_iff]

/-- A node that stands outside the places kept for members. -/
def Plain (n : Node) : Prop := n.fits .plain = true

/-- The node and its children are plain. -/
def Simple (n : Node) : Prop := n.Plain ∧ ∀ c ∈ n.children, c.Plain

end Node

/-- The nodes are plain. -/
def AllPlain (ns : List Node) : Prop := ∀ n ∈ ns, n.Plain

@[simp] theorem allPlain_nil : AllPlain [] := fun _ h => absurd h List.not_mem_nil

@[simp] theorem allPlain_cons {n : Node} {ns : List Node} :
    AllPlain (n :: ns) ↔ n.Plain ∧ AllPlain ns := List.forall_mem_cons

@[simp] theorem allPlain_append {ms ns : List Node} :
    AllPlain (ms ++ ns) ↔ AllPlain ms ∧ AllPlain ns := List.forall_mem_append

theorem allPlain_flatten {nss : List (List Node)} (h : ∀ ns ∈ nss, AllPlain ns) :
    AllPlain nss.flatten := by
  intro n hn
  obtain ⟨ns, hns, hmem⟩ := List.mem_flatten.1 hn
  exact h ns hns n hmem

theorem allPlain_getD {ns? : Option (List Node)} (h : ∀ ns ∈ ns?, AllPlain ns) :
    AllPlain (ns?.getD []) := by
  cases ns? with
  | none => exact allPlain_nil
  | some ns => exact h ns rfl

theorem allPlain_toList {n? : Option Node} (h : ∀ n ∈ n?, n.Plain) : AllPlain n?.toList := by
  intro n hn
  exact h n (Option.mem_toList.1 hn)

/-- Each of the nodes is plain or has the shape. -/
def AllPlainOr (τ : Shape) (ns : List Node) : Prop := ∀ n ∈ ns, n.Plain ∨ n.fits τ = true

section

variable {τ : Shape}

@[simp] theorem allPlainOr_nil : AllPlainOr τ [] := fun _ h => absurd h List.not_mem_nil

@[simp] theorem allPlainOr_cons {n : Node} {ns : List Node} :
    AllPlainOr τ (n :: ns) ↔ (n.Plain ∨ n.fits τ = true) ∧ AllPlainOr τ ns := List.forall_mem_cons

@[simp] theorem allPlainOr_append {ms ns : List Node} :
    AllPlainOr τ (ms ++ ns) ↔ AllPlainOr τ ms ∧ AllPlainOr τ ns := List.forall_mem_append

theorem AllPlain.allPlainOr {ns : List Node} (h : AllPlain ns) : AllPlainOr τ ns :=
  fun n hn => .inl (h n hn)

theorem allPlainOr_of_fits {ns : List Node} (h : ∀ n ∈ ns, n.fits τ = true) : AllPlainOr τ ns :=
  fun n hn => .inr (h n hn)

end

namespace Node

/-! ### Building nodes -/

/-- A node all of whose children have the one shape that they may have. -/
theorem fits_mk {σ τ : Shape} {l : Label} {s : Span} {cs : List Node} (hl : σ.parts? l = some [τ])
    (hfree : l.isFree = true) (hcs : ∀ c ∈ cs, c.fits τ = true) : (mk l s cs).fits σ = true :=
  fits_iff.2 ⟨[τ], hl, fun c hc => ⟨τ, List.mem_singleton_self τ, hcs c hc⟩,
    l.describes_of_isFree hfree cs⟩

/-- A plain node that keeps children of another shape. -/
theorem plain_mk_of_parts {τ : Shape} {l : Label} {s : Span} {cs : List Node}
    (hl : l.plainParts? = some [.plain, τ]) (hcs : AllPlainOr τ cs) : (mk l s cs).Plain := by
  refine fits_iff.2 ⟨[.plain, τ], hl, fun c hc => ?_,
    l.describes_of_isFree (Label.isFree_of_plainParts hl) cs⟩
  rcases hcs c hc with h | h
  · exact ⟨.plain, by simp, h⟩
  · exact ⟨τ, by simp, h⟩

/-- The children of a plain node may be plain, whatever its label. -/
theorem mem_plainParts {l : Label} {τs : List Shape} (h : l.plainParts? = some τs) : .plain ∈ τs := by
  unfold Label.plainParts? at h
  split at h <;> cases h <;> decide

/-- A node with plain children is plain if its label may stand there and tells the truth. -/
theorem plain_mk_of_describes {l : Label} {s : Span} {cs : List Node}
    (hl : l.plainParts?.isSome = true) (hcs : AllPlain cs) (hdescribes : l.describes cs = true) :
    (mk l s cs).Plain := by
  obtain ⟨τs, hτs⟩ := Option.isSome_iff_exists.1 hl
  exact fits_iff.2 ⟨τs, hτs, fun c hc => ⟨.plain, mem_plainParts hτs, hcs c hc⟩, hdescribes⟩

theorem plain_mk {l : Label} {s : Span} {cs : List Node} (hl : l.standsFreely = true)
    (hcs : AllPlain cs) : (mk l s cs).Plain := by
  rw [Label.standsFreely, Bool.and_eq_true] at hl
  exact plain_mk_of_describes hl.1 hcs (l.describes_of_isFree hl.2 cs)

/-- A plain node stays plain when plain nodes are put before its children. -/
theorem Plain.append {l : Label} {s s' : Span} {as cs : List Node} (h : (mk l s cs).Plain)
    (has : AllPlain as) : (mk l s' (as ++ cs)).Plain := by
  obtain ⟨τs, hτs, hcs, hdescribes⟩ := fits_iff.1 h
  refine fits_iff.2 ⟨τs, hτs, fun c hc => ?_, l.describes_append hdescribes as⟩
  rcases List.mem_append.1 hc with hc | hc
  · exact ⟨.plain, mem_plainParts hτs, has c hc⟩
  · exact hcs c hc

/-- Of most plain nodes the children are plain. -/
theorem Plain.allPlain_children {l : Label} {s : Span} {cs : List Node} (h : (mk l s cs).Plain)
    (hl : l.plainParts? = some [.plain]) : AllPlain cs := by
  obtain ⟨τs, hτs, hcs, _⟩ := fits_iff.1 h
  have hone : τs = [.plain] := Option.some.inj (hτs.symm.trans hl)
  intro c hc
  obtain ⟨τ, hτ, hfits⟩ := hcs c hc
  rw [hone, List.mem_singleton] at hτ
  rwa [hτ] at hfits

/-! ### What stands where members may -/

/-- The children of a node that may have children of one shape only. -/
theorem fits_of_mem_children {σ τ : Shape} {n c : Node} (h : n.fits σ = true)
    (hparts : ∀ τs, σ.parts? n.label = some τs → τs = [τ]) (hc : c ∈ n.children) :
    c.fits τ = true := by
  obtain ⟨l, s, cs⟩ := n
  obtain ⟨τs, hτs, hcs, _⟩ := fits_iff.1 h
  obtain ⟨τ', hτ', hfits⟩ := hcs c hc
  rw [hparts τs hτs, List.mem_singleton] at hτ'
  rwa [hτ'] at hfits

theorem parts?_isSome_of_fits {σ : Shape} {n : Node} (h : n.fits σ = true) :
    ∃ τs, σ.parts? n.label = some τs := by
  obtain ⟨l, s, cs⟩ := n
  obtain ⟨τs, hτs, _⟩ := fits_iff.1 h
  exact ⟨τs, hτs⟩

theorem parts?_itemList {l : Label} {τs : List Shape} (h : Shape.itemList.parts? l = some τs) :
    l = .part .items ∧ τs = [.plain] := by
  unfold Shape.parts? at h
  split at h <;> simp_all

theorem parts?_fieldList {l : Label} {τs : List Shape} (h : Shape.fieldList.parts? l = some τs) :
    l = .part .fields ∧ τs = [.field] := by
  unfold Shape.parts? at h
  split at h <;> simp_all

theorem parts?_memberList {l : Label} {τs : List Shape} (h : Shape.memberList.parts? l = some τs) :
    l = .part .items ∧ τs = [.member] := by
  unfold Shape.parts? at h
  split at h <;> simp_all

theorem parts?_field {l : Label} {τs : List Shape} (h : Shape.field.parts? l = some τs) :
    (∃ m, l = .field m) ∧ τs = [.plain] := by
  unfold Shape.parts? at h
  split at h <;> simp_all

theorem parts?_member {l : Label} {τs : List Shape} (h : Shape.member.parts? l = some τs) :
    ((∃ m receiverOnly, l = .implFunction m receiverOnly) ∨ (∃ m, l = .implConst m) ∨
      (∃ m, l = .implType m) ∨ l = .part .item) ∧ τs = [.plain] := by
  unfold Shape.parts? at h
  split at h <;> simp_all

theorem expression?_eq_some {n : Node} {form : ExpressionForm} :
    n.expression? = some form ↔ n.label = .part (.expression form) := by
  unfold expression?
  split
  · rename_i h
    simp [h]
  · rename_i h
    exact ⟨nofun, fun heq => absurd heq (h form)⟩

end Node

end SourceLint.Syntax
