import Mathlib.Data.List.Pairwise
import SourceLint.Proofs.Syntax.Shape
import SourceLint.Proofs.Traversal.PostOrder

/-!
# Trees without some of their visibilities

* **`Node.visibilityAt?`**, **`Node.visibilities`** — where the visibility of a member is written.
* **`Node.conceal`** — the tree in which the members at some addresses have no visibility, and which is
  the same in everything else.

What a tree without some of its visibilities has in common with the tree is said here once: the nodes at
its addresses (`at?_conceal`), the addresses of its nodes (`hookable_conceal`), the attributes
(`attributes_conceal`), and the places where its nodes may stand (`fits_conceal`).
-/

namespace SourceLint.Syntax

/-! ### Members -/

/-- The member that a label describes. -/
def Label.member? : Label → Option Member
  | .field m | .implFunction m _ | .implConst m | .implType m => some m
  | _ => none

/-- The label without a visibility. -/
def Label.conceal : Label → Label
  | .field m => .field { m with visibility := none }
  | .implFunction m receiverOnly => .implFunction { m with visibility := none } receiverOnly
  | .implConst m => .implConst { m with visibility := none }
  | .implType m => .implType { m with visibility := none }
  | l => l

theorem Label.kind?_conceal (l : Label) : l.conceal.kind? = l.kind? := by
  cases l <;> rfl

theorem Label.plainParts?_conceal (l : Label) : l.conceal.plainParts? = l.plainParts? := by
  cases l <;> rfl

theorem Shape.parts?_conceal (σ : Shape) (l : Label) : σ.parts? l.conceal = σ.parts? l := by
  cases σ with
  | plain => exact l.plainParts?_conceal
  | _ => cases l <;> rfl

namespace Node

/-- Where the visibility of the member at an address is written. -/
def visibilityAt? (n : Node) (p : Address) : Option Span :=
  (n.at? p).bind fun m => m.label.member?.bind (·.visibility)

/-- The visibilities of all members. -/
def visibilities (n : Node) : List Span :=
  n.postOrder.filterMap n.visibilityAt?

theorem mem_visibilities {n : Node} {s : Span} :
    s ∈ n.visibilities ↔ ∃ p, n.visibilityAt? p = some s := by
  rw [visibilities, List.mem_filterMap]
  constructor
  · rintro ⟨p, _, hp⟩
    exact ⟨p, hp⟩
  · rintro ⟨p, hp⟩
    obtain ⟨m, hm, _⟩ := Option.bind_eq_some_iff.1 hp
    exact ⟨p, mem_postOrder.2 ⟨m, hm⟩, hp⟩

/-- What holds of any two of the visibilities holds of those of two members. -/
theorem of_pairwise_visibilities {R : Span → Span → Prop} (hR : ∀ {s t}, R s t → R t s) {n : Node}
    (h : n.visibilities.Pairwise R) {p q : Address} {s t : Span} (hp : n.visibilityAt? p = some s)
    (hq : n.visibilityAt? q = some t) (hne : p ≠ q) : R s t := by
  have hmem : ∀ {p s}, n.visibilityAt? p = some s → p ∈ n.postOrder := by
    intro p s hp
    obtain ⟨m, hm, _⟩ := Option.bind_eq_some_iff.1 hp
    exact mem_postOrder.2 ⟨m, hm⟩
  have hsymm : Std.Symm fun p q => ∀ s, n.visibilityAt? p = some s →
      ∀ t, n.visibilityAt? q = some t → R s t :=
    ⟨fun p q h t ht s hs => hR (h s hs t ht)⟩
  exact (List.pairwise_filterMap.1 h).forall (hmem hp) (hmem hq) hne s hp t hq

/-! ### Concealing -/

mutual

/-- The tree in which the members at the hidden addresses have no visibility. -/
def conceal (hidden : Address → Bool) : Node → Node
  | .mk l s cs => .mk (if hidden [] then l.conceal else l) s (concealFrom hidden 0 cs)

/-- The children from the given one on, without the visibilities that are hidden. -/
def concealFrom (hidden : Address → Bool) (i : Nat) : List Node → List Node
  | [] => []
  | c :: cs => c.conceal (fun p => hidden (i :: p)) :: concealFrom hidden (i + 1) cs

end

theorem concealFrom_eq_map (hidden : Address → Bool) (i : Nat) (cs : List Node) :
    concealFrom hidden i cs =
      (cs.zipIdx i).map fun c => c.1.conceal fun p => hidden (c.2 :: p) := by
  induction cs generalizing i with
  | nil => rfl
  | cons c cs ih => rw [concealFrom, ih, List.zipIdx_cons, List.map_cons]

theorem concealFrom_append (hidden : Address → Bool) (i : Nat) (as bs : List Node) :
    concealFrom hidden i (as ++ bs) =
      concealFrom hidden i as ++ concealFrom hidden (i + as.length) bs := by
  rw [concealFrom_eq_map, concealFrom_eq_map, concealFrom_eq_map, List.zipIdx_append, List.map_append]

variable (hidden : Address → Bool)

theorem label_conceal (n : Node) :
    (n.conceal hidden).label = if hidden [] then n.label.conceal else n.label := by
  cases n
  rfl

theorem children_conceal (n : Node) :
    (n.conceal hidden).children =
      n.children.zipIdx.map fun c => c.1.conceal fun p => hidden (c.2 :: p) := by
  cases n
  exact concealFrom_eq_map hidden 0 _

theorem zipIdx_children_conceal (n : Node) :
    (n.conceal hidden).children.zipIdx =
      n.children.zipIdx.map fun c => (c.1.conceal fun p => hidden (c.2 :: p), c.2) := by
  refine List.ext_getElem? fun i => ?_
  rw [children_conceal, List.getElem?_zipIdx, List.getElem?_map, List.getElem?_map,
    List.getElem?_zipIdx]
  cases n.children[i]? <;> rfl

/-- What a label says besides the visibility of a member stays. -/
theorem of_label_conceal {α : Type} (f : Label → α) (hf : ∀ l, f l.conceal = f l) (n : Node) :
    f (n.conceal hidden).label = f n.label := by
  rw [label_conceal]
  split
  · exact hf n.label
  · rfl

theorem kind?_conceal (n : Node) : (n.conceal hidden).kind? = n.kind? :=
  of_label_conceal hidden Label.kind? Label.kind?_conceal n

theorem attribute?_conceal (n : Node) : (n.conceal hidden).attribute? = n.attribute? := by
  refine of_label_conceal hidden (fun l => attribute? (.mk l default [])) (fun l => ?_) n
  cases l <;> rfl

theorem attributes_conceal (n : Node) : (n.conceal hidden).attributes = n.attributes := by
  rw [attributes, attributes, children_conceal, List.filterMap_map]
  calc
    _ = n.children.zipIdx.filterMap fun c => c.1.attribute? :=
      List.filterMap_congr fun c _ => attribute?_conceal _ c.1
    _ = (n.children.zipIdx.map Prod.fst).filterMap attribute? := by rw [List.filterMap_map]; rfl
    _ = n.children.filterMap attribute? := by rw [List.zipIdx_map_fst]

/-- At an address stands what stood there, without the visibilities that are hidden below it. -/
theorem at?_conceal (n : Node) (p : Address) :
    (n.conceal hidden).at? p = (n.at? p).map fun m => m.conceal fun q => hidden (p ++ q) := by
  induction p generalizing n hidden with
  | nil => rfl
  | cons i p ih =>
    rw [at?, at?, children_conceal, List.getElem?_map, List.getElem?_zipIdx]
    cases n.children[i]? with
    | none => rfl
    | some c =>
      have hi : 0 + i = i := Nat.zero_add i
      simp only [Option.map_some, Option.bind_some, hi]
      exact ih _ c

theorem postOrderFrom_concealFrom {cs : List Node} (i : Nat)
    (h : ∀ c ∈ cs, ∀ hidden, (c.conceal hidden).postOrder = c.postOrder) :
    postOrderFrom i (concealFrom hidden i cs) = postOrderFrom i cs := by
  induction cs generalizing i with
  | nil => rfl
  | cons c cs ih =>
    rw [concealFrom, postOrderFrom, postOrderFrom, h c List.mem_cons_self,
      ih (i + 1) fun d hd => h d (List.mem_cons_of_mem c hd)]

theorem postOrder_conceal (n : Node) : (n.conceal hidden).postOrder = n.postOrder := by
  induction n using induct generalizing hidden with
  | mk l s cs ih =>
    rw [conceal, postOrder, postOrder, postOrderFrom_concealFrom hidden 0 fun c hc h => ih c hc h]

theorem hookable_conceal (n : Node) : (n.conceal hidden).hookable = n.hookable := by
  rw [hookable, hookable, postOrder_conceal]
  refine List.filter_congr fun p _ => ?_
  rw [at?_conceal]
  cases n.at? p with
  | none => rfl
  | some m => simp [kind?_conceal]

theorem pathExpression?_conceal (n : Node) :
    (n.conceal hidden).pathExpression? = n.pathExpression? := by
  refine of_label_conceal hidden (fun l => pathExpression? (.mk l default [])) (fun l => ?_) n
  cases l <;> rfl

/-- What a label says besides the visibility of a member is still true. -/
theorem describes_conceal {l : Label} {cs : List Node} (h : l.describes cs = true) :
    (if hidden [] then l.conceal else l).describes (concealFrom hidden 0 cs) = true := by
  suffices hdescribes : l.describes (concealFrom hidden 0 cs) = true by
    split
    · cases l <;> exact hdescribes
    · exact hdescribes
  cases l with
  | call callee =>
    obtain ⟨front, s, e, arguments, rfl, rfl⟩ := Label.describes_call.1 h
    have hcallee : (Label.part .callee).conceal = .part .callee := rfl
    rw [concealFrom_append, Label.describes_call]
    simp only [concealFrom, conceal, hcallee, ite_self]
    exact ⟨_, s, _, _, rfl, pathExpression?_conceal _ e⟩
  | part p =>
    cases p with
    | expression form => cases form <;> exact h
    | _ => rfl
  | _ => rfl

/-- Every node stands where it stood, and is what its label says. -/
theorem fits_conceal {σ : Shape} {n : Node} (h : n.fits σ = true) :
    (n.conceal hidden).fits σ = true := by
  induction n using induct generalizing hidden σ with
  | mk l s cs ih =>
    obtain ⟨τs, hτs, hcs, hdescribes⟩ := fits_iff.1 h
    refine fits_iff.2 ⟨τs, ?_, fun c hc => ?_, describes_conceal hidden hdescribes⟩
    · split
      · rw [Shape.parts?_conceal, hτs]
      · exact hτs
    · rw [concealFrom_eq_map] at hc
      obtain ⟨⟨c', i⟩, hmem, rfl⟩ := List.mem_map.1 hc
      have hc' : c' ∈ cs := List.mem_of_getElem? (List.mem_zipIdx_iff_getElem?.1 hmem)
      obtain ⟨τ, hτ, hfits⟩ := hcs c' hc'
      exact ⟨τ, hτ, ih c' hc' _ hfits⟩

end Node

end SourceLint.Syntax
