import Mathlib.Data.List.Basic
import SourceLint.Source.SourceFile
import SourceLint.Traversal.Visitor

/-!
# The order of a traversal

A node of a tree is named by its address: the numbers of the children on the way down to it.  A
traversal asks its visitor about nodes in post-order, without those that are left out.

* **`Node.at?`** — the node at an address.
* **`Node.Before`** — post-order on addresses: what is inside a node comes before it, and of two nodes
  side by side the left one comes with everything inside it first.
* **`Node.postOrder`**, **`Node.hookable`** — the addresses of all nodes and of those that have a kind.
* **`Visitor.cutsOff`** — an address is, or is below, a node under the root that is left out.
* **`Visitor.trace`** — the answers at the addresses that have a kind and are not cut off.
* **`Visitor.run_of_skipped_nil`** — a visitor that leaves nothing out is asked at every node of a kind.
* **`Visitor.flatMap_answersAt_eq_map`** — the answers as a list of what is found at the addresses.
* **`Visitor.map`** — the visitor with changed answers.

`Visitor.visit_none` is the invariant of the traversal below its root, where the exemption is used up.
`Visitor.traversal_eq_pruned_postOrder` says what is asked at which nodes and in which order.
-/

namespace SourceLint

open SourceLint.Syntax

namespace Syntax.Node

/-! ### Addresses -/

/-- Induction over syntax trees. -/
theorem induct {motive : Node → Prop}
    (mk : ∀ l s cs, (∀ c ∈ cs, motive c) → motive (.mk l s cs)) (n : Node) : motive n :=
  @Node.rec motive (fun cs => ∀ c ∈ cs, motive c) mk
    (fun _ h => absurd h List.not_mem_nil)
    (fun _ _ hc hcs => List.forall_mem_cons.2 ⟨hc, hcs⟩) n

/-- The way to a node: the number of the child at each step down. -/
abbrev Address := List Nat

/-- The node at an address. -/
def at? : Node → Address → Option Node
  | n, [] => some n
  | n, i :: p => n.children[i]?.bind fun c => c.at? p

theorem at?_append (n : Node) (p q : Address) :
    n.at? (p ++ q) = (n.at? p).bind fun m => m.at? q := by
  induction p generalizing n with
  | nil => rfl
  | cons i p ih =>
    rw [List.cons_append, at?, at?]
    cases n.children[i]? with
    | none => rfl
    | some c => exact ih c

/-- In post-order the first address comes before the second: it lies inside, or the ways part and the
first goes to the left. -/
def Before (p q : Address) : Prop :=
  (q <+: p ∧ q ≠ p) ∨ ∃ r i j p' q', i < j ∧ p = r ++ i :: p' ∧ q = r ++ j :: q'

theorem before_nil (i : Nat) (p : Address) : Before (i :: p) [] :=
  .inl ⟨List.nil_prefix, List.cons_ne_nil i p |>.symm⟩

theorem before_of_lt {i j : Nat} (h : i < j) (p q : Address) : Before (i :: p) (j :: q) :=
  .inr ⟨[], i, j, p, q, h, rfl, rfl⟩

theorem Before.cons {p q : Address} (h : Before p q) (i : Nat) : Before (i :: p) (i :: q) := by
  rcases h with ⟨hpre, hne⟩ | ⟨r, j, k, p', q', hjk, rfl, rfl⟩
  · left
    refine ⟨List.cons_prefix_cons.2 ⟨rfl, hpre⟩, fun h => hne ?_⟩
    exact (List.cons.inj h).2
  · right
    exact ⟨i :: r, j, k, p', q', hjk, rfl, rfl⟩

theorem Before.append_left (q : Address) {p p' : Address} (h : Before p p') :
    Before (q ++ p) (q ++ p') := by
  induction q with
  | nil => exact h
  | cons i q ih => exact ih.cons i

theorem not_before_self (p : Address) : ¬ Before p p := by
  rintro (⟨_, hne⟩ | ⟨r, i, j, p', q', hij, hp, hq⟩)
  · exact hne rfl
  · have h := List.append_cancel_left (hp.symm.trans hq)
    have hsame : i = j := (List.cons.inj h).1
    omega

/-! ### All addresses -/

mutual

/-- The addresses of the node and of everything inside it, in post-order. -/
def postOrder : Node → List Address
  | .mk _ _ cs => postOrderFrom 0 cs ++ [[]]

/-- The addresses inside the children from the given one on. -/
def postOrderFrom (i : Nat) : List Node → List Address
  | [] => []
  | c :: cs => c.postOrder.map (i :: ·) ++ postOrderFrom (i + 1) cs

end

theorem postOrderFrom_eq_flatMap (i : Nat) (cs : List Node) :
    postOrderFrom i cs = (cs.zipIdx i).flatMap fun c => c.1.postOrder.map (c.2 :: ·) := by
  induction cs generalizing i with
  | nil => rfl
  | cons c cs ih => rw [postOrderFrom, ih, List.zipIdx_cons, List.flatMap_cons]

theorem postOrder_mk (l : Label) (s : Span) (cs : List Node) :
    (Node.mk l s cs).postOrder =
      (cs.zipIdx.flatMap fun c => c.1.postOrder.map (c.2 :: ·)) ++ [[]] := by
  rw [postOrder, postOrderFrom_eq_flatMap]

theorem mem_postOrder {n : Node} {p : Address} : p ∈ n.postOrder ↔ ∃ m, n.at? p = some m := by
  induction n using induct generalizing p with
  | mk l s cs ih =>
    rw [postOrder_mk, List.mem_append, List.mem_flatMap]
    cases p with
    | nil => simp [at?]
    | cons i p =>
      constructor
      · rintro (⟨⟨c, j⟩, hc, hp⟩ | hp)
        · obtain ⟨p', hp', heq⟩ := List.mem_map.1 hp
          obtain ⟨rfl, rfl⟩ := List.cons.inj heq
          have hget : cs[j]? = some c := List.mem_zipIdx_iff_getElem?.1 hc
          obtain ⟨m, hm⟩ := (ih c (List.mem_of_getElem? hget)).1 hp'
          exact ⟨m, by simp only [at?, children, hget, Option.bind_some, hm]⟩
        · simp at hp
      · rintro ⟨m, hm⟩
        rw [at?, Option.bind_eq_some_iff] at hm
        obtain ⟨c, hget, hm⟩ := hm
        have hp : p ∈ c.postOrder := (ih c (List.mem_of_getElem? hget)).2 ⟨m, hm⟩
        exact .inl ⟨(c, i), List.mem_zipIdx_iff_getElem?.2 hget, List.mem_map.2 ⟨p, hp, rfl⟩⟩

theorem pairwise_before_postOrder (n : Node) : n.postOrder.Pairwise Before := by
  induction n using induct with
  | mk l s cs ih =>
    rw [postOrder_mk, List.pairwise_append, List.pairwise_flatMap]
    refine ⟨⟨?_, ?_⟩, List.pairwise_singleton _ _, ?_⟩
    · rintro ⟨c, i⟩ hc
      have hget : cs[i]? = some c := List.mem_zipIdx_iff_getElem?.1 hc
      rw [List.pairwise_map]
      exact (ih c (List.mem_of_getElem? hget)).imp fun h => h.cons i
    · have hlt : cs.zipIdx.Pairwise fun a b => a.2 < b.2 := by
        rw [← List.pairwise_map (f := Prod.snd) (R := (· < ·)), List.zipIdx_map_snd]
        exact List.pairwise_lt_range'
      refine hlt.imp fun {a b} hab p hp q hq => ?_
      obtain ⟨p', _, rfl⟩ := List.mem_map.1 hp
      obtain ⟨q', _, rfl⟩ := List.mem_map.1 hq
      exact before_of_lt hab p' q'
    · intro p hp q hq
      obtain ⟨c, _, hp⟩ := List.mem_flatMap.1 hp
      obtain ⟨p', _, rfl⟩ := List.mem_map.1 hp
      rw [List.mem_singleton.1 hq]
      exact before_nil c.2 p'

/-- The addresses of the nodes that have a kind, in post-order. -/
def hookable (n : Node) : List Address :=
  n.postOrder.filter fun p => (n.at? p).any fun m => m.kind?.isSome

theorem mem_hookable {n : Node} {p : Address} :
    p ∈ n.hookable ↔ ∃ m, n.at? p = some m ∧ m.kind?.isSome = true := by
  rw [hookable, List.mem_filter, mem_postOrder, Option.any_eq_true]
  constructor
  · rintro ⟨_, m, hm, hk⟩
    exact ⟨m, hm, hk⟩
  · rintro ⟨m, hm, hk⟩
    exact ⟨⟨m, hm⟩, m, hm, hk⟩

theorem pairwise_before_hookable (n : Node) : n.hookable.Pairwise Before :=
  n.pairwise_before_postOrder.filter _

theorem nodup_hookable (n : Node) : n.hookable.Nodup := by
  refine n.pairwise_before_hookable.imp ?_
  rintro p _ hpp rfl
  exact not_before_self p hpp

end Syntax.Node

namespace Syntax

/-! ### Whole texts -/

theorem exists_wholeText {α : Type} {trees : Except SyntaxError α}
    {read : α → Except SyntaxError (List Node)} {part : Part} {tree : Node}
    (h : (do let ts ← trees; return wholeText part (← read ts)) = .ok tree) :
    ∃ nodes, tree = wholeText part nodes := by
  simp only [bind, Except.bind, pure, Except.pure] at h
  split at h
  · cases h
  · split at h
    · cases h
    · rename_i nodes _
      cases h
      exact ⟨nodes, rfl⟩

theorem kind?_of_parseFile {cs : List Char} {tree : Node} (h : parseFile cs = .ok tree) :
    tree.kind? = none := by
  obtain ⟨nodes, rfl⟩ := exists_wholeText h
  rfl

theorem kind?_of_parseStatements {cs : List Char} {tree : Node}
    (h : parseStatements cs = .ok tree) : tree.kind? = none := by
  obtain ⟨nodes, rfl⟩ := exists_wholeText h
  rfl

/-- The tree of a whole text has no kind. -/
theorem kind?_of_parseProgram {cs : List Char} {tree : Node} (h : parseProgram cs = .ok tree) :
    tree.kind? = none := by
  rw [parseProgram] at h
  cases hf : parseFile cs with
  | ok file =>
    rw [hf] at h
    cases h
    exact kind?_of_parseFile hf
  | error e =>
    rw [hf] at h
    cases hs : parseStatements cs with
    | ok statements =>
      rw [hs] at h
      cases h
      exact kind?_of_parseStatements hs
    | error e' =>
      rw [hs] at h
      cases h

end Syntax

namespace Visitor

open Syntax.Node

variable {α : Type}

/-! ### What is left out -/

/-- The node is left out wherever it is not the root. -/
def skips (v : Visitor α) (n : Node) : Bool :=
  n.kind?.any v.skipped.contains

/-- The address is, or is below, a node strictly below the root that is left out. -/
def cutsOff (v : Visitor α) : Node → Address → Bool
  | _, [] => false
  | n, i :: p => n.children[i]?.any fun c => v.skips c || v.cutsOff c p

theorem cutsOff_iff {v : Visitor α} {n : Node} {p : Address} :
    v.cutsOff n p = true ↔ ∃ q, q ≠ [] ∧ q <+: p ∧ ∃ m, n.at? q = some m ∧ v.skips m = true := by
  induction p generalizing n with
  | nil =>
    simp only [cutsOff, Bool.false_eq_true, false_iff]
    rintro ⟨q, hne, hpre, _⟩
    exact hne (List.prefix_nil.1 hpre)
  | cons i p ih =>
    rw [cutsOff, Option.any_eq_true]
    constructor
    · rintro ⟨c, hget, hc⟩
      rw [Bool.or_eq_true, ih] at hc
      rcases hc with hc | ⟨q, _, hpre, m, hm, hs⟩
      · refine ⟨[i], List.cons_ne_nil i [], ⟨p, rfl⟩, c, ?_, hc⟩
        rw [at?, hget]
        rfl
      · refine ⟨i :: q, List.cons_ne_nil i q, List.cons_prefix_cons.2 ⟨rfl, hpre⟩, m, ?_, hs⟩
        rw [at?, hget]
        exact hm
    · rintro ⟨q, hne, hpre, m, hm, hs⟩
      cases q with
      | nil => exact absurd rfl hne
      | cons j q =>
        obtain ⟨rfl, htail⟩ := List.cons_prefix_cons.1 hpre
        rw [at?, Option.bind_eq_some_iff] at hm
        obtain ⟨c, hget, hm⟩ := hm
        refine ⟨c, hget, ?_⟩
        rw [Bool.or_eq_true, ih]
        -- the node that is left out is the child itself, or it is below the child
        cases q with
        | nil =>
          cases hm
          exact .inl hs
        | cons k q => exact .inr ⟨k :: q, List.cons_ne_nil k q, htail, m, hm, hs⟩

theorem skips_iff {v : Visitor α} {n : Node} :
    v.skips n = true ↔ ∃ k, n.kind? = some k ∧ k ∈ v.skipped := by
  rw [skips, Option.any_eq_true]
  simp only [List.contains_iff_mem]

/-! ### What is answered -/

/-- The addresses below and at a root at which the visitor is asked, in post-order. -/
def kept (v : Visitor α) (n : Node) : List Address :=
  n.hookable.filter fun p => !v.cutsOff n p

/-- The answers at an address. -/
def answersAt (v : Visitor α) (n : Node) (p : Address) : List α :=
  (n.at? p).elim [] v.leave

/-- The answers at the addresses that are kept. -/
def trace (v : Visitor α) (n : Node) : List α :=
  (v.kept n).flatMap (v.answersAt n)

/-- Inside a child that is left out nothing is kept; inside another one it is as if the child were the
root. -/
theorem trace_child (v : Visitor α) {n c : Node} {i : Nat} (hget : n.children[i]? = some c) :
    (((c.postOrder.map (i :: ·)).filter fun p =>
        (n.at? p).any fun m => m.kind?.isSome).filter fun p => !v.cutsOff n p).flatMap
          (v.answersAt n) =
      if v.skips c then [] else v.trace c := by
  have hat : ∀ p, n.at? (i :: p) = c.at? p := by
    intro p
    rw [at?, hget]
    rfl
  have hcut : ∀ p, v.cutsOff n (i :: p) = (v.skips c || v.cutsOff c p) := by
    intro p
    rw [cutsOff, hget]
    rfl
  rw [List.filter_map, List.filter_map, List.flatMap_map]
  simp only [Function.comp_def, hat, hcut, answersAt]
  cases hs : v.skips c with
  | true => simp
  | false => simp only [Bool.false_or, Bool.false_eq_true, if_false]; rfl

/-- The answers inside the children of a root, one child after the other, and then those at the root. -/
theorem trace_mk (v : Visitor α) (l : Label) (s : Span) (cs : List Node) :
    v.trace (.mk l s cs) =
      (cs.flatMap fun c => if v.skips c then [] else v.trace c) ++
        if l.kind?.isSome then v.leave (.mk l s cs) else [] := by
  have hchildren : ((((cs.zipIdx.flatMap fun c => c.1.postOrder.map (c.2 :: ·)).filter fun p =>
        ((Node.mk l s cs).at? p).any fun m => m.kind?.isSome).filter fun p =>
          !v.cutsOff (.mk l s cs) p).flatMap (v.answersAt (.mk l s cs))) =
      cs.flatMap fun c => if v.skips c then [] else v.trace c := by
    rw [List.filter_flatMap, List.filter_flatMap, List.flatMap_assoc]
    calc
      _ = cs.zipIdx.flatMap fun c => if v.skips c.1 then [] else v.trace c.1 := by
        refine List.flatMap_congr fun c hc => ?_
        exact v.trace_child (List.mem_zipIdx_iff_getElem?.1 hc)
      _ = (cs.zipIdx.map Prod.fst).flatMap fun c => if v.skips c then [] else v.trace c := by
        rw [List.flatMap_map]
      _ = cs.flatMap fun c => if v.skips c then [] else v.trace c := by
        rw [List.zipIdx_map_fst]
  rw [trace, kept, hookable, postOrder_mk, List.filter_append, List.filter_append,
    List.flatMap_append, hchildren]
  congr 1
  cases hk : l.kind?.isSome with
  | true => simp [at?, kind?, label, hk, cutsOff, answersAt]
  | false => simp [at?, kind?, label, hk]

theorem getLast?_kept (v : Visitor α) (n : Node) :
    (v.kept n).getLast? = some [] ↔ n.kind?.isSome = true := by
  obtain ⟨l, s, cs⟩ := n
  constructor
  · intro h
    have hmem : [] ∈ (Node.mk l s cs).hookable := (List.mem_filter.1 (List.mem_of_getLast? h)).1
    obtain ⟨m, hm, hk⟩ := mem_hookable.1 hmem
    cases hm
    exact hk
  · intro hk
    rw [kept, hookable, postOrder_mk, List.filter_append, List.filter_append]
    simp [at?, hk, cutsOff]

/-! ### The traversal below its root -/

theorem visitAll_none_of_forall {v : Visitor α} {cs : List Node}
    (h : ∀ c ∈ cs, v.visit none c = (if v.skips c then [] else v.trace c, none)) :
    v.visitAll none cs = (cs.flatMap fun c => if v.skips c then [] else v.trace c, none) := by
  induction cs with
  | nil => rfl
  | cons c cs ih =>
    rw [visitAll, h c List.mem_cons_self, ih fun d hd => h d (List.mem_cons_of_mem c hd),
      List.flatMap_cons]

/-- **Below the root the exemption is used up**: the traversal answers nothing at a node that is left
out and everything that is kept at another one, and it leaves no exemption behind. -/
theorem visit_none (v : Visitor α) (n : Node) :
    v.visit none n = (if v.skips n then [] else v.trace n, none) := by
  induction n using induct with
  | mk l s cs ih =>
    have hall := visitAll_none_of_forall ih
    have hskips : v.skips (.mk l s cs) = l.kind?.any v.skipped.contains := rfl
    rw [visit, trace_mk, hskips]
    cases l.kind? with
    | none =>
      rw [Option.any_none, Option.isSome_none, if_neg Bool.false_ne_true,
        if_neg Bool.false_ne_true, List.append_nil]
      exact hall
    | some k =>
      have hprunes : v.prunes none k = v.skipped.contains k := by simp [prunes]
      rw [Option.any_some, Option.isSome_some, if_pos rfl, hall]
      simp only [hprunes]
      cases v.skipped.contains k <;> rfl

theorem visitAll_none (v : Visitor α) (cs : List Node) :
    v.visitAll none cs = (cs.flatMap fun c => if v.skips c then [] else v.trace c, none) :=
  visitAll_none_of_forall fun c _ => v.visit_none c

/-- **The root is not left out**: its own kind is exempt, and nothing below it sees the exemption. -/
theorem delegate_eq_trace (v : Visitor α) (n : Node) : v.delegate n = v.trace n := by
  obtain ⟨l, s, cs⟩ := n
  have hkind : (Node.mk l s cs).kind? = l.kind? := rfl
  rw [delegate, hkind, visit, trace_mk]
  cases l.kind? with
  | none =>
    rw [Option.isSome_none, if_neg Bool.false_ne_true, List.append_nil]
    simp only [visitAll_none]
  | some k =>
    have hprunes : v.prunes (some k) k = false := by simp [prunes]
    simp only [hprunes, visitAll_none]
    rfl

theorem run_eq_trace (v : Visitor α) (source : SourceFile) :
    v.run source.tree = v.trace source.tree := by
  rw [← delegate_eq_trace, run, delegate, kind?_of_parseProgram source.parsed]

/-! ### Visitors that leave nothing out -/

theorem skips_of_skipped_nil {v : Visitor α} (hv : v.skipped = []) (n : Node) : v.skips n = false := by
  rw [skips, hv]
  cases n.kind? <;> rfl

theorem cutsOff_of_skipped_nil {v : Visitor α} (hv : v.skipped = []) (n : Node) (p : Address) :
    v.cutsOff n p = false := by
  induction p generalizing n with
  | nil => rfl
  | cons i p ih =>
    rw [cutsOff, Option.any_eq_false]
    intro c _
    rw [skips_of_skipped_nil hv, ih]
    simp

/-- A visitor that leaves nothing out is asked at every node that has a kind. -/
theorem run_of_skipped_nil {v : Visitor α} (hv : v.skipped = []) (tree : Node) :
    v.run tree = tree.hookable.flatMap (v.answersAt tree) := by
  have hkept : v.kept tree = tree.hookable := by
    rw [kept, List.filter_eq_self]
    intro p _
    rw [cutsOff_of_skipped_nil hv]
    rfl
  rw [run, visit_none, skips_of_skipped_nil hv, trace, hkept]
  rfl

/-- The answers of a visitor that answers with at most one thing that is found at a node. -/
theorem flatMap_answersAt_eq_map {β : Type} {v : Visitor α} {found : Address → Node → Option β}
    {f : β → α} (h : ∀ p n, v.leave n = ((found p n).map f).toList) (tree : Node)
    (ps : List Address) :
    ps.flatMap (v.answersAt tree) = (ps.filterMap fun p => (tree.at? p).bind (found p)).map f := by
  rw [List.map_filterMap, List.filterMap_eq_flatMap_toList]
  refine List.flatMap_congr fun p _ => ?_
  rw [answersAt]
  cases tree.at? p with
  | none => rfl
  | some n => exact h p n

/-! ### Changed answers -/

variable {β : Type}

/-- The visitor that gives changed answers at the same nodes. -/
def map (f : α → β) (v : Visitor α) : Visitor β where
  skipped := v.skipped
  leave n := (v.leave n).map f

theorem cutsOff_map (f : α → β) (v : Visitor α) (n : Node) (p : Address) :
    (v.map f).cutsOff n p = v.cutsOff n p := by
  induction p generalizing n with
  | nil => rfl
  | cons i p ih =>
    simp only [cutsOff, ih]
    rfl

theorem trace_map (f : α → β) (v : Visitor α) (n : Node) :
    (v.map f).trace n = (v.trace n).map f := by
  have hkept : (v.map f).kept n = v.kept n := by simp only [kept, cutsOff_map]
  rw [trace, trace, hkept, List.map_flatMap]
  congr 1
  funext p
  rw [answersAt, answersAt]
  cases n.at? p with
  | none => rfl
  | some m => rfl

theorem delegate_map (f : α → β) (v : Visitor α) (n : Node) :
    (v.map f).delegate n = (v.delegate n).map f := by
  rw [delegate_eq_trace, delegate_eq_trace, trace_map]

theorem run_map (f : α → β) (v : Visitor α) (source : SourceFile) :
    (v.map f).run source.tree = (v.run source.tree).map f := by
  rw [run_eq_trace, run_eq_trace, trace_map]

end Visitor

/-- **A traversal is the pruned post-order.**  From a node that is handed on, and from the tree of a
whole text, the visitor is asked at the nodes that have a kind, in post-order and once at each, except
at those that are, or lie below, a node of a skipped kind strictly below the root.  A root that has a
kind is asked last. -/
theorem Visitor.traversal_eq_pruned_postOrder {α : Type} (v : Visitor α) :
    (∀ n : Node, v.delegate n =
      (n.hookable.filter fun p => !v.cutsOff n p).flatMap (v.answersAt n)) ∧
    (∀ source : SourceFile, v.run source.tree =
      (source.tree.hookable.filter fun p => !v.cutsOff source.tree p).flatMap
        (v.answersAt source.tree)) ∧
    ∀ n : Node,
      n.hookable.Nodup ∧ n.hookable.Pairwise Node.Before ∧
      (∀ p, p ∈ n.hookable ↔ ∃ m, n.at? p = some m ∧ m.kind?.isSome = true) ∧
      (∀ p, v.cutsOff n p = true ↔ ∃ q, q ≠ [] ∧ q <+: p ∧
        ∃ m k, n.at? q = some m ∧ m.kind? = some k ∧ k ∈ v.skipped) ∧
      ((n.hookable.filter fun p => !v.cutsOff n p).getLast? = some [] ↔ n.kind?.isSome = true) := by
  refine ⟨v.delegate_eq_trace, v.run_eq_trace, fun n => ?_⟩
  refine ⟨n.nodup_hookable, n.pairwise_before_hookable, fun p => Node.mem_hookable, fun p => ?_, ?_⟩
  · rw [Visitor.cutsOff_iff]
    simp only [Visitor.skips_iff, exists_and_left]
  · exact v.getLast?_kept n

/-- A module that is handed on is left last, while the module inside it is left out with its function. -/
example : Visitor.delegate ⟨[.module], fun n => [n.kind?]⟩
    (.mk (.module "outer") default
      [.mk (.struct "s") default [],
        .mk (.part .items) default [.mk (.module "inner") default [.mk (.function "f") default []]]]) =
    [some .struct, some .module] := by
  decide

end SourceLint
