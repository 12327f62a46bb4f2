import SourceLint.Proofs.Syntax.ItemShape
import SourceLint.Proofs.Traversal.PostOrder

/-!
# The nodes of a parsed text

Whatever the text, every node of its tree stands where its shape allows it and is what its label says.  A
call is written down twice, in the label and in the nodes below it, and the two agree.

* **`Node.Calls`**, **`Node.CallsPath`** — what a call calls, read off the nodes below it.
* **`exists_fits_of_at?`** — every node has the shape of its place.
* **`SourceFile.label_eq_call_iff`** — the label of a call repeats the path that is called.
* **`SourceFile.isName_iff_of_callsPath`** — the path that is called is a name only if no type precedes it.
-/

namespace SourceLint.Syntax

namespace Node

/-! ### What is called -/

/-- The node is a call of the expression, which stands right before the arguments.  Attributes of the call
may stand before it. -/
def Calls (n e : Node) : Prop :=
  n.kind? = some .call ∧
    ∃ front s arguments, n.children = front ++ [.mk (.part .callee) s [e], arguments]

/-- The node is a call of what the path names. -/
def CallsPath (n : Node) (p : TypedPath) : Prop :=
  ∃ e, n.Calls e ∧ e.pathExpression? = some p

/-- A call calls one expression. -/
theorem Calls.unique {n e e' : Node} (h : n.Calls e) (h' : n.Calls e') : e = e' := by
  obtain ⟨-, front, s, arguments, hchildren⟩ := h
  obtain ⟨-, front', s', arguments', hchildren'⟩ := h'
  have hlast := List.append_inj_right' (hchildren.symm.trans hchildren') rfl
  simp only [List.cons.injEq, Node.mk.injEq] at hlast
  exact hlast.1.2.2.1

theorem kind?_eq_call {n : Node} : n.kind? = some .call ↔ ∃ callee, n.label = .call callee := by
  rw [kind?]
  cases n.label <;> simp [Label.kind?]

/-! ### What a node of a known shape says -/

/-- Every node of a tree has the shape of its place. -/
theorem exists_fits_of_at? {σ : Shape} {tree n : Node} {p : Address} (h : tree.fits σ = true)
    (hat : tree.at? p = some n) : ∃ τ : Shape, n.fits τ = true := by
  induction p generalizing σ tree with
  | nil =>
    cases hat
    exact ⟨σ, h⟩
  | cons i p ih =>
    obtain ⟨l, s, cs⟩ := tree
    rw [at?, Option.bind_eq_some_iff] at hat
    obtain ⟨c, hget, hat⟩ := hat
    obtain ⟨τs, _, hcs, _⟩ := fits_iff.1 h
    obtain ⟨τ, _, hfits⟩ := hcs c (List.mem_of_getElem? hget)
    exact ih hfits hat

theorem exists_fits_of_mem_children {σ : Shape} {n c : Node} (h : n.fits σ = true)
    (hc : c ∈ n.children) : ∃ τ : Shape, c.fits τ = true := by
  obtain ⟨i, hi⟩ := List.mem_iff_getElem?.1 hc
  refine exists_fits_of_at? h (p := [i]) ?_
  rw [at?, hi]
  rfl

theorem describes_of_fits {σ : Shape} {n : Node} (h : n.fits σ = true) :
    n.label.describes n.children = true := by
  obtain ⟨l, s, cs⟩ := n
  obtain ⟨_, _, _, hdescribes⟩ := fits_iff.1 h
  exact hdescribes

/-- A path is proper wherever it stands in a tree. -/
theorem isProper_of_fits {σ : Shape} {e : Node} {p : TypedPath} (h : e.fits σ = true)
    (hp : e.pathExpression? = some p) : p.isProper = true := by
  have hdescribes := describes_of_fits h
  unfold pathExpression? at hp
  split at hp
  · rename_i hlabel
    rw [hlabel] at hdescribes
    cases hp
    exact hdescribes
  · cases hp

/-- A call calls an expression whose path the label repeats. -/
theorem exists_calls_of_fits {σ : Shape} {n : Node} (h : n.fits σ = true)
    {callee : Option TypedPath} (hlabel : n.label = .call callee) :
    ∃ e, n.Calls e ∧ e.pathExpression? = callee := by
  have hdescribes := describes_of_fits h
  rw [hlabel, Label.describes_call] at hdescribes
  obtain ⟨front, s, e, arguments, hchildren, hcallee⟩ := hdescribes
  exact ⟨e, ⟨kind?_eq_call.2 ⟨callee, hlabel⟩, front, s, arguments, hchildren⟩, hcallee⟩

theorem CallsPath.isProper {σ : Shape} {n : Node} {p : TypedPath} (h : n.fits σ = true)
    (hcalls : n.CallsPath p) : p.isProper = true := by
  obtain ⟨e, ⟨-, front, s, arguments, hchildren⟩, hp⟩ := hcalls
  have hmem : .mk (.part .callee) s [e] ∈ n.children := by simp [hchildren]
  obtain ⟨τ, hcallee⟩ := exists_fits_of_mem_children h hmem
  obtain ⟨τ', he⟩ := exists_fits_of_mem_children hcallee (List.mem_singleton_self e)
  exact isProper_of_fits he hp

end Node

/-! ### Paths that are names -/

/-- The path that is nothing but a name. -/
def TypedPath.ofName (name : String) : TypedPath :=
  ⟨false, ⟨false, [⟨name, .absent⟩]⟩⟩

theorem TypedPath.isName_iff_of_isProper {p : TypedPath} (h : p.isProper = true) {name : String} :
    p.path.isName name = true ↔ p = .ofName name := by
  obtain ⟨qualified, global, segments⟩ := p
  constructor
  · intro hname
    simp only [Path.isName, Bool.and_eq_true, Bool.not_eq_true', beq_iff_eq] at hname
    obtain ⟨rfl, rfl⟩ := hname
    cases qualified with
    | false => rfl
    | true => cases h
  · rintro h
    cases h
    simp [Path.isName]

end SourceLint.Syntax

namespace SourceLint

open Syntax Syntax.Node

section Source

variable {source : SourceFile} {place : Address} {n : Node} (hat : source.tree.at? place = some n)

include hat

theorem SourceFile.exists_fits : ∃ σ : Shape, n.fits σ = true :=
  exists_fits_of_at? (plain_of_parseProgram source.parsed) hat

/-- In the tree of a text the label of a call repeats the path that is called. -/
theorem SourceFile.label_eq_call_iff {p : TypedPath} :
    n.label = .call (some p) ↔ n.CallsPath p := by
  obtain ⟨σ, hfits⟩ := SourceFile.exists_fits hat
  constructor
  · exact exists_calls_of_fits hfits
  · rintro ⟨e, hcalls, hp⟩
    obtain ⟨callee, hlabel⟩ := kind?_eq_call.1 hcalls.1
    obtain ⟨e', hcalls', hcallee⟩ := exists_calls_of_fits hfits hlabel
    rw [hlabel, ← hcallee, hcalls'.unique hcalls, hp]

/-- A path that is called is a name only if nothing else belongs to it, not even a type. -/
theorem SourceFile.isName_iff_of_callsPath {p : TypedPath} (hcalls : n.CallsPath p) {name : String} :
    p.path.isName name = true ↔ p = .ofName name := by
  obtain ⟨σ, hfits⟩ := SourceFile.exists_fits hat
  exact TypedPath.isName_iff_of_isProper (hcalls.isProper hfits)

end Source

end SourceLint
