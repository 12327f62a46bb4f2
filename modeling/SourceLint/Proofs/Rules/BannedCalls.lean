import SourceLint.Proofs.Syntax.Parsed
import SourceLint.Rules.PreferExpect

/-!
# Which calls of assertion functions are reported

The rule asks about every node of a kind, wherever it stands, and reads the function that a call calls off
the label of the call.  What it should find is said without the label: the nodes below the call name the
function.

* **`IsBanned`** — a call of a function whose name begins with the prefix, with its address.
* **`bannedCalls`** — these calls in post-order.
* **`run_visitor_eq_bannedCalls`** — the visitor answers at each of them.
* **`check_reports_banned_calls`** — the rule reports these calls, each of them once, and nothing else.
-/

namespace SourceLint

open Syntax Syntax.Node

namespace PreferExpect

/-- A call of a function by its name. -/
structure BannedCall where
  /-- Where the call stands in the tree. -/
  place : Address
  /-- The last name of the path that is called. -/
  name : String
  /-- The stretch of text that the call covers. -/
  span : Span

/-- At the address stands a call of what some path names, and its last name begins with the prefix. -/
def IsBanned (start : String) (tree : Node) (c : BannedCall) : Prop :=
  ∃ n p, tree.at? c.place = some n ∧ n.CallsPath p ∧ p.path.lastName? = some c.name ∧
    start.toList <+: c.name.toList ∧ n.span = c.span

/-- The report on a call: it is located at the call and names the function. -/
def BannedCall.violation (r : PreferExpect) (source : SourceFile) (c : BannedCall) : Violation :=
  source.violation identifier r.severity c.span (reason c.name)

/-- What is banned of the node at an address. -/
def bannedCallAt? (start : String) (tree : Node) (place : Address) : Option BannedCall :=
  (tree.at? place).bind fun n => (bannedCall? start n).map fun name => ⟨place, name, n.span⟩

/-- The calls that are banned, in post-order. -/
def bannedCalls (start : String) (tree : Node) : List BannedCall :=
  tree.hookable.filterMap (bannedCallAt? start tree)

variable {start : String} {tree n : Node} {name : String} {c : BannedCall}

theorem bannedCall?_eq_some :
    bannedCall? start n = some name ↔
      ∃ p, n.label = .call (some p) ∧ p.path.lastName? = some name ∧
        start.toList <+: name.toList := by
  constructor
  · intro h
    unfold bannedCall? at h
    split at h
    · rename_i p hlabel
      obtain ⟨hname, hstart⟩ := Option.filter_eq_some_iff.1 h
      exact ⟨p, hlabel, hname, List.isPrefixOf_iff_prefix.1 hstart⟩
    · cases h
  · rintro ⟨p, hlabel, hname, hstart⟩
    rw [bannedCall?, hlabel]
    exact Option.filter_eq_some_iff.2 ⟨hname, List.isPrefixOf_iff_prefix.2 hstart⟩

theorem bannedCallAt?_eq_some {place : Address} :
    bannedCallAt? start tree place = some c ↔
      ∃ n, tree.at? place = some n ∧ bannedCall? start n = some c.name ∧ place = c.place ∧
        n.span = c.span := by
  simp only [bannedCallAt?, Option.bind_eq_some_iff, Option.map_eq_some_iff]
  constructor
  · rintro ⟨n, hat, name, hname, rfl⟩
    exact ⟨n, hat, hname, rfl, rfl⟩
  · rintro ⟨n, hat, hname, rfl, hspan⟩
    exact ⟨n, hat, c.name, hname, by rw [hspan]⟩

/-- The calls are in post-order. -/
theorem pairwise_before_bannedCalls (start : String) (tree : Node) :
    ((bannedCalls start tree).map (·.place)).Pairwise Before := by
  rw [List.pairwise_map, bannedCalls, List.pairwise_filterMap]
  refine tree.pairwise_before_hookable.imp fun {p q} hbefore c hc d hd => ?_
  obtain ⟨-, -, -, rfl, -⟩ := bannedCallAt?_eq_some.1 hc
  obtain ⟨-, -, -, rfl, -⟩ := bannedCallAt?_eq_some.1 hd
  exact hbefore

/-- In the tree of a text the banned calls are those that the nodes below them say. -/
theorem mem_bannedCalls {source : SourceFile} :
    c ∈ bannedCalls start source.tree ↔ IsBanned start source.tree c := by
  rw [bannedCalls, List.mem_filterMap]
  constructor
  · rintro ⟨place, -, hc⟩
    obtain ⟨n, hat, hbanned, rfl, hspan⟩ := bannedCallAt?_eq_some.1 hc
    obtain ⟨p, hlabel, hname, hstart⟩ := bannedCall?_eq_some.1 hbanned
    exact ⟨n, p, hat, (SourceFile.label_eq_call_iff hat).1 hlabel, hname, hstart, hspan⟩
  · rintro ⟨n, p, hat, hcalls, hname, hstart, hspan⟩
    have hlabel := (SourceFile.label_eq_call_iff hat).2 hcalls
    refine ⟨c.place, mem_hookable.2 ⟨n, hat, ?_⟩, bannedCallAt?_eq_some.2 ⟨n, hat, ?_, rfl, hspan⟩⟩
    · rw [kind?, hlabel]
      rfl
    · exact bannedCall?_eq_some.2 ⟨p, hlabel, hname, hstart⟩

/-- The visitor answers at each of the calls, and nowhere else. -/
theorem run_visitor_eq_bannedCalls (r : PreferExpect) (source : SourceFile) (tree : Node) :
    (r.visitor source).run tree =
      (bannedCalls r.bannedPrefix tree).map (BannedCall.violation r source) := by
  rw [Visitor.run_of_skipped_nil rfl]
  refine Visitor.flatMap_answersAt_eq_map (fun place n => ?_) tree _
  rw [visitor]
  dsimp only
  cases bannedCall? r.bannedPrefix n <;> rfl

/-- **The rule reports exactly the calls of functions whose names begin with the prefix.**  Its report on a
source is a list of these calls in post-order, so that a call in the arguments of another one comes first
and no call comes twice; each is located at the call and names the function.  Where something is reported,
there stands a call, and what it calls is a path. -/
theorem check_reports_banned_calls (r : PreferExpect) (source : SourceFile) :
    ∃ calls : List BannedCall, (calls.map (·.place)).Pairwise Before ∧
      (∀ c, c ∈ calls ↔ IsBanned r.bannedPrefix source.tree c) ∧
      (∀ c ∈ calls, ∀ n, source.tree.at? c.place = some n →
        n.kind? = some .call ∧ ∀ e, n.Calls e → e.pathExpression? ≠ none) ∧
      r.rule.check source = calls.map (BannedCall.violation r source) := by
  refine ⟨bannedCalls r.bannedPrefix source.tree, pairwise_before_bannedCalls _ _,
    fun _ => mem_bannedCalls, fun c hc n hat => ?_, run_visitor_eq_bannedCalls r source source.tree⟩
  obtain ⟨n', p, hat', ⟨e, hcalls, hp⟩, -⟩ := mem_bannedCalls.1 hc
  obtain rfl : n' = n := Option.some.inj (hat'.symm.trans hat)
  refine ⟨hcalls.1, fun e' hcalls' hnone => ?_⟩
  rw [hcalls'.unique hcalls, hp] at hnone
  cases hnone

end PreferExpect

end SourceLint
