import SourceLint.Proofs.Syntax.Parsed
import SourceLint.Rules.LegacyCall

/-!
# Which calls in legacy modules are reported

One visitor looks for legacy modules and hands each of them to a second one, which reports calls but leaves
modules out, except the one at which it begins.  So a call is reported by the nearest module around it and
by no other.

* **`NearestModule`** — the module around an address that all other modules around it enclose.
* **`cutsOff_eq_false_iff_nearest`** — a traversal that begins at a module and leaves out the modules inside
  it comes to what has this module as its nearest one.
* **`Reports`** — a call of one of the functions whose nearest module is a legacy module.
* **`legacyCalls`** — these calls, one module after the other.
* **`check_reports_legacy_calls`** — the rule reports these calls, each of them once, and nothing else.
-/

namespace SourceLint

open Syntax Syntax.Node

namespace Syntax.Node

/-! ### The nearest module -/

/-- A module with the name stands at the address. -/
def IsModuleAt (tree : Node) (q : Address) (name : String) : Prop :=
  ∃ m, tree.at? q = some m ∧ m.label = .module name

/-- The module around the address that is nearest to it: all modules around the address are around this
one or are this one. -/
structure NearestModule (tree : Node) (p q : Address) (name : String) : Prop where
  isModule : tree.IsModuleAt q name
  around : q <+: p ∧ q ≠ p
  nearest : ∀ q' name', tree.IsModuleAt q' name' → q' <+: p → q' ≠ p → q' <+: q

variable {tree n m : Node} {p q : Address} {name : String}

theorem NearestModule.unique (h : tree.NearestModule p q name) {q' : Address} {name' : String}
    (h' : tree.NearestModule p q' name') : q = q' :=
  have hle : q <+: q' := h'.nearest q name h.isModule h.around.1 h.around.2
  have hge : q' <+: q := h.nearest q' name' h'.isModule h'.around.1 h'.around.2
  hle.eq_of_length_le hge.length_le

theorem kind?_eq_module : n.kind? = some .module ↔ ∃ name, n.label = .module name := by
  rw [kind?]
  cases n.label <;> simp [Label.kind?]

/-- A traversal that begins at a module and leaves out the modules inside it does not come to what is in
such a module. -/
theorem cutsOff_iff_module {α : Type} {v : Visitor α} (hv : v.skipped = [.module])
    (hat : tree.at? q = some m) :
    v.cutsOff m p = true ↔
      ∃ r name', r ≠ [] ∧ r <+: p ∧ tree.IsModuleAt (q ++ r) name' := by
  have hinside : ∀ r, tree.at? (q ++ r) = m.at? r := by
    intro r
    rw [at?_append, hat, Option.bind_some]
  have hskips : ∀ n, v.skips n = true ↔ ∃ name', n.label = .module name' := by
    intro n
    rw [Visitor.skips_iff, hv, ← kind?_eq_module]
    simp
  rw [Visitor.cutsOff_iff]
  simp only [hskips, IsModuleAt, hinside]
  constructor
  · rintro ⟨r, hr, hpre, n, hn, name', hlabel⟩
    exact ⟨r, name', hr, hpre, n, hn, hlabel⟩
  · rintro ⟨r, name', hr, hpre, n, hn, hlabel⟩
    exact ⟨r, hr, hpre, n, hn, name', hlabel⟩

/-- What it comes to are the nodes that have this module as their nearest one. -/
theorem cutsOff_eq_false_iff_nearest {α : Type} {v : Visitor α} (hv : v.skipped = [.module])
    (hmodule : tree.IsModuleAt q name) (hat : tree.at? q = some m)
    (hother : ∀ name', ¬ tree.IsModuleAt (q ++ p) name') :
    v.cutsOff m p = false ↔ tree.NearestModule (q ++ p) q name := by
  rw [← Bool.not_eq_true, cutsOff_iff_module hv hat]
  constructor
  · intro hcut
    have hproper : q ≠ q ++ p := fun h => hother name (h ▸ hmodule)
    refine ⟨hmodule, ⟨List.prefix_append q p, hproper⟩, ?_⟩
    intro q' name' hmodule' hpre _
    rcases List.prefix_or_prefix_of_prefix hpre (List.prefix_append q p) with h | ⟨r, rfl⟩
    · exact h
    · -- a module strictly inside this one would be left out with what is in it
      by_contra hlonger
      refine hcut ⟨r, name', ?_, (List.prefix_append_right_inj q).1 hpre, hmodule'⟩
      rintro rfl
      simp at hlonger
  · rintro hnearest ⟨r, name', hr, hpre, hmodule'⟩
    have hproper : q ++ r ≠ q ++ p := fun h => hother name' (h ▸ hmodule')
    have hle : q ++ r <+: q :=
      hnearest.nearest _ name' hmodule' ((List.prefix_append_right_inj q).2 hpre) hproper
    exact hr (List.append_right_eq_self.1 (hle.eq_of_length_le (by simp)))

end Syntax.Node

namespace LegacyCall

/-! ### What the rule looks for -/

/-- A call in a legacy module. -/
structure Found where
  /-- Where the nearest module around the call stands in the tree. -/
  module : Address
  /-- Where the call stands in the tree. -/
  place : Address
  /-- The stretch of text that the call covers. -/
  span : Span

/-- At the address stands a call of one of the functions by its mere name, and the name of the nearest
module around it begins as that of a legacy module. -/
def Reports (r : LegacyCall) (tree : Node) (c : Found) : Prop :=
  (∃ n, ∃ name ∈ r.names, tree.at? c.place = some n ∧ n.CallsPath (.ofName name) ∧ n.span = c.span) ∧
    ∃ name, tree.NearestModule c.place c.module name ∧ "legacy_".toList <+: name.toList

/-- One call comes before the other: modules in post-order, and the calls of a module in post-order. -/
def Found.Precedes (c d : Found) : Prop :=
  Before c.module d.module ∨ c.module = d.module ∧ Before c.place d.place

/-- The report on a call: it is located at the call. -/
def Found.violation (r : LegacyCall) (source : SourceFile) (c : Found) : Violation :=
  source.violation identifier r.severity c.span "legacy call"

/-! ### The calls of one module -/

variable (r : LegacyCall) (source : SourceFile)

/-- What is found at an address inside a module. -/
def foundAt? (q : Address) (m : Node) (p : Address) : Option Found :=
  (m.at? p).bind fun n => if isLegacyCall r.names n then some ⟨q, q ++ p, n.span⟩ else none

/-- The calls that the second visitor finds in a module at an address. -/
def callsIn (q : Address) (m : Node) : List Found :=
  ((r.callVisitor source).kept m).filterMap (r.foundAt? q m)

/-- The calls that are found at an address, if it is that of a legacy module. -/
def callsAt (tree : Node) (q : Address) : List Found :=
  (tree.at? q).elim [] fun m => if isLegacyModule m then r.callsIn source q m else []

/-- The calls in legacy modules, one module after the other. -/
def legacyCalls (tree : Node) : List Found :=
  tree.hookable.flatMap (r.callsAt source tree)

variable {r source} {tree n m : Node} {p q : Address} {c : Found}

theorem isLegacyModule_iff :
    isLegacyModule n = true ↔ ∃ name, n.label = .module name ∧ "legacy_".toList <+: name.toList := by
  rw [isLegacyModule]
  cases n.label <;> simp [isLegacyName, Text.beginsWith, List.isPrefixOf_iff_prefix]

theorem isLegacyCall_iff {names : List String} :
    isLegacyCall names n = true ↔
      ∃ p, n.label = .call (some p) ∧ ∃ name ∈ names, p.path.isName name = true := by
  rw [isLegacyCall]
  constructor
  · intro h
    split at h
    · rename_i p hlabel
      exact ⟨p, hlabel, List.any_eq_true.1 h⟩
    · cases h
  · rintro ⟨p, hlabel, hname⟩
    rw [hlabel]
    exact List.any_eq_true.2 hname

/-- In the tree of a text the calls are those that the nodes below them say. -/
theorem isLegacyCall_iff_callsPath {names : List String} {place : Address}
    (hat : source.tree.at? place = some n) :
    isLegacyCall names n = true ↔ ∃ name ∈ names, n.CallsPath (.ofName name) := by
  rw [isLegacyCall_iff]
  constructor
  · rintro ⟨p, hlabel, name, hmem, hname⟩
    have hcalls := (SourceFile.label_eq_call_iff hat).1 hlabel
    obtain rfl := (SourceFile.isName_iff_of_callsPath hat hcalls).1 hname
    exact ⟨name, hmem, hcalls⟩
  · rintro ⟨name, hmem, hcalls⟩
    exact ⟨_, (SourceFile.label_eq_call_iff hat).2 hcalls, name, hmem,
      (SourceFile.isName_iff_of_callsPath hat hcalls).2 rfl⟩

theorem foundAt?_eq_some :
    r.foundAt? q m p = some c ↔
      ∃ n, m.at? p = some n ∧ isLegacyCall r.names n = true ∧ c = ⟨q, q ++ p, n.span⟩ := by
  simp only [foundAt?, Option.bind_eq_some_iff, Option.ite_none_right_eq_some, Option.some.injEq,
    eq_comm (a := c)]

theorem mem_callsAt :
    c ∈ r.callsAt source tree q ↔
      ∃ m, tree.at? q = some m ∧ isLegacyModule m = true ∧
        ∃ p ∈ (r.callVisitor source).kept m, r.foundAt? q m p = some c := by
  rw [callsAt]
  cases tree.at? q with
  | none => simp
  | some m =>
    rw [Option.elim_some]
    split <;> simp [callsIn, *]

/-- What is found at a module is what has it as its nearest module. -/
theorem module_of_mem_callsAt (h : c ∈ r.callsAt source tree q) : c.module = q := by
  obtain ⟨m, -, -, p, -, hc⟩ := mem_callsAt.1 h
  obtain ⟨n, -, -, rfl⟩ := foundAt?_eq_some.1 hc
  rfl

/-- The calls of a module are found in post-order. -/
theorem pairwise_before_callsAt (tree : Node) (q : Address) :
    (r.callsAt source tree q).Pairwise fun c d => Before c.place d.place := by
  rw [callsAt]
  cases tree.at? q with
  | none => exact .nil
  | some m =>
    rw [Option.elim_some]
    split
    · rw [callsIn, List.pairwise_filterMap]
      refine (m.pairwise_before_hookable.filter _).imp fun {p p'} hbefore c hc d hd => ?_
      obtain ⟨-, -, -, rfl⟩ := foundAt?_eq_some.1 hc
      obtain ⟨-, -, -, rfl⟩ := foundAt?_eq_some.1 hd
      exact hbefore.append_left q
    · exact .nil

/-- The calls are found in the order of their modules. -/
theorem pairwise_precedes_legacyCalls (r : LegacyCall) (source : SourceFile) (tree : Node) :
    (r.legacyCalls source tree).Pairwise Found.Precedes := by
  rw [legacyCalls, List.pairwise_flatMap]
  constructor
  · intro q _
    refine (pairwise_before_callsAt tree q).imp_of_mem fun hc hd hbefore => .inr ⟨?_, hbefore⟩
    rw [module_of_mem_callsAt hc, module_of_mem_callsAt hd]
  · refine tree.pairwise_before_hookable.imp fun hbefore c hc d hd => .inl ?_
    rwa [module_of_mem_callsAt hc, module_of_mem_callsAt hd]

/-- Where a call stands, there stands no module. -/
theorem not_isModuleAt_of_call {names : List String} {place : Address}
    (hat : tree.at? place = some n) (hcall : isLegacyCall names n = true) (name : String) :
    ¬ tree.IsModuleAt place name := by
  rintro ⟨n', hat', hmodule⟩
  obtain rfl : n = n' := Option.some.inj (hat.symm.trans hat')
  obtain ⟨p, hlabel, -⟩ := isLegacyCall_iff.1 hcall
  rw [hmodule] at hlabel
  cases hlabel

/-- **A call is found at its nearest module**, if that is a legacy module. -/
theorem mem_legacyCalls :
    c ∈ r.legacyCalls source source.tree ↔ r.Reports source.tree c := by
  rw [legacyCalls, List.mem_flatMap]
  constructor
  · rintro ⟨q, -, hc⟩
    obtain ⟨m, hat, hlegacy, p, hkept, hfound⟩ := mem_callsAt.1 hc
    obtain ⟨n, hn, hcall, rfl⟩ := foundAt?_eq_some.1 hfound
    obtain ⟨name, hm, hname⟩ := isLegacyModule_iff.1 hlegacy
    have hplace : source.tree.at? (q ++ p) = some n := by
      rw [at?_append, hat, Option.bind_some, hn]
    have hcut : (r.callVisitor source).cutsOff m p = false := by
      simpa using (List.mem_filter.1 hkept).2
    obtain ⟨name', hmem, hcalls⟩ := (isLegacyCall_iff_callsPath hplace).1 hcall
    exact ⟨⟨n, name', hmem, hplace, hcalls, rfl⟩, name,
      (cutsOff_eq_false_iff_nearest rfl ⟨m, hat, hm⟩ hat (not_isModuleAt_of_call hplace hcall)).1 hcut,
      hname⟩
  · obtain ⟨q, place, span⟩ := c
    rintro ⟨⟨n, name', hmem, hplace, hcalls, rfl⟩, name, hnearest, hname⟩
    obtain ⟨m, hat, hm⟩ := hnearest.isModule
    obtain ⟨p, rfl⟩ : ∃ p, q ++ p = place := hnearest.around.1
    have hcall : isLegacyCall r.names n = true :=
      (isLegacyCall_iff_callsPath hplace).2 ⟨name', hmem, hcalls⟩
    have hcut : (r.callVisitor source).cutsOff m p = false :=
      (cutsOff_eq_false_iff_nearest rfl ⟨m, hat, hm⟩ hat (not_isModuleAt_of_call hplace hcall)).2
        hnearest
    have hn : m.at? p = some n := by
      rwa [at?_append, hat, Option.bind_some] at hplace
    have hkept : p ∈ (r.callVisitor source).kept m := by
      refine List.mem_filter.2 ⟨mem_hookable.2 ⟨n, hn, ?_⟩, by rw [hcut]; rfl⟩
      obtain ⟨e, hcalls, -⟩ := hcalls
      rw [hcalls.1]
      rfl
    refine ⟨q, mem_hookable.2 ⟨m, hat, by rw [kind?_eq_module.2 ⟨name, hm⟩]; rfl⟩, ?_⟩
    exact mem_callsAt.2 ⟨m, hat, isLegacyModule_iff.2 ⟨name, hm, hname⟩, p, hkept,
      foundAt?_eq_some.2 ⟨n, hn, hcall, rfl⟩⟩

/-- No call is found twice: a call has one nearest module, and there it is found once. -/
theorem nodup_legacyCalls (r : LegacyCall) (source : SourceFile) :
    ((r.legacyCalls source source.tree).map (·.place)).Nodup := by
  rw [List.Nodup, List.pairwise_map]
  refine (pairwise_precedes_legacyCalls r source source.tree).imp_of_mem ?_
  intro c d hc hd hprecedes hsame
  obtain ⟨-, name, hnearest, -⟩ := mem_legacyCalls.1 hc
  obtain ⟨-, name', hnearest', -⟩ := mem_legacyCalls.1 hd
  have hmodule : c.module = d.module := hnearest.unique (hsame ▸ hnearest')
  rcases hprecedes with hbefore | ⟨-, hbefore⟩
  · rw [hmodule] at hbefore
    exact not_before_self _ hbefore
  · rw [hsame] at hbefore
    exact not_before_self _ hbefore

/-! ### What is reported -/

/-- The second visitor answers at each call of a module. -/
theorem delegate_callVisitor_eq_callsIn (r : LegacyCall) (source : SourceFile) (q : Address)
    (m : Node) :
    (r.callVisitor source).delegate m = (r.callsIn source q m).map (Found.violation r source) := by
  rw [Visitor.delegate_eq_trace, Visitor.trace]
  refine Visitor.flatMap_answersAt_eq_map (fun p n => ?_) m _
  rw [callVisitor]
  dsimp only
  split <;> rfl

/-- The first visitor answers with the calls of one module after the other. -/
theorem run_visitor_eq_legacyCalls (r : LegacyCall) (source : SourceFile) (tree : Node) :
    (r.visitor source).run tree = (r.legacyCalls source tree).map (Found.violation r source) := by
  rw [Visitor.run_of_skipped_nil rfl, legacyCalls, List.map_flatMap]
  refine List.flatMap_congr fun q _ => ?_
  rw [Visitor.answersAt, callsAt]
  cases tree.at? q with
  | none => rfl
  | some m =>
    simp only [Option.elim_some, visitor]
    split
    · exact delegate_callVisitor_eq_callsIn r source q m
    · rfl

/-- **The rule reports exactly the calls in legacy modules, each of them once**: its report on a source is
a list of the calls of the functions by their mere names whose nearest module has a name that marks it as
legacy.  The calls of a module come after those of the modules inside it. -/
theorem check_reports_legacy_calls (r : LegacyCall) (source : SourceFile) :
    ∃ calls : List Found, (calls.map (·.place)).Nodup ∧
      (∀ c, c ∈ calls ↔ r.Reports source.tree c) ∧
      calls.Pairwise Found.Precedes ∧
      r.rule.check source = calls.map (Found.violation r source) :=
  ⟨r.legacyCalls source source.tree, nodup_legacyCalls r source, fun _ => mem_legacyCalls,
    pairwise_precedes_legacyCalls r source source.tree,
    run_visitor_eq_legacyCalls r source source.tree⟩

end LegacyCall

end SourceLint
